import Predictive.Unicode.Derived
/-!
# Word characters

Whether a character can be part of a word. Most texts stay within ASCII, where the letters, the
digits and the underscore count.
-/
namespace Predictive

def isWordChar (c : Char) : Bool :=
  if c.toNat < 0x80 then c.isAlphanum || c = '_' else inRanges Unicode.wordCharacters c.toNat

def isAsciiWordChar (c : Char) : Bool := c.isAlphanum || c = '_'

end Predictive
