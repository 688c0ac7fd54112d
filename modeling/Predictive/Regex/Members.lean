import Predictive.Regex.Phrase
import Predictive.Text.CaseFold
import Predictive.Unicode.Query
/-!
# Members of classes

The characters that classes stand for under given flags. Without the flag `u` classes stay within
ASCII: characters beyond it, properties and complements are refused. Case is folded before the
complement is taken.
-/
namespace Predictive

namespace Regex

def unicodeShorthand : Shorthand → Ranges
  | .decimal => Unicode.decimalNumbers
  | .blank => blankRanges
  | .word => Unicode.wordCharacters

def asciiShorthand : Shorthand → Ranges
  | .decimal => [(0x30, 0x39)]
  | .blank => [(0x9, 0xD), (0x20, 0x20)]
  | .word => [(0x30, 0x39), (0x41, 0x5A), (0x5F, 0x5F), (0x61, 0x7A)]

def PropertyQuery.members : PropertyQuery → Option Ranges
  | name text => Unicode.charactersNamed text
  | value property text => Unicode.charactersWith property text

def SetOperator.apply : SetOperator → Ranges → Ranges → Ranges
  | inter => Ranges.inter
  | diff => Ranges.diff
  | symmDiff => Ranges.symmDiff

namespace Flags

def foldCase (f : Flags) (a : Ranges) : Ranges :=
  if !f.ignoreCase then a
  else if f.unicode then Predictive.foldCase a
  else foldAsciiCase a

/-- The members themselves or all other characters. -/
def negate (f : Flags) (negated : Bool) (a : Ranges) : Option Ranges :=
  if !negated then some a
  else if f.unicode then some (Ranges.compl a)
  else none

def shorthand (f : Flags) (negated : Bool) (s : Shorthand) : Option Ranges :=
  f.negate negated (if f.unicode then unicodeShorthand s else asciiShorthand s)

def property (f : Flags) (negated : Bool) (q : PropertyQuery) : Option Ranges :=
  if f.unicode then q.members.bind (fun a => f.negate negated (f.foldCase a)) else none

/-- Whether a character may stand in brackets. -/
def admits (f : Flags) (c : Char) : Bool := f.unicode || c.toNat < 0x80

end Flags

namespace SetPhrase

mutual

def members (f : Flags) : SetPhrase → Option Ranges
  | empty => some []
  | literal c => if f.admits c then some (Ranges.single c) else none
  | range low high => if f.admits high then some [(low.toNat, high.toNat)] else none
  | named negated a => f.negate negated (f.foldCase a)
  | shorthand negated s => f.shorthand negated s
  | property negated q => f.property negated q
  | union items => (membersOfEach f items).map Ranges.unions
  | bracket negated contents => (contents.members f).bind (fun a => f.negate negated (f.foldCase a))
  | operation operator left right =>
    match left.members f, right.members f with
    | some a, some b => some (operator.apply (f.foldCase a) (f.foldCase b))
    | _, _ => none

def membersOfEach (f : Flags) : List SetPhrase → Option (List Ranges)
  | [] => some []
  | item :: items =>
    match item.members f, membersOfEach f items with
    | some a, some rest => some (a :: rest)
    | _, _ => none

end

end SetPhrase

end Regex

end Predictive
