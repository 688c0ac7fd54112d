import Predictive.Ordered.Set
/-!
# Symbols and productions

A symbol is its label. Whether it is a terminal is up to the grammar that uses it. Two labels are
reserved: `empty` stands for the empty string and `$` for the end of the input.
-/
namespace Predictive

structure Symbol where
  label : String
deriving DecidableEq, Inhabited

namespace Symbol

def epsilon : Symbol := ⟨"empty"⟩

def endMarker : Symbol := ⟨"$"⟩

def isEpsilon (s : Symbol) : Bool := s = epsilon

def isEndMarker (s : Symbol) : Bool := s = endMarker

/-- Symbols are ordered by the code points of their labels. -/
instance : Ord Symbol := ⟨compareOn label⟩

instance : Std.TransOrd Symbol := inferInstanceAs (Std.TransCmp (compareOn label))

instance : Std.LawfulEqOrd Symbol where
  compare_self := Std.ReflOrd.compare_self (α := String)
  eq_of_compare {a b} h := by
    have : a.label = b.label := Std.LawfulEqOrd.eq_of_compare (α := String) h
    cases a
    cases b
    simpa using this

end Symbol

abbrev SymbolSet := OrderedSet Symbol

abbrev Body := List Symbol

namespace Body

/-- The labels with a space between any two of them. -/
def text (body : Body) : String := " ".intercalate (body.map Symbol.label)

/-- The body without symbols and the body `empty` are the two ways to write an empty alternative. -/
def isEmptyAlternative (body : Body) : Bool := body = [] || body = [Symbol.epsilon]

/-- What remains of a body when every `empty` is left out. -/
def solid (body : Body) : Body := body.filter (fun s => s ≠ Symbol.epsilon)

end Body

structure Production where
  head : Symbol
  body : Body
deriving DecidableEq

namespace Production

/-- The symbols that a step of the parser puts in place of the head. -/
def pushed (p : Production) : Body := Body.solid p.body

def text (p : Production) : String := p.head.label ++ " -> " ++ Body.text p.body

end Production

end Predictive
