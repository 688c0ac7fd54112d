import Predictive.Regex.Basic
import Predictive.Regex.Flags
/-!
# Phrases

A phrase is a pattern as it is written, before flags are applied to it. Phrases may not be nested
without bound: `Phrase.depth` counts the levels that are open at once.
-/
namespace Predictive

namespace Regex

/-- The classes that a single letter behind a backslash stands for. -/
inductive Shorthand
  | decimal
  | blank
  | word
deriving DecidableEq

/-- What a class of characters by property asks for. -/
inductive PropertyQuery
  | name (name : Text)
  | value (property value : Text)
deriving DecidableEq

/-- The parts of a pattern that look at a place and take no character. -/
inductive Anchor
  | caret
  | dollar
  | textStart
  | textEnd
  | word (edge : WordEdge)
deriving DecidableEq

inductive SetOperator
  | inter
  | diff
  | symmDiff
deriving DecidableEq

/-- What stands within brackets. -/
inductive SetPhrase
  | empty
  | literal (c : Char)
  | range (low high : Char)
  | named (negated : Bool) (members : Ranges)
  | shorthand (negated : Bool) (s : Shorthand)
  | property (negated : Bool) (q : PropertyQuery)
  | union (items : List SetPhrase)
  | bracket (negated : Bool) (contents : SetPhrase)
  | operation (operator : SetOperator) (left right : SetPhrase)

/-- A literal is a raw byte if it is given by two hexadecimal digits. A group without an index
captures nothing. -/
inductive Phrase
  | empty
  | flags (change : FlagChange)
  | literal (isByte : Bool) (c : Char)
  | shorthand (negated : Bool) (s : Shorthand)
  | property (negated : Bool) (q : PropertyQuery)
  | dot
  | anchor (a : Anchor)
  | bracket (negated : Bool) (contents : SetPhrase)
  | repeated (min : Nat) (max : Option Nat) (greedy : Bool) (body : Phrase)
  | group (index : Option Nat) (change : FlagChange) (body : Phrase)
  | sequence (parts : List Phrase)
  | choice (branches : List Phrase)

namespace SetPhrase

/-- The union of the items of a bracket. -/
def ofItems : List SetPhrase → SetPhrase
  | [] => empty
  | [item] => item
  | items => union items

mutual

def depth : SetPhrase → Nat
  | union items => depths items + 1
  | bracket _ contents => contents.depth + 1
  | operation _ left right => Nat.max left.depth right.depth + 1
  | _ => 0

/-- The greatest depth of any of the items. -/
def depths : List SetPhrase → Nat
  | [] => 0
  | item :: items => Nat.max item.depth (depths items)

end

end SetPhrase

namespace Phrase

def ofParts : List Phrase → Phrase
  | [] => empty
  | [part] => part
  | parts => sequence parts

def ofBranches : List Phrase → Phrase
  | [] => empty
  | [branch] => branch
  | branches => choice branches

mutual

def depth : Phrase → Nat
  | bracket _ contents => contents.depth + 1
  | repeated _ _ _ body => body.depth + 1
  | group _ _ body => body.depth + 1
  | sequence parts => depths parts + 1
  | choice branches => depths branches + 1
  | _ => 0

/-- The greatest depth of any of the phrases. -/
def depths : List Phrase → Nat
  | [] => 0
  | phrase :: phrases => Nat.max phrase.depth (depths phrases)

end

end Phrase

end Regex

end Predictive
