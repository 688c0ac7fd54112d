import Predictive.Regex.Escape
import Predictive.Regex.NamedClass
/-!
# Bracketed classes

A bracket lists characters, ranges, escapes, named classes and further brackets. Set operators
between such lists are taken from left to right.
-/
namespace Predictive

namespace Regex

/-- The greatest depth to which the phrases of a pattern may be nested. -/
def depthLimit : Nat := 250

/-- Applies the pending operator to its operands. -/
def operate (pending : Option (SetOperator × SetPhrase)) (right : SetPhrase) : SetPhrase :=
  match pending with
  | none => right
  | some (operator, left) => .operation operator left right

/-- The contents of a bracket so far, of which the items come last one first. -/
def contentsOf (pending : Option (SetOperator × SetPhrase)) (items : List SetPhrase) : SetPhrase :=
  operate pending (SetPhrase.ofItems items.reverse)

/-- Reads a class name and the `:]` after it. -/
def readName (negated : Bool) (text : Text) : Option (SetPhrase × Text) :=
  match text.dropWhile (fun c => c ≠ ':') with
  | ':' :: ']' :: rest =>
    (classNamed (String.ofList (text.takeWhile (fun c => c ≠ ':')))).map
      (fun members => (.named negated members, rest))
  | _ => none

/-- Reads a named class, whose first bracket is already read. -/
def readNamed (text : Text) : Option (SetPhrase × Text) :=
  match text with
  | ':' :: '^' :: rest => readName true rest
  | ':' :: rest => readName false rest
  | _ => none

/-- Reads the hyphens that stand for themselves at the start of a bracket. -/
def readHyphens (extended : Bool) : Nat → List SetPhrase → Text → List SetPhrase × Text
  | 0, items, text => (items, text)
  | limit + 1, items, text =>
    match skip extended text with
    | '-' :: rest => readHyphens extended limit (.literal '-' :: items) rest
    | rest => (items, rest)

/-- Reads the start of a bracket: whether it is negated, and the hyphens or the closing bracket that
stand for themselves there. -/
def readOpening (extended : Bool) (text : Text) : Bool × List SetPhrase × Text :=
  let (negated, text) :=
    match skip extended text with
    | '^' :: rest => (true, rest)
    | rest => (false, rest)
  match readHyphens extended text.length [] text with
  | ([], ']' :: rest) => (negated, [.literal ']'], rest)
  | (items, rest) => (negated, items, rest)

/-- Reads a character or an escape. -/
def readElement (extended : Bool) (text : Text) : Option (Escape × Text) :=
  match text with
  | [] => none
  | '\\' :: rest => readEscape extended rest
  | c :: rest => some (.literal false c, rest)

/-- The item that a single element makes; an anchor makes none. -/
def itemOf (e : Escape) : Option SetPhrase :=
  match e with
  | .literal _ c => some (.literal c)
  | .shorthand negated s => some (.shorthand negated s)
  | .property negated q => some (.property negated q)
  | .anchor _ => none

/-- The character that is looked at behind a hyphen. Where blanks are skipped, of a comment only the
`#` is skipped as well. -/
def behindHyphen (extended : Bool) (text : Text) : Option Char :=
  if extended then
    match text.dropWhile isBlank with
    | '#' :: rest => (rest.dropWhile isBlank).head?
    | rest => rest.head?
  else text.head?

/-- Whether the text behind a hyphen keeps the hyphen from making a range. -/
def endsRange (extended : Bool) (text : Text) : Bool :=
  behindHyphen extended text = some ']' || behindHyphen extended text = some '-'

/-- Reads an element or a range of characters. -/
def readItem (extended : Bool) (text : Text) : Option (SetPhrase × Text) :=
  match readElement extended text with
  | none => none
  | some (first, rest) =>
    match skip extended rest with
    | '-' :: rest =>
      if endsRange extended rest then (itemOf first).map (fun item => (item, '-' :: rest))
      else
        match readElement extended (skip extended rest) with
        | none => none
        | some (last, rest) =>
          match first, last with
          | .literal _ low, .literal _ high =>
            if low ≤ high then some (.range low high, rest) else none
          | _, _ => none
    | rest => (itemOf first).map (fun item => (item, rest))

/-- Reads the contents of a bracket and the bracket that closes it. The limit has to exceed the
length of the text, and brackets may be nested within for the given number of levels. -/
def readContents (extended : Bool) :
    Nat → Nat → Option (SetOperator × SetPhrase) → List SetPhrase → Text →
      Option (SetPhrase × Text)
  | 0, _, _, _, _ => none
  | limit + 1, levels, pending, items, text =>
    match skip extended text with
    | [] => none
    | ']' :: rest => some (contentsOf pending items, rest)
    | '&' :: '&' :: rest =>
      readContents extended limit levels (some (.inter, contentsOf pending items)) [] rest
    | '-' :: '-' :: rest =>
      readContents extended limit levels (some (.diff, contentsOf pending items)) [] rest
    | '~' :: '~' :: rest =>
      readContents extended limit levels (some (.symmDiff, contentsOf pending items)) [] rest
    | '[' :: rest =>
      match readNamed rest with
      | some (item, rest) => readContents extended limit levels pending (item :: items) rest
      | none =>
        match levels with
        | 0 => none
        | inner + 1 =>
          let (negated, first, rest) := readOpening extended rest
          match readContents extended limit inner none first rest with
          | none => none
          | some (contents, rest) =>
            readContents extended limit levels pending (.bracket negated contents :: items) rest
    | rest =>
      match readItem extended rest with
      | none => none
      | some (item, rest) => readContents extended limit levels pending (item :: items) rest

/-- Reads a bracket whose first character is already read. -/
def readBracket (extended : Bool) (text : Text) : Option (Phrase × Text) :=
  let (negated, items, rest) := readOpening extended text
  (readContents extended (text.length + 1) depthLimit none items rest).map
    (fun r => (.bracket negated r.1, r.2))

end Regex

end Predictive
