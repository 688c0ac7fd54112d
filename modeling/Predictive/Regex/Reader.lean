import Predictive.Regex.Bracket
import Predictive.Text.Alphabetic
import Predictive.Text.Numeric
/-!
# Reading a pattern

The text of a pattern is read into a phrase, or refused.
-/
namespace Predictive

namespace Regex

/-- The contents of a group so far: finished branches and the parts of the current branch, the last
one first. -/
structure Group where
  branches : List Phrase
  parts : List Phrase

namespace Group

def empty : Group := ⟨[], []⟩

def push (g : Group) (p : Phrase) : Group := { g with parts := p :: g.parts }

/-- The phrase of the current branch. -/
def branch (g : Group) : Phrase := Phrase.ofParts g.parts.reverse

def close (g : Group) : Phrase := Phrase.ofBranches (g.branch :: g.branches).reverse

end Group

/-- The capturing groups so far, which are numbered in the order of their opening parentheses. -/
structure Captures where
  count : Nat
  names : List Text

/-- Reads decimal digits, with blanks allowed around them. -/
def readDecimal (extended : Bool) (text : Text) : Option (Nat × Text) :=
  let start := text.dropWhile isBlank
  let (digits, rest) := digitsFrom start.length start
  if digits = [] then none
  else
    let value := digits.foldl (fun n c => 10 * n + (c.toNat - '0'.toNat)) 0
    if value < UInt32.size then some (value, blanksFrom rest.length rest) else none
where
  /-- The digits at the start of the text, and the text behind them. -/
  digitsFrom : Nat → Text → Text × Text
    | 0, text => ([], text)
    | _ + 1, [] => ([], [])
    | limit + 1, c :: text =>
      if c.isDigit then
        let (digits, rest) := digitsFrom limit (skip extended text)
        (c :: digits, rest)
      else ([], c :: text)
  /-- The text behind blanks, and behind comments after a blank. -/
  blanksFrom : Nat → Text → Text
    | 0, text => text
    | _ + 1, [] => []
    | limit + 1, c :: text => if isBlank c then blanksFrom limit (skip extended text) else c :: text

/-- Reads the bounds of a counted repetition up to its closing brace. -/
def readBounds (extended : Bool) (text : Text) : Option (Nat × Option Nat × Text) :=
  match readDecimal extended (skip extended text) with
  | none => none
  | some (min, ',' :: rest) =>
    match skip extended rest with
    | '\x7d' :: rest => some (min, none, rest)
    | rest =>
      match readDecimal extended rest with
      | some (max, '\x7d' :: rest) => if min ≤ max then some (min, some max, rest) else none
      | _ => none
  | some (min, '\x7d' :: rest) => some (min, some min, rest)
  | some _ => none

/-- Repeats the last part of the group, which must not be a change of flags. A question mark behind
the operator takes its greed away. -/
def repeatLast (g : Group) (min : Nat) (max : Option Nat) (text : Text) : Option (Group × Text) :=
  match g.parts with
  | [] => none
  | .flags _ :: _ => none
  | last :: parts =>
    let (greedy, rest) :=
      match text with
      | '?' :: rest => (false, rest)
      | _ => (true, text)
    some ({ g with parts := .repeated min max greedy last :: parts }, rest)

/-- The phrase that an escape makes. -/
def phraseOf (e : Escape) : Phrase :=
  match e with
  | .literal isByte c => .literal isByte c
  | .shorthand negated s => .shorthand negated s
  | .property negated q => .property negated q
  | .anchor a => .anchor a

/-- Reads one part of a branch: a bracket, a repetition of what comes before, an escape, an anchor
or a character. -/
def readPart (extended : Bool) (g : Group) (c : Char) (rest : Text) : Option (Group × Text) :=
  match c with
  | '?' => repeatLast g 0 (some 1) rest
  | '*' => repeatLast g 0 none rest
  | '+' => repeatLast g 1 none rest
  | '\x7b' =>
    match readBounds extended rest with
    | none => none
    | some (min, max, rest) => repeatLast g min max (skip extended rest)
  | '[' => (readBracket extended rest).map (fun r => (g.push r.1, r.2))
  | '.' => some (g.push .dot, rest)
  | '^' => some (g.push (.anchor .caret), rest)
  | '$' => some (g.push (.anchor .dollar), rest)
  | '\\' => (readEscape extended rest).map (fun r => (g.push (phraseOf r.1), r.2))
  | c => some (g.push (.literal false c), rest)

/-- Reads the name of a group and the angle bracket that closes it. -/
def readGroupName (text : Text) : Option (Text × Text) :=
  let name := text.takeWhile (fun c => c ≠ '>')
  match text.dropWhile (fun c => c ≠ '>'), name with
  | '>' :: rest, c :: cs =>
    if (c = '_' || isAlphabetic c) &&
        cs.all (fun c => c = '_' || c = '.' || c = '[' || c = ']' || isAlphabetic c || isNumeric c)
    then some (name, rest)
    else none
  | _, _ => none

/-- How a parenthesis goes on: with a capturing group, which may have a name, with a group that
captures nothing, or as a change of flags for the rest of the group around it. -/
inductive Opening
  | capture (name : Option Text) (text : Text)
  | group (change : FlagChange) (text : Text)
  | flags (change : FlagChange) (text : Text)

/-- Reads what follows an opening parenthesis. Assertions about the text ahead or behind are
refused. -/
def readParenthesis (extended : Bool) (text : Text) : Option Opening :=
  match skip extended text with
  | '?' :: '=' :: _ => none
  | '?' :: '!' :: _ => none
  | '?' :: '<' :: '=' :: _ => none
  | '?' :: '<' :: '!' :: _ => none
  | '?' :: 'P' :: '<' :: rest => (readGroupName rest).map (fun r => .capture (some r.1) r.2)
  | '?' :: '<' :: rest => (readGroupName rest).map (fun r => .capture (some r.1) r.2)
  | '?' :: rest =>
    match readFlags [] [] rest with
    | some (change, ':' :: rest) => some (.group change rest)
    | some ([], _) => none
    | some (change, ')' :: rest) => some (.flags change rest)
    | _ => none
  | rest => some (.capture none rest)

namespace Captures

/-- Counts one more group, whose name must be new. -/
def add (captures : Captures) (name : Option Text) : Option Captures :=
  if name.any (fun n => n ∈ captures.names) then none
  else some ⟨captures.count + 1, name.toList ++ captures.names⟩

end Captures

/-- Reads the contents of a group up to the parenthesis that closes it or the end of the text. The
limit has to exceed the length of the text, and groups may be nested within for the given number of
levels. -/
def readGroup : Nat → Nat → Bool → Captures → Group → Text → Option (Phrase × Captures × Text)
  | 0, _, _, _, _, _ => none
  | limit + 1, levels, extended, captures, g, text =>
    match skip extended text with
    | [] => some (g.close, captures, [])
    | ')' :: rest => some (g.close, captures, ')' :: rest)
    | '|' :: rest => readGroup limit levels extended captures ⟨g.branch :: g.branches, []⟩ rest
    | '(' :: rest =>
      match levels, readParenthesis extended rest with
      | _, none => none
      | _, some (.flags change rest) =>
        readGroup limit levels (extendedAfter extended change) captures (g.push (.flags change))
          rest
      | 0, some _ => none
      | inner + 1, some (.group change rest) =>
        match readGroup limit inner (extendedAfter extended change) captures .empty rest with
        | some (body, captures, ')' :: rest) =>
          readGroup limit levels extended captures (g.push (.group none change body)) rest
        | _ => none
      | inner + 1, some (.capture name rest) =>
        match captures.add name with
        | none => none
        | some opened =>
          match readGroup limit inner extended opened .empty rest with
          | some (body, captures, ')' :: rest) =>
            readGroup limit levels extended captures (g.push (.group (some opened.count) [] body))
              rest
          | _ => none
    | c :: rest =>
      match readPart extended g c rest with
      | none => none
      | some (g, rest) => readGroup limit levels extended captures g rest

/-- The phrase of a pattern. Phrases that are nested too deeply are refused. -/
def Phrase.ofText (pattern : Text) : Option Phrase :=
  match readGroup (pattern.length + 1) depthLimit false ⟨0, []⟩ .empty pattern with
  | some (p, _, []) => if p.depth ≤ depthLimit then some p else none
  | _ => none

end Regex

end Predictive
