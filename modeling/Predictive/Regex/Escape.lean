import Predictive.Regex.Phrase
/-!
# Escapes

What a backslash and the characters after it stand for: a character, a class or an anchor. The
functions here and in the following modules take as their first argument whether blanks and comments
are skipped.
-/
namespace Predictive

namespace Regex

inductive Escape
  | literal (isByte : Bool) (c : Char)
  | shorthand (negated : Bool) (s : Shorthand)
  | property (negated : Bool) (q : PropertyQuery)
  | anchor (a : Anchor)

/-- The characters that have a meaning of their own and lose it behind a backslash. -/
def metaChars : List Char :=
  ['\\', '.', '+', '*', '?', '(', ')', '|', '[', ']', '\x7b', '\x7d', '^', '$', '#', '&', '-', '~']

/-- Behind a backslash every ASCII character stands for itself if it is no letter, digit or angle
bracket. -/
def isEscapable (c : Char) : Bool :=
  c.toNat < 0x80 && !c.isAlphanum && c ≠ '<' && c ≠ '>'

def hexValue (c : Char) : Option Nat :=
  if c.isDigit then some (c.toNat - '0'.toNat)
  else if 'a' ≤ c ∧ c ≤ 'f' then some (c.toNat - 'a'.toNat + 10)
  else if 'A' ≤ c ∧ c ≤ 'F' then some (c.toNat - 'A'.toNat + 10)
  else none

/-- The character with the given code point, which must not be a surrogate. -/
def charOfCode (n : Nat) : Option Char :=
  if h : n.isValidChar then some (Char.ofNatAux n h) else none

/-- Reads exactly the given number of hexadecimal digits. -/
def readHexDigits (extended : Bool) : Nat → Nat → Text → Option (Char × Text)
  | 0, code, text => (charOfCode code).map (fun c => (c, text))
  | _ + 1, _, [] => none
  | count + 1, code, c :: text =>
    match hexValue c with
    | none => none
    | some digit => readHexDigits extended count (16 * code + digit) (skip extended text)

/-- Reads the text up to the closing brace in steps of one character between blanks. -/
def readBraced (extended : Bool) : Nat → Text → Option (Text × Text)
  | 0, _ => none
  | limit + 1, text =>
    match skip extended text with
    | [] => none
    | '\x7d' :: rest => some ([], rest)
    | c :: rest => (readBraced extended limit rest).map (fun r => (c :: r.1, r.2))

def hexCode (digits : Text) : Option Nat :=
  digits.foldl
    (fun code c => code.bind (fun n => (hexValue c).map (fun digit => 16 * n + digit))) (some 0)

/-- Reads a code point in hexadecimal, either within braces or in the given number of digits. Two
digits without braces give a byte. -/
def readHex (extended : Bool) (count : Nat) (text : Text) : Option (Escape × Text) :=
  match skip extended text with
  | '\x7b' :: rest =>
    match readBraced extended (rest.length + 1) rest with
    | none => none
    | some (digits, rest) =>
      if digits = [] then none
      else (hexCode digits).bind charOfCode |>.map (fun c => (.literal false c, rest))
  | text => (readHexDigits extended count 0 text).map (fun r => (.literal (count = 2) r.1, r.2))

/-- Splits a text at the first place where the separator stands. -/
def splitAtFirst (separator : Text) : Text → Option (Text × Text)
  | [] => none
  | c :: cs =>
    if separator.isPrefixOf (c :: cs) then some ([], (c :: cs).drop separator.length)
    else (splitAtFirst separator cs).map (fun r => (c :: r.1, r.2))

/-- What the text between the braces of a property asks for. Whichever sign stands between a property
and its value, the class is negated by the letter in front of the braces alone. -/
def propertyQuery (negated : Bool) (text : Text) : Escape :=
  let value :=
    ((splitAtFirst ['!', '='] text).or (splitAtFirst [':'] text)).or (splitAtFirst ['='] text)
  match value with
  | some (property, value) => .property negated (.value property value)
  | none => .property negated (.name text)

/-- Reads the name of a property, which is a single character unless it stands in braces. -/
def readProperty (extended : Bool) (negated : Bool) (text : Text) : Option (Escape × Text) :=
  match skip extended text with
  | [] => none
  | '\\' :: _ => none
  | '\x7b' :: rest =>
    (readBraced extended (rest.length + 1) rest).map (fun r => (propertyQuery negated r.1, r.2))
  | c :: rest => some (.property negated (.name [c]), rest)

/-- Reads the kind of a word boundary in braces after `\b`. If no letter or hyphen follows the
brace, the brace is left alone, since it starts a repetition. -/
def readBoundary (extended : Bool) (text : Text) : Option (WordEdge × Text) :=
  match text with
  | '\x7b' :: rest =>
    match skip extended rest with
    | [] => none
    | c :: _ =>
      if c.isAlpha || c = '-' then
        match readBraced extended (rest.length + 1) rest with
        | none => none
        | some (name, rest) =>
          match String.ofList name with
          | "start" => some (.start, rest)
          | "end" => some (.finish, rest)
          | "start-half" => some (.startHalf, rest)
          | "end-half" => some (.finishHalf, rest)
          | _ => none
      else some (.boundary, text)
  | _ => some (.boundary, text)

/-- Reads what follows a backslash. -/
def readEscape (extended : Bool) (text : Text) : Option (Escape × Text) :=
  match text with
  | [] => none
  | c :: rest =>
    let literal (c : Char) : Option (Escape × Text) := some (.literal false c, rest)
    let shorthand (negated : Bool) (s : Shorthand) : Option (Escape × Text) :=
      some (.shorthand negated s, rest)
    let anchor (a : Anchor) : Option (Escape × Text) := some (.anchor a, rest)
    if isEscapable c then literal c
    else
      match c with
      | 'x' => readHex extended 2 rest
      | 'u' => readHex extended 4 rest
      | 'U' => readHex extended 8 rest
      | 'p' => readProperty extended false rest
      | 'P' => readProperty extended true rest
      | 'd' => shorthand false .decimal
      | 's' => shorthand false .blank
      | 'w' => shorthand false .word
      | 'D' => shorthand true .decimal
      | 'S' => shorthand true .blank
      | 'W' => shorthand true .word
      | 'a' => literal '\x07'
      | 'f' => literal '\x0c'
      | 't' => literal '\t'
      | 'n' => literal '\n'
      | 'r' => literal '\r'
      | 'v' => literal '\x0b'
      | 'A' => anchor .textStart
      | 'z' => anchor .textEnd
      | 'B' => anchor (.word .inside)
      | '<' => anchor (.word .start)
      | '>' => anchor (.word .finish)
      | 'b' => (readBoundary extended rest).map (fun r => (.anchor (.word r.1), r.2))
      | _ => none

/-- The pattern that matches a text and nothing else. -/
def escape (text : Text) : Text :=
  text.flatMap (fun c => if c ∈ metaChars then ['\\', c] else [c])

end Regex

end Predictive
