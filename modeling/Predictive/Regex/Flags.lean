import Predictive.Text.Blank
/-!
# Flags of a pattern

Flags change what the parts of a pattern mean, from the place where they are set to the end of the
group around it. The flag `x` changes how the pattern is read as well: blanks between its parts mean
nothing, and a comment runs from `#` to the end of its line.
-/
namespace Predictive

namespace Regex

inductive Flag
  | ignoreCase
  | multiLine
  | dotAll
  | swapGreed
  | unicode
  | returns
  | extended
deriving DecidableEq

def Flag.ofLetter : Char → Option Flag
  | 'i' => some ignoreCase
  | 'm' => some multiLine
  | 's' => some dotAll
  | 'U' => some swapGreed
  | 'u' => some unicode
  | 'R' => some returns
  | 'x' => some extended
  | _ => none

/-- Flags to switch on and off. -/
abbrev FlagChange := List (Flag × Bool)

/-- The flags as a whole; at the start of a pattern only `u` is on. -/
structure Flags where
  ignoreCase : Bool := false
  multiLine : Bool := false
  dotAll : Bool := false
  swapGreed : Bool := false
  unicode : Bool := true
  returns : Bool := false
  extended : Bool := false
deriving DecidableEq

namespace Flags

def set (f : Flags) (flag : Flag) (value : Bool) : Flags :=
  match flag with
  | .ignoreCase => { f with ignoreCase := value }
  | .multiLine => { f with multiLine := value }
  | .dotAll => { f with dotAll := value }
  | .swapGreed => { f with swapGreed := value }
  | .unicode => { f with unicode := value }
  | .returns => { f with returns := value }
  | .extended => { f with extended := value }

def apply (f : Flags) (change : FlagChange) : Flags := change.foldl (fun f c => f.set c.1 c.2) f

end Flags

/-- Reads flag letters up to the colon or parenthesis that ends them, and gives the change with the
text from the end character on. Letters after a hyphen are switched off. A letter or a hyphen that
comes twice, a hyphen without letters, and an unknown letter are refused. -/
def readFlags (seen : Text) (change : FlagChange) : Text → Option (FlagChange × Text)
  | [] => none
  | c :: cs =>
    if c = ':' ∨ c = ')' then
      if seen.head? = some '-' then none else some (change, c :: cs)
    else if c ∈ seen then none
    else if c = '-' then readFlags ('-' :: seen) change cs
    else
      match Flag.ofLetter c with
      | none => none
      | some flag => readFlags (c :: seen) (change ++ [(flag, !seen.contains '-')]) cs

/-- Drops blanks and comments; the first argument tells whether a comment is open. -/
def skipBlanks : Bool → Text → Text
  | _, [] => []
  | true, c :: cs => skipBlanks (c ≠ '\n') cs
  | false, c :: cs =>
    if isBlank c then skipBlanks false cs
    else if c = '#' then skipBlanks true cs
    else c :: cs

/-- The text from the next part of a pattern on. -/
def skip (extended : Bool) (text : Text) : Text := if extended then skipBlanks false text else text

/-- Whether blanks are skipped after a change of flags. -/
def extendedAfter (extended : Bool) (change : FlagChange) : Bool :=
  (Flags.apply { extended } change).extended

end Regex

end Predictive
