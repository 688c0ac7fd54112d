import Predictive.Grammar.Basic
import Predictive.Text.Lines
/-!
# Reading a grammar from text

A line `Head -> a B | c` adds alternatives to its head, and a line that starts with `|` adds to the
head of the nearest line above that names one. Blank lines mean nothing. Any other line is an
error, reported with its number.
-/
namespace Predictive

inductive LineFault
  | tooManyArrows
  | emptyHead
  | spacedHead
  | missingHead
  | missingArrow
deriving DecidableEq

structure SyntaxError where
  line : Nat
  fault : LineFault
deriving DecidableEq

def LineFault.message : LineFault → String
  | tooManyArrows => "too many \"->\""
  | emptyHead => "empty left side"
  | spacedHead => "left side contains whitespace"
  | missingHead => "cannot find left side"
  | missingArrow => "expected \"->\" or \"|\""

def SyntaxError.message (e : SyntaxError) : String :=
  "Line " ++ toString e.line ++ ": " ++ e.fault.message

namespace Symbol

/-- The symbol that a word of a grammar names: either epsilon letter is another name of `empty`. -/
def ofWord (word : Text) : Symbol :=
  if word = ['ε'] ∨ word = ['ϵ'] then epsilon else ⟨String.ofList word⟩

end Symbol

namespace Grammar

/-- The alternatives that the right side of a line lists between its bars. -/
def readAlternatives (text : Text) : List Body :=
  (text.splitOn '|').map (fun piece => (Text.words piece).map Symbol.ofWord)

/-- Reads one line below a line for the head `previous`: the head that it is about with the
alternatives that it adds, or nothing for a blank line. -/
def readLine (previous : Option Symbol) (line : Text) :
    Except LineFault (Option (Symbol × List Body)) :=
  if line.all isBlank then .ok none
  else
    match Text.splitArrow line with
    | [left, right] =>
      match Text.words left with
      | [] => .error .emptyHead
      | [word] => .ok (some (Symbol.ofWord word, readAlternatives right))
      | _ => .error .spacedHead
    | [only] =>
      match previous, Text.trim only with
      | none, _ => .error .missingHead
      | some head, '|' :: rest => .ok (some (head, readAlternatives rest))
      | some _, _ => .error .missingArrow
    | _ => .error .tooManyArrows

/-- Reads the lines from the given number on into the grammar. -/
def readLines (g : Grammar) (previous : Option Symbol) (number : Nat) :
    List Text → Except SyntaxError Grammar
  | [] => .ok g
  | line :: rest =>
    match readLine previous line with
    | .error fault => .error ⟨number, fault⟩
    | .ok none => readLines g previous (number + 1) rest
    | .ok (some (head, alternatives)) =>
      readLines (g.extend head alternatives) (some head) (number + 1) rest

def read (source : String) : Except SyntaxError Grammar :=
  readLines empty none 1 (Text.lines source.toList)

end Grammar

namespace Body

/-- The symbols whose labels are the words of the text. -/
def ofText (text : String) : Body :=
  (Text.words text.toList).map (fun word => ⟨String.ofList word⟩)

end Body

end Predictive
