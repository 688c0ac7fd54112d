import Predictive.Regex.Footprint
import Predictive.Regex.Meaning
import Predictive.Unicode.WordChar
/-!
# Programs for regular expressions

A regular expression is laid out as a row of instructions. Each instruction hands over to the next
one unless it says otherwise, and a fork names the two places to go on from in order of preference.
-/
namespace Predictive

namespace Assertion

/-- Whether an assertion holds between two characters, of which either may be missing. -/
def holds (a : Assertion) (before after : Option Char) : Bool :=
  match a with
  | textStart => before = none
  | textEnd => after = none
  | lineStart => before = none || before = some '\n'
  | lineEnd => after = none || after = some '\n'
  | returnLineStart =>
    before = none || before = some '\n' || (before = some '\r' && after ≠ some '\n')
  | returnLineEnd =>
    after = none || after = some '\r' || (after = some '\n' && before ≠ some '\r')
  | word unicode edge =>
    let isWord := if unicode then isWordChar else isAsciiWordChar
    edge.holds (before.any isWord) (after.any isWord)

end Assertion

inductive Instruction
  | take (members : Ranges)
  | assertion (a : Assertion)
  | fork (first second : Nat)
  | jump (target : Nat)
  | accept
deriving DecidableEq

abbrev Program := Array Instruction

namespace Regex

/-- The number of instructions of a regular expression. -/
def size : Regex → Nat
  | empty => 0
  | literal text => text.length
  | members _ _ => 1
  | assertion _ => 1
  | times min none _ a => Nat.max min 1 * a.size + (if min = 0 then 2 else 1)
  | times min (some max) _ a => min * a.size + (max - min) * (a.size + 1)
  | capture _ a => a.size
  | cat a b => a.size + b.size
  | alt a b => a.size + b.size + 2

def forkTo (greedy : Bool) (more done : Nat) : Instruction :=
  if greedy then .fork more done else .fork done more

/-- Lays out one or more turns: after each turn a fork decides about another one. -/
def layOutTurns (layOut : Program → Program) (greedy : Bool) (program : Program) : Program :=
  let start := program.size
  let program := layOut program
  program.push (forkTo greedy start (program.size + 1))

/-- Lays out any number of turns, of which each has the given size. Turns that may take nothing are
laid out as one or more turns or none at all, so that a turn without characters does not come back
to its own start. -/
def layOutAny (layOut : Program → Program) (size : Nat) (takes greedy : Bool) (program : Program) :
    Program :=
  let start := program.size
  let program := program.push (forkTo greedy (start + 1) (start + size + 2))
  if takes then (layOut program).push (.jump start) else layOutTurns layOut greedy program

/-- Lays out a turn that may be left out in favour of the given place. -/
def layOutOptional (layOut : Program → Program) (greedy : Bool) (leave : Nat) (program : Program) :
    Program :=
  layOut (program.push (forkTo greedy (program.size + 1) leave))

/-- Puts the instructions of a regular expression behind a program. -/
def layOut : Regex → Program → Program
  | empty, program => program
  | literal text, program =>
    text.foldl (fun program c => program.push (.take (Ranges.single c))) program
  | members _ set, program => program.push (.take set)
  | assertion a, program => program.push (.assertion a)
  | times 0 none greedy a, program =>
    layOutAny a.layOut a.size (a.minLength.any (0 < ·)) greedy program
  | times (n + 1) none greedy a, program =>
    layOutTurns a.layOut greedy (Nat.repeat a.layOut n program)
  | times min (some max) greedy a, program =>
    let program := Nat.repeat a.layOut min program
    let leave := program.size + (max - min) * (a.size + 1)
    Nat.repeat (layOutOptional a.layOut greedy leave) (max - min) program
  | capture _ a, program => a.layOut program
  | cat a b, program => b.layOut (a.layOut program)
  | alt a b, program =>
    let start := program.size
    let program := program.push (.fork (start + 1) (start + a.size + 2))
    let program := a.layOut program
    b.layOut (program.push (.jump (program.size + 1 + b.size)))

end Regex

/-- A pattern in the form in which it is searched for: its program, and whether its matches start at
the start of the text. -/
structure Pattern where
  program : Program
  startsText : Bool
deriving DecidableEq

namespace Pattern

def ofRegex (r : Regex) : Pattern := ⟨(r.layOut #[]).push .accept, r.startsText⟩

/-- The pattern that a text stands for, if it is well formed and not too large. -/
def ofText (pattern : Text) : Option Pattern :=
  match Regex.ofText pattern with
  | none => none
  | some r => if r.fitsMemory then some (ofRegex r) else none

end Pattern

end Predictive
