import Predictive.PatternLibrary
import Predictive.Regex.Program
/-!
# Searching for a pattern

The search follows all ways through the program at once. A way that started earlier is preferred to
one that started later, and of two ways with the same start the program prefers one. At each
position an instruction is entered at most once, by the most preferred way that leads there. So the
search goes through the text once and finds the leftmost match, at equal starts the preferred one.
-/
namespace Predictive

/-- A way through the program: the place that it has come to, and the position in the text where it
started. -/
structure Thread where
  place : Nat
  start : Nat
deriving DecidableEq

/-- The steps at which the places of a program were entered last. Steps are counted from one. -/
structure Visits where
  step : Nat
  lastStep : Array Nat

namespace Visits

def start (size : Nat) : Visits := ⟨0, Array.replicate size 0⟩

/-- The next step, in which no place has been entered yet. -/
def next (v : Visits) : Visits := { v with step := v.step + 1 }

def isEntered (v : Visits) (place : Nat) : Bool := v.lastStep[place]? = some v.step

def enter (v : Visits) (place : Nat) : Visits :=
  { v with lastStep := v.lastStep.setIfInBounds place v.step }

end Visits

namespace Pattern

/-- The threads that wait at a position between two characters, the last one first. The stack holds
the threads whose places are still to be entered. Every place is entered at most once and puts at
most two threads on the stack, so the limit need only exceed the length of the stack by twice the
size of the program. -/
def enter (p : Pattern) (before after : Option Char) :
    Nat → List Thread → List Thread → Visits → List Thread × Visits
  | 0, _, entered, v => (entered, v)
  | _ + 1, [], entered, v => (entered, v)
  | limit + 1, t :: stack, entered, v =>
    if v.isEntered t.place then p.enter before after limit stack entered v
    else
      let v := v.enter t.place
      match p.program[t.place]? with
      | some (.fork first second) =>
        p.enter before after limit (⟨first, t.start⟩ :: ⟨second, t.start⟩ :: stack) entered v
      | some (.jump target) => p.enter before after limit (⟨target, t.start⟩ :: stack) entered v
      | some (.assertion a) =>
        if a.holds before after then
          p.enter before after limit (⟨t.place + 1, t.start⟩ :: stack) entered v
        else p.enter before after limit stack entered v
      | some _ => p.enter before after limit stack (t :: entered) v
      | none => p.enter before after limit stack entered v

/-- The threads that wait at a position, the preferred one first. -/
def waiting (p : Pattern) (before after : Option Char) (threads : List Thread) (v : Visits) :
    List Thread × Visits :=
  let (entered, v) :=
    p.enter before after (threads.length + 2 * p.program.size + 1) threads [] v.next
  (entered.reverse, v)

/-- Goes through the waiting threads in order of preference up to the first that accepts: the start
of that thread, and the threads before it behind the next character. The latter are collected last
one first. -/
def advance (p : Pattern) (c : Option Char) (next : List Thread) :
    List Thread → Option Nat × List Thread
  | [] => (none, next.reverse)
  | t :: rest =>
    match p.program[t.place]? with
    | some .accept => (some t.start, next.reverse)
    | some (.take members) =>
      if c.any (fun c => inRanges members c.toNat) then
        p.advance c (⟨t.place + 1, t.start⟩ :: next) rest
      else p.advance c next rest
    | _ => p.advance c next rest

/-- The threads with a new one that starts at the position, unless a match is known already or
matches start at the start of the text only. -/
def withStart (p : Pattern) (position : Nat) (best : Option (Nat × Nat)) (threads : List Thread) :
    List Thread :=
  if best = none && (position = 0 || !p.startsText) then threads ++ [⟨0, position⟩] else threads

/-- The start and the end of the preferred match, from a position on. The threads have come to this
position, and `best` is the best match so far. -/
def limitsFrom (p : Pattern) (before : Option Char) (position : Nat) (threads : List Thread)
    (best : Option (Nat × Nat)) (v : Visits) : Text → Option (Nat × Nat)
  | [] =>
    let (waiting, _) := p.waiting before none (p.withStart position best threads) v
    match p.advance none [] waiting with
    | (some start, _) => some (start, position)
    | (none, _) => best
  | c :: rest =>
    match p.withStart position best threads with
    | [] => best
    | threads =>
      let (waiting, v) := p.waiting before (some c) threads v
      match p.advance (some c) [] waiting with
      | (some start, next) =>
        p.limitsFrom (some c) (position + 1) next (some (start, position)) v rest
      | (none, next) => p.limitsFrom (some c) (position + 1) next best v rest

/-- The leftmost match in a text. -/
def find (p : Pattern) (text : Text) : Option Match :=
  (p.limitsFrom none 0 [] none (Visits.start p.program.size) text).map (fun r =>
    ⟨text.take r.1, (text.drop r.1).take (r.2 - r.1)⟩)

end Pattern

end Predictive
