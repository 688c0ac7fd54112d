import Predictive.Text.Blank
import Predictive.Text.RangeSet
/-!
# Regular expressions

Expressions with ordered choice: of two alternatives the left one is preferred, and a repetition
prefers more turns if it is greedy and fewer if it is not. An assertion looks at the characters on
both sides of a position and takes none.

Expressions are built in a simplified form by `concat`, `choice`, `ofClass` and `repeated`: literals
next to each other are one literal, a choice between characters is a class, and what all branches of
a choice start with stands in front of it. The simplified form decides which match is preferred: a
repetition in front of a choice tries all branches behind one number of turns before it tries
another number.
-/
namespace Predictive

/-- How the characters on the two sides of a position differ, as to whether they are part of
words. -/
inductive WordEdge
  | boundary
  | inside
  | start
  | finish
  | startHalf
  | finishHalf
deriving DecidableEq

namespace WordEdge

def holds (e : WordEdge) (wordBefore wordAfter : Bool) : Bool :=
  match e with
  | boundary => wordBefore != wordAfter
  | inside => wordBefore == wordAfter
  | start => !wordBefore && wordAfter
  | finish => wordBefore && !wordAfter
  | startHalf => !wordBefore
  | finishHalf => !wordAfter

end WordEdge

inductive Assertion
  | textStart
  | textEnd
  | lineStart
  | lineEnd
  | returnLineStart
  | returnLineEnd
  | word (unicode : Bool) (edge : WordEdge)
deriving DecidableEq

inductive Regex
  | empty
  | literal (text : Text)
  | members (unicode : Bool) (set : Ranges)
  | assertion (a : Assertion)
  | times (min : Nat) (max : Option Nat) (greedy : Bool) (a : Regex)
  | capture (index : Nat) (a : Regex)
  | cat (a b : Regex)
  | alt (a b : Regex)
deriving DecidableEq

namespace Regex

/-- The fewest characters that a match takes; unknown if a class without members is in the way. -/
def minLength : Regex → Option Nat
  | empty => some 0
  | literal text => some text.length
  | members _ set => if set = [] then none else some 1
  | assertion _ => some 0
  | times min _ _ a => a.minLength.map (min * ·)
  | capture _ a => a.minLength
  | cat a b => a.minLength.bind (fun m => b.minLength.map (m + ·))
  | alt a b => a.minLength.bind (fun m => b.minLength.map (Nat.min m))

/-- The most characters that a match takes, if there is a bound. -/
def maxLength : Regex → Option Nat
  | empty => some 0
  | literal text => some text.length
  | members _ set => if set = [] then none else some 1
  | assertion _ => some 0
  | times _ max _ a => max.bind (fun n => a.maxLength.map (n * ·))
  | capture _ a => a.maxLength
  | cat a b => a.maxLength.bind (fun m => b.maxLength.map (m + ·))
  | alt a b => a.maxLength.bind (fun m => b.maxLength.map (Nat.max m))

/-- Whether every match starts at the start of the text. -/
def startsText : Regex → Bool
  | assertion a => a = .textStart
  | times min _ _ a => min ≠ 0 && a.startsText
  | capture _ a => a.startsText
  | cat a b => a.startsText || (a.maxLength = some 0 && b.startsText)
  | alt a b => a.startsText && b.startsText
  | _ => false

/-- Whether every match ends at the end of the text. -/
def endsText : Regex → Bool
  | assertion a => a = .textEnd
  | times min _ _ a => min ≠ 0 && a.endsText
  | capture _ a => a.endsText
  | cat a b => b.endsText || (b.maxLength = some 0 && a.endsText)
  | alt a b => a.endsText && b.endsText
  | _ => false

/-- The expression without a match. -/
def never : Regex := members false []

/-- A class of characters. One with a single member is a literal. -/
def ofClass (unicode : Bool) (set : Ranges) : Regex :=
  match set with
  | [] => never
  | [(low, high)] => if low = high then literal [Char.ofNat low] else members unicode set
  | _ => members unicode set

/-- The expressions that follow each other in an expression. -/
def parts : Regex → List Regex
  | empty => []
  | cat a b => a :: b.parts
  | a => [a]

/-- Puts an expression in front of others; two literals become one. -/
def pushPart : Regex → List Regex → List Regex
  | literal s, literal t :: rest => literal (s ++ t) :: rest
  | a, rest => a :: rest

def ofParts : List Regex → Regex
  | [] => empty
  | [a] => a
  | a :: rest => cat a (ofParts rest)

/-- The expressions one after the other. -/
def concat (list : List Regex) : Regex := ofParts ((list.flatMap parts).foldr pushPart [])

/-- The expressions that an expression is a choice between. -/
def branches : Regex → List Regex
  | alt a b => a :: b.branches
  | a => [a]

def ofBranches : List Regex → Regex
  | [] => never
  | [a] => a
  | a :: rest => alt a (ofBranches rest)

/-- The character of a literal of length one. -/
def singleCharacter : Regex → Option Char
  | literal [c] => some c
  | _ => none

def classMembers : Regex → Option Ranges
  | members _ set => some set
  | _ => none

/-- The members of the class that a choice between characters or between classes comes to. -/
def joinedClass (list : List Regex) : Option Ranges :=
  match list.mapM singleCharacter with
  | some characters => some (characters.foldr (fun c a => Ranges.union (Ranges.single c) a) [])
  | none => (list.mapM classMembers).map Ranges.unions

/-- A choice between expressions that have no start in common. -/
def plainChoice (list : List Regex) : Regex :=
  match list.flatMap branches with
  | [] => never
  | [a] => a
  | list =>
    match joinedClass list with
    | some set => ofClass true set
    | none => ofBranches list

/-- What two lists start with. -/
def commonStart : List Regex → List Regex → List Regex
  | a :: rest, b :: others => if a = b then a :: commonStart rest others else []
  | _, _ => []

/-- What all expressions start with, where each consists of at least two parts. -/
def sharedStart : List Regex → List Regex
  | [] => []
  | [cat a b] => (cat a b).parts
  | cat a b :: rest => commonStart (cat a b).parts (sharedStart rest)
  | _ => []

/-- A choice between expressions. What they all start with is moved in front of the choice. -/
def choice (list : List Regex) : Regex :=
  match list.flatMap branches with
  | [] => never
  | [a] => a
  | list =>
    match joinedClass list with
    | some set => ofClass true set
    | none =>
      match sharedStart list with
      | [] => ofBranches list
      | start =>
        concat (start ++ [plainChoice (list.map (fun a => concat (a.parts.drop start.length)))])

/-- A repetition. Where no turn takes a character, a second turn adds nothing to the first. -/
def repeated (min : Nat) (max : Option Nat) (greedy : Bool) (a : Regex) : Regex :=
  let (min, max) :=
    if a.maxLength = some 0 then (Nat.min min 1, some (Nat.min (max.getD 1) 1)) else (min, max)
  if max = some 0 then empty
  else if min = 1 ∧ max = some 1 then a
  else times min max greedy a

end Regex

end Predictive
