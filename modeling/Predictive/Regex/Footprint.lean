import Predictive.Regex.Basic
import Predictive.Text.Utf8
/-!
# The size of an automaton

A pattern is refused if its automaton on bytes would take too much memory, be it the one that reads
forward or the one that reads backward. The automaton is not built for that: the number of its bytes
follows from the expression. A state takes 32 bytes, a transition of a state that has several of
them takes 8, and each way that leads out of a fork takes 4.
-/
namespace Predictive

namespace Regex

/-- The memory of an automaton. If it ends in a fork, what is put behind it is one more way out of
that fork. -/
structure Footprint where
  bytes : Nat
  endsInFork : Bool
deriving DecidableEq

namespace Footprint

/-- The memory together with that of the way to what follows. -/
def joined (p : Footprint) : Nat := if p.endsInFork then p.bytes + 4 else p.bytes

/-- One part and then another. -/
def followedBy (p q : Footprint) : Footprint := ⟨p.joined + q.bytes, q.endsInFork⟩

/-- A number of copies one after the other. -/
def copies (p : Footprint) : Nat → Footprint
  | 0 => ⟨32, false⟩
  | n + 1 => ⟨n * p.joined + p.bytes, p.endsInFork⟩

/-- At least one turn, of which the last may be taken again. -/
def atLeastOne (p : Footprint) : Footprint := ⟨p.joined + 36, true⟩

/-- Any number of turns. One fork is enough if every turn takes a character. -/
def anyNumber (p : Footprint) (takes : Bool) : Footprint :=
  if takes then ⟨p.joined + 36, true⟩ else ⟨p.joined + 112, false⟩

def repeated (p : Footprint) (takes : Bool) (min : Nat) (max : Option Nat) : Footprint :=
  match min, max with
  | 0, none => p.anyNumber takes
  | n + 1, none => ⟨n * p.joined + p.atLeastOne.bytes, true⟩
  | 0, some 1 => ⟨p.joined + 72, false⟩
  | min, some max =>
    if max ≤ min then p.copies min
    else ⟨(p.copies min).joined + 32 + (max - min) * (p.joined + 40), false⟩

/-- The memory of a branch with the ways to it and to what follows the choice. -/
def branch (p : Footprint) : Nat := p.joined + 4

/-- A state with a transition for every range. -/
def ofRanges (count : Nat) : Nat := 32 + 8 * count

end Footprint

/-- What can follow each range of bytes that a set of byte patterns starts with. Patterns with the
same start are next to each other. -/
def byteSteps : List Ranges → List ((Nat × Nat) × List Ranges)
  | [] => []
  | [] :: rest => byteSteps rest
  | (r :: tail) :: rest =>
    match byteSteps rest with
    | [] => [(r, [tail])]
    | (s, tails) :: others =>
      if r = s then (s, tail :: tails) :: others else (r, [tail]) :: (s, tails) :: others

/-- The different sets of byte patterns that remain to be read after some bytes, for at most the
given number of bytes. -/
def remainders : Nat → List (List Ranges) → List (List Ranges)
  | 0, sets => sets
  | n + 1, sets =>
    let next := (sets.flatMap (fun set => (byteSteps set).map Prod.snd)).filter (· ≠ [[]])
    (sets ++ remainders n next.eraseDups).eraseDups

/-- The number of bytes that a pattern does not share with the start of the pattern before it. -/
def newBytes : Ranges → Ranges → Nat
  | r :: rest, s :: others => if r = s then newBytes rest others else (s :: others).length
  | _, others => others.length

/-- The number of states for the byte patterns in their order, where patterns share their starts. -/
def sharedStates (before : Ranges) : List Ranges → Nat
  | [] => 0
  | pattern :: rest => newBytes before pattern + sharedStates pattern rest

def total (sizes : List Nat) : Nat := sizes.foldl Nat.add 0

/-- The memory of a class. Beyond ASCII, bytes that come from behind share their states only as far
as the front bytes of the patterns are equal. -/
def classFootprint (backward : Bool) (set : Ranges) : Footprint :=
  if List.all set (fun r => r.2 < 0x80) then ⟨32 + Footprint.ofRanges set.length, false⟩
  else
    let patterns := set.flatMap byteRanges
    if backward then ⟨64 + 32 * sharedStates [] patterns + 4 * patterns.length, false⟩
    else
      let states := remainders 3 [patterns]
      ⟨32 + total (states.map (fun s => Footprint.ofRanges (byteSteps s).length)), false⟩

/-- Divides words, of which an empty one ends a section, into sections. An empty word right at the
start ends a section only once. -/
def sections : List (List Nat) → List (List (List Nat))
  | [] => [[]]
  | [] :: rest => [] :: sections rest
  | word :: rest =>
    match sections rest with
    | [] => [[word]]
    | first :: others => (word :: first) :: others

/-- The words of a section by their first byte, each group without that byte. -/
def byFirstByte (words : List (List Nat)) : List (List (List Nat)) :=
  (words.filterMap List.head?).eraseDups.map (fun b =>
    words.filterMap (fun
      | [] => none
      | c :: rest => if c = b then some rest else none))

/-- The memory of a tree of words up to the given length: a fork between the sections, which keep
the preference of the words, and a state for the first bytes of each. -/
def wordTree : Nat → List (List Nat) → Nat
  | 0, _ => 0
  | n + 1, words =>
    let leading := words.takeWhile (· = [])
    let rest := sections (words.dropWhile (· = []))
    let closed := rest.length - 1 + (if leading = [] then 0 else 1)
    let groups := (rest.filter (· ≠ [])).map byFirstByte
    if groups = [] then 0
    else
      32 + 4 * (closed + groups.length) +
        total (groups.map (fun g => if g.length = 1 then 32 else Footprint.ofRanges g.length)) +
        total (groups.flatMap (fun g => g.map (wordTree n)))

def utf8Text (text : Text) : List Nat := text.flatMap (fun c => utf8Bytes c.toNat)

def literalText : Regex → Option Text
  | literal text => some text
  | _ => none

/-- The memory of a choice between words. -/
def wordsFootprint (backward : Bool) (texts : List Text) : Footprint :=
  let words := texts.map utf8Text
  let words := if backward then words.map List.reverse else words
  ⟨32 + wordTree ((words.map List.length).foldl Nat.max 0) words, false⟩

/-- The memory of the automaton of an expression, or its share in a choice whose last branches it
is made of. -/
def footprintIn (inChoice backward : Bool) : Regex → Footprint
  | empty => share ⟨32, false⟩
  | literal text => share ⟨32 * (utf8Text text).length, false⟩
  | members _ set => share (classFootprint backward set)
  | assertion _ => share ⟨32, false⟩
  | times min max _ a =>
    share ((a.footprintIn false backward).repeated (a.minLength.any (0 < ·)) min max)
  | capture _ a =>
    let p := a.footprintIn false backward
    share (if backward then p else ⟨p.joined + 64, false⟩)
  | cat a b =>
    let p := a.footprintIn false backward
    let q := b.footprintIn false backward
    share (if backward then q.followedBy p else p.followedBy q)
  | alt a b =>
    let bytes := fun _ : Unit =>
      (a.footprintIn false backward).branch + (b.footprintIn true backward).bytes
    if inChoice then ⟨bytes (), false⟩
    else
      match (alt a b).branches.mapM literalText with
      | some texts => wordsFootprint backward texts
      | none => ⟨64 + bytes (), false⟩
where
  share (p : Footprint) : Footprint := if inChoice then ⟨p.branch, false⟩ else p

def footprint (backward : Bool) (a : Regex) : Footprint := a.footprintIn false backward

/-- The memory of the whole automaton that reads forward: it skips what stands before a match,
unless matches start at the start of the text, and marks the two ends of the match. -/
def forwardBytes (a : Regex) : Nat :=
  (if a.startsText then 32 else 112) + 64 + (a.footprint false).joined + 32

/-- The memory of the whole automaton that reads backward. -/
def backwardBytes (a : Regex) : Nat :=
  (if a.endsText then 32 else 112) + (a.footprint true).joined + 32

/-- The greatest number of bytes that an automaton may take. -/
def memoryLimit : Nat := 10 * 1024 * 1024

def fitsMemory (a : Regex) : Bool := a.forwardBytes ≤ memoryLimit && a.backwardBytes ≤ memoryLimit

end Regex

end Predictive
