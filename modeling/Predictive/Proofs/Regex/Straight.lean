import Mathlib.Data.List.Basic
import Predictive.Regex.Search
/-!
# Programs without forks

A program without forks and jumps is a row of assertions and characters to take. If its matches
start at the start of the text, the search has one thread at most, which goes along the row. So the
match is what one finds by going along the row by hand.
-/
namespace Predictive

namespace Instruction

/-- The instruction leads nowhere but to the next one. -/
def isStraight : Instruction → Bool
  | take _ => true
  | assertion _ => true
  | accept => true
  | _ => false

/-- The first instruction of the row that is no assertion and the row behind it, if all assertions
in front of it hold between the two characters. -/
def overstep (before after : Option Char) :
    List Instruction → Option (Instruction × List Instruction)
  | [] => none
  | assertion a :: row => if a.holds before after then overstep before after row else none
  | i :: row => some (i, row)

/-- The number of characters that the row takes from the text, if it comes to its end. -/
def follow (row : List Instruction) (before : Option Char) : Text → Option Nat
  | [] =>
    match overstep before none row with
    | some (accept, _) => some 0
    | _ => none
  | c :: text =>
    match overstep before (some c) row with
    | some (accept, _) => some 0
    | some (take set, later) =>
      if inRanges set c.toNat then (follow later (some c) text).map (· + 1) else none
    | _ => none

end Instruction

namespace Visits

/-- No place was entered in a step to come. -/
def Past (v : Visits) : Prop :=
  ∀ place step : Nat, v.lastStep[place]? = some step → step ≤ v.step

private theorem past_start (size : Nat) : (start size).Past := by
  intro place step h
  simp only [start, Array.getElem?_replicate] at h
  split at h
  · cases h
    exact Nat.zero_le _
  · cases h

theorem Past.enter (v : Visits) (h : v.Past) (place : Nat) : (v.enter place).Past := by
  intro other step hstep
  simp only [Visits.enter, Array.getElem?_setIfInBounds] at hstep
  split at hstep
  · split at hstep
    · cases hstep
      exact Nat.le_refl _
    · cases hstep
  · exact h other step hstep

theorem Past.next (v : Visits) (h : v.Past) : v.next.Past :=
  fun place step hstep => Nat.le_succ_of_le (h place step hstep)

private theorem Past.isEntered_next (v : Visits) (h : v.Past) (place : Nat) :
    v.next.isEntered place = false := by
  simp only [isEntered, decide_eq_false_iff_not]
  intro hstep
  exact Nat.not_succ_le_self _ (h place _ hstep)

private theorem isEntered_enter_of_ne (v : Visits) (place other : Nat) (hne : place ≠ other) :
    (v.enter place).isEntered other = v.isEntered other := by
  simp only [isEntered, enter, Array.getElem?_setIfInBounds, if_neg hne]

end Visits

namespace Pattern

open Instruction

/-- A program that is a row without forks, for matches at the start of the text. -/
structure IsRow (p : Pattern) : Prop where
  straight : ∀ i ∈ p.program.toList, i.isStraight = true
  startsText : p.startsText = true

/-- What has become of a single thread in front of the row that has passed the assertions there: it
waits at the instruction behind them, or it is gone. -/
def PassedTo (p : Pattern) (before after : Option Char) (row : List Instruction) (start : Nat)
    (waiting : List Thread) : Prop :=
  match overstep before after row with
  | none => waiting = []
  | some (i, later) =>
    ∃ done, p.program.toList = done ++ i :: later ∧ waiting = [⟨done.length, start⟩]

section Rows

variable (p : Pattern) (done row : List Instruction) (hp : p.program.toList = done ++ row)

include hp in
private theorem getElem?_program : p.program[done.length]? = row.head? := by
  rw [← Array.getElem?_toList, hp, List.getElem?_append_right (Nat.le_refl _), Nat.sub_self,
    List.head?_eq_getElem?]

private theorem enter_nil (before after : Option Char) (limit : Nat) (entered : List Thread)
    (v : Visits) : p.enter before after limit [] entered v = (entered, v) := by
  cases limit <;> rfl

include hp in
private theorem enter_row (hrow : p.IsRow) (before after : Option Char) (limit : Nat)
    (hlimit : row.length < limit) (start : Nat) (v : Visits) (hv : v.Past)
    (hfresh : ∀ place, done.length ≤ place → v.isEntered place = false) :
    p.PassedTo before after row start
      (p.enter before after limit [⟨done.length, start⟩] [] v).1 ∧
    (p.enter before after limit [⟨done.length, start⟩] [] v).2.Past := by
  induction row generalizing done limit v with
  | nil =>
    obtain ⟨limit, rfl⟩ := Nat.exists_eq_succ_of_ne_zero (Nat.ne_of_gt hlimit)
    have hplace := p.getElem?_program done [] hp
    simp only [enter, hfresh done.length (Nat.le_refl _), hplace, enter_nil]
    exact ⟨rfl, hv.enter v done.length⟩
  | cons i row ih =>
    obtain ⟨limit, rfl⟩ := Nat.exists_eq_succ_of_ne_zero (Nat.ne_of_gt (Nat.zero_lt_of_lt hlimit))
    have hplace := p.getElem?_program done (i :: row) hp
    have hstraight := hrow.straight i (by simp [hp])
    have hentered := hv.enter v done.length
    cases i with
    | fork | jump => cases hstraight
    | take | accept =>
      simp only [enter, hfresh done.length (Nat.le_refl _), hplace, enter_nil]
      exact ⟨⟨done, hp, rfl⟩, hentered⟩
    | assertion a =>
      have hstep : p.enter before after (limit + 1) [⟨done.length, start⟩] [] v =
          if a.holds before after then
            p.enter before after limit [⟨done.length + 1, start⟩] [] (v.enter done.length)
          else ([], v.enter done.length) := by
        simp [enter, hfresh done.length (Nat.le_refl _), hplace, enter_nil]
      by_cases ha : a.holds before after = true
      · have hlength : (done ++ [assertion a]).length = done.length + 1 := by simp
        rw [hstep, if_pos ha, PassedTo, overstep, if_pos ha, ← hlength]
        refine ih (done ++ [assertion a]) (by simpa using hp) limit
          (Nat.lt_of_succ_lt_succ hlimit) (v.enter done.length) hentered ?_
        intro place hle
        rw [hlength] at hle
        rw [v.isEntered_enter_of_ne _ _ (by omega)]
        exact hfresh place (by omega)
      · rw [hstep, if_neg ha, PassedTo, overstep, if_neg ha]
        exact ⟨rfl, hentered⟩

include hp in
private theorem passedTo_waiting (hrow : p.IsRow) (before after : Option Char) (start : Nat)
    (v : Visits) (hv : v.Past) :
    p.PassedTo before after row start (p.waiting before after [⟨done.length, start⟩] v).1 ∧
    (p.waiting before after [⟨done.length, start⟩] v).2.Past := by
  have hsize : row.length ≤ p.program.size := by
    rw [← Array.length_toList, hp, List.length_append]
    exact Nat.le_add_left _ _
  obtain ⟨hpassed, hpast⟩ := p.enter_row done row hp hrow before after
    (1 + 2 * p.program.size + 1) (by omega) start v.next hv.next
    (fun place _ => hv.isEntered_next v place)
  refine ⟨?_, hpast⟩
  have hwaiting : (p.waiting before after [⟨done.length, start⟩] v).1 = (p.enter before after
      (1 + 2 * p.program.size + 1) [⟨done.length, start⟩] [] v.next).1.reverse := rfl
  rw [PassedTo] at hpassed ⊢
  rw [hwaiting]
  split at hpassed
  · rw [hpassed]
    rfl
  · obtain ⟨before, hsplit, hthreads⟩ := hpassed
    exact ⟨before, hsplit, by rw [hthreads]; rfl⟩

end Rows

section Searches

variable (p : Pattern)

private theorem limitsFrom_nil (before : Option Char) (position : Nat) (threads : List Thread)
    (best : Option (Nat × Nat)) (hthreads : p.withStart position best threads = [])
    (v : Visits) (text : Text) : p.limitsFrom before position threads best v text = best := by
  cases text with
  | nil => simp [limitsFrom, hthreads, waiting, enter_nil, advance]
  | cons c text => rw [limitsFrom, hthreads]

/-- A search with a single thread finds what one finds by going along the row. -/
private theorem limitsFrom_row (hrow : p.IsRow) (done row : List Instruction)
    (hp : p.program.toList = done ++ row) (before : Option Char) (position : Nat)
    (threads : List Thread) (hthreads : p.withStart position none threads = [⟨done.length, 0⟩])
    (v : Visits) (hv : v.Past) (text : Text) :
    p.limitsFrom before position threads none v text =
      (follow row before text).map (fun n => (0, position + n)) := by
  induction text generalizing done row before position threads v with
  | nil =>
    have hwaiting := (p.passedTo_waiting done row hp hrow before none 0 v hv).1
    rw [PassedTo] at hwaiting
    simp only [limitsFrom, hthreads, follow]
    split at hwaiting
    · next hpass => simp [hwaiting, hpass, advance]
    · next i later hpass =>
      obtain ⟨passed, hsplit, hthread⟩ := hwaiting
      have hplace := p.getElem?_program passed (i :: later) hsplit
      rw [List.head?_cons] at hplace
      cases i <;> simp [hthread, hpass, advance, hplace]
  | cons c text ih =>
    obtain ⟨hwaiting, hpast⟩ := p.passedTo_waiting done row hp hrow before (some c) 0 v hv
    have hlater (position : Nat) (threads : List Thread) :
        p.withStart (position + 1) none threads = threads := by
      simp [withStart, hrow.startsText]
    rw [PassedTo] at hwaiting
    simp only [limitsFrom, hthreads, follow]
    split at hwaiting
    · next hpass =>
      simp [hwaiting, hpass, advance, p.limitsFrom_nil _ _ [] none (hlater position [])]
    · next i later hpass =>
      obtain ⟨passed, hsplit, hthread⟩ := hwaiting
      have hplace := p.getElem?_program passed (i :: later) hsplit
      rw [List.head?_cons] at hplace
      cases i with
      | accept =>
        have hend (position : Nat) (best : Nat × Nat) :
            p.withStart position (some best) [] = [] := by
          simp [withStart]
        simp [hthread, hpass, advance, hplace, p.limitsFrom_nil _ _ [] _ (hend _ _)]
      | take set =>
        by_cases hc : inRanges set c.toNat = true
        · have hlength : (passed ++ [take set]).length = passed.length + 1 := by simp
          have hrest := ih (passed ++ [take set]) later (by simpa using hsplit) (some c)
            (position + 1) [⟨passed.length + 1, 0⟩] (by rw [hlater, hlength])
            (p.waiting before (some c) [⟨done.length, 0⟩] v).2 hpast
          simp only [hthread, hpass, advance, hplace, Option.any_some, hc, if_true,
            List.reverse_singleton, hrest, Option.map_map]
          congr 1
          funext n
          exact congrArg (Prod.mk 0) (Nat.add_right_comm position 1 n)
        · simp [hthread, hpass, advance, hplace, hc, p.limitsFrom_nil _ _ [] none (hlater _ [])]
      | _ =>
        simp [hthread, hpass, advance, hplace, p.limitsFrom_nil _ _ [] none (hlater _ [])]

/-- The match of a row is at the start of the text and has as many characters as the row takes. -/
theorem find_row (hrow : p.IsRow) (text : Text) :
    p.find text = (follow p.program.toList none text).map (fun n => ⟨[], text.take n⟩) := by
  have hlimits := p.limitsFrom_row hrow [] p.program.toList rfl none 0 [] rfl
    (Visits.start p.program.size) (Visits.past_start _) text
  rw [find, hlimits, Option.map_map]
  simp [Function.comp_def]

end Searches

end Pattern

end Predictive
