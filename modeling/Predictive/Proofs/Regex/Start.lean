import Mathlib.Data.List.Basic
import Predictive.Regex.Search
/-!
# Where matches start

A thread keeps its start on all its ways through a program. So the matches of a pattern that is tied
to the start of the text are matches at the start of the text.
-/
namespace Predictive

namespace Pattern

variable (p : Pattern) (start : Nat)

private theorem start_of_enter (before after : Option Char) (limit : Nat)
    (stack entered : List Thread) (v : Visits) (hstack : ∀ t ∈ stack, t.start = start)
    (hentered : ∀ t ∈ entered, t.start = start) :
    ∀ t ∈ (p.enter before after limit stack entered v).1, t.start = start := by
  fun_induction p.enter before after limit stack entered v <;> simp_all

private theorem start_of_waiting (before after : Option Char) (threads : List Thread) (v : Visits)
    (h : ∀ t ∈ threads, t.start = start) :
    ∀ t ∈ (p.waiting before after threads v).1, t.start = start := by
  have hentered := p.start_of_enter start before after (threads.length + 2 * p.program.size + 1)
    threads [] v.next h (by simp)
  simpa [waiting] using hentered

private theorem start_of_advance (c : Option Char) (next threads : List Thread)
    (hnext : ∀ t ∈ next, t.start = start) (h : ∀ t ∈ threads, t.start = start) :
    (∀ s ∈ (p.advance c next threads).1, s = start) ∧
      ∀ t ∈ (p.advance c next threads).2, t.start = start := by
  fun_induction p.advance c next threads <;> simp_all

private theorem start_of_withStart (hp : p.startsText = true) (position : Nat)
    (best : Option (Nat × Nat)) (threads : List Thread) (h : ∀ t ∈ threads, t.start = 0) :
    ∀ t ∈ p.withStart position best threads, t.start = 0 := by
  intro t ht
  rw [withStart] at ht
  split at ht
  · next hnew =>
    have hposition : position = 0 := by simpa [hp] using (Bool.and_eq_true_iff.mp hnew).2
    rcases List.mem_append.mp ht with hold | hlast
    · exact h t hold
    · rw [List.mem_singleton.mp hlast, hposition]
  · exact h t ht

private theorem start_of_limitsFrom (hp : p.startsText = true) (before : Option Char)
    (position : Nat) (threads : List Thread) (best : Option (Nat × Nat)) (v : Visits) (text : Text)
    (hthreads : ∀ t ∈ threads, t.start = 0) (hbest : ∀ b ∈ best, b.1 = 0) :
    ∀ r ∈ p.limitsFrom before position threads best v text, r.1 = 0 := by
  induction text generalizing before position threads best v with
  | nil =>
    have hstarted := p.start_of_withStart hp position best threads hthreads
    have hwaiting := p.start_of_waiting 0 before none _ v hstarted
    have hfound := (p.start_of_advance 0 none [] _ (by simp) hwaiting).1
    simp only [limitsFrom]
    split
    · next start _ hadvance => simpa using hfound start (by simp [hadvance])
    · exact hbest
  | cons c rest ih =>
    have hstarted := p.start_of_withStart hp position best threads hthreads
    rw [limitsFrom]
    split
    · exact hbest
    · have hwaiting := p.start_of_waiting 0 before (some c) _ v hstarted
      have hadvanced := p.start_of_advance 0 (some c) [] _ (by simp) hwaiting
      dsimp only
      split
      · next start next hadvance =>
        rw [hadvance] at hadvanced
        exact ih _ _ _ _ _ hadvanced.2 (by simpa using hadvanced.1)
      · next next hadvance =>
        rw [hadvance] at hadvanced
        exact ih _ _ _ _ _ hadvanced.2 hbest

/-- A pattern that is tied to the start of the text has no matches elsewhere. -/
theorem before_eq_nil_of_startsText (hp : p.startsText = true) (text : Text) (m : Match)
    (h : p.find text = some m) : m.before = [] := by
  obtain ⟨r, hr, rfl⟩ := Option.map_eq_some_iff.mp h
  have hstart := p.start_of_limitsFrom hp none 0 [] none _ text (by simp) (by simp) r hr
  rw [hstart, List.take_zero]

end Pattern

end Predictive
