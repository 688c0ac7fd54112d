import Predictive.Analysis.Basic
/-!
# Iterations that fill a finite pool

Two kinds of iteration end because a finite pool of elements fills up. A loop of passes that only
ever add elements of a pool ends in a fixed point, within one repetition more than the pool has
elements. A rule that derives elements of a pool from elements derived before derives all it can in
as many levels.
-/
namespace Predictive

/-- The run of a loop that repeats a pass as long as the pass reports a change, with the number of
its passes. No limit cuts it short. -/
inductive Loop {α : Type} (pass : α → α × Bool) : α → Nat → α → Prop
  | last (x y : α) (h : pass x = (y, false)) : Loop pass x 1 y
  | again (x y z : α) (n : Nat) (h : pass x = (y, true)) (rest : Loop pass y n z) :
    Loop pass x (n + 1) z

/-- The loop ends within the given number of passes, and one more pass would change nothing. -/
structure Settles {α : Type} (pass : α → α × Bool) (start : α) (limit : Nat) (last : α) : Prop where
  ends : ∃ n ≤ limit, Loop pass start n last
  fixed : pass last = (last, false)

/-- The state of a loop within a pass: some passes are over, and some items of the next one. -/
def midPass {α γ : Type} (step : α → γ → α × Bool) (work : List γ) (items : Nat) : Nat → α → α
  | 0, x => (sweep step (work.take items) x).1
  | passes + 1, x => midPass step work items passes (sweep step work x).1

private theorem countP_lt_of_gain {β : Type} (p q : β → Bool) (xs : List β) (b : β)
    (hsub : ∀ x ∈ xs, p x = true → q x = true) (hb : b ∈ xs) (hp : p b = false)
    (hq : q b = true) : xs.countP p < xs.countP q := by
  induction xs with
  | nil => exact absurd hb List.not_mem_nil
  | cons x xs ih =>
    have hrest : ∀ y ∈ xs, p y = true → q y = true :=
      fun y hy => hsub y (List.mem_cons_of_mem _ hy)
    have hle := List.countP_mono_left hrest
    rcases List.mem_cons.mp hb with rfl | hmem
    · rw [List.countP_cons_of_neg (by simp [hp]), List.countP_cons_of_pos hq]
      omega
    · have hlt := ih hrest hmem
      have hx := hsub x List.mem_cons_self
      simp only [List.countP_cons]
      cases hpx : p x with
      | false => simp; omega
      | true => rw [hx hpx]; simp; omega

/-- Passes of steps that only ever add elements. A step that reports a change adds an element of the
pool, and any other step changes nothing. -/
structure Filling (α β γ : Type) where
  work : List γ
  step : α → γ → α × Bool
  has : α → β → Bool
  inv : α → Prop
  pool : List β
  inv_step : ∀ x, inv x → ∀ c ∈ work, inv (step x c).1
  keeps : ∀ x, inv x → ∀ c ∈ work, ∀ b, has x b = true → has (step x c).1 b = true
  quiet : ∀ x, inv x → ∀ c ∈ work, (step x c).2 = false → (step x c).1 = x
  gains : ∀ x, inv x → ∀ c ∈ work, (step x c).2 = true →
    ∃ b ∈ pool, has x b = false ∧ has (step x c).1 b = true

namespace Filling

variable {α β γ : Type} (F : Filling α β γ)

def pass (x : α) : α × Bool := sweep F.step F.work x

private theorem inv_sweep (cs : List γ) (hcs : cs ⊆ F.work) (x : α) (hx : F.inv x) :
    F.inv (sweep F.step cs x).1 := by
  induction cs generalizing x with
  | nil => exact hx
  | cons c cs ih =>
    have hc := F.inv_step x hx c (hcs List.mem_cons_self)
    exact ih (fun d hd => hcs (List.mem_cons_of_mem _ hd)) _ hc

private theorem keeps_sweep (cs : List γ) (hcs : cs ⊆ F.work) (x : α) (hx : F.inv x) (b : β)
    (hb : F.has x b = true) : F.has (sweep F.step cs x).1 b = true := by
  induction cs generalizing x with
  | nil => exact hb
  | cons c cs ih =>
    have hc := hcs List.mem_cons_self
    exact ih (fun d hd => hcs (List.mem_cons_of_mem _ hd)) _ (F.inv_step x hx c hc)
      (F.keeps x hx c hc b hb)

private theorem sweep_quiet (cs : List γ) (hcs : cs ⊆ F.work) (x : α) (hx : F.inv x)
    (h : (sweep F.step cs x).2 = false) :
    (sweep F.step cs x).1 = x ∧ ∀ c ∈ cs, F.step x c = (x, false) := by
  induction cs with
  | nil => exact ⟨rfl, fun c hc => absurd hc List.not_mem_nil⟩
  | cons c cs ih =>
    obtain ⟨hhere, hlater⟩ := Bool.or_eq_false_iff.mp h
    have hsame := F.quiet x hx c (hcs List.mem_cons_self) hhere
    rw [hsame] at hlater
    obtain ⟨hpass, hsteps⟩ := ih (fun d hd => hcs (List.mem_cons_of_mem _ hd)) hlater
    refine ⟨?_, ?_⟩
    · change (sweep F.step cs (F.step x c).1).1 = x
      rw [hsame]
      exact hpass
    · intro d hd
      rcases List.mem_cons.mp hd with rfl | hd
      · exact Prod.ext hsame hhere
      · exact hsteps d hd

private theorem sweep_gains (cs : List γ) (hcs : cs ⊆ F.work) (x : α) (hx : F.inv x)
    (h : (sweep F.step cs x).2 = true) :
    ∃ b ∈ F.pool, F.has x b = false ∧ F.has (sweep F.step cs x).1 b = true := by
  induction cs with
  | nil => cases h
  | cons c cs ih =>
    have hc := hcs List.mem_cons_self
    have hcs' : cs ⊆ F.work := fun d hd => hcs (List.mem_cons_of_mem _ hd)
    change ∃ b ∈ F.pool, F.has x b = false ∧ F.has (sweep F.step cs (F.step x c).1).1 b = true
    cases hhere : (F.step x c).2 with
    | true =>
      obtain ⟨b, hb, hno, hyes⟩ := F.gains x hx c hc hhere
      exact ⟨b, hb, hno, F.keeps_sweep cs hcs' _ (F.inv_step x hx c hc) b hyes⟩
    | false =>
      have hlater : (sweep F.step cs (F.step x c).1).2 = true :=
        (Bool.or_eq_true_iff.mp h).resolve_left (by simp [hhere])
      rw [F.quiet x hx c hc hhere] at hlater ⊢
      exact ih hcs' hlater

theorem inv_stabilise (limit : Nat) (x : α) (hx : F.inv x) : F.inv (stabilise F.pass limit x) := by
  induction limit generalizing x with
  | zero => exact hx
  | succ limit ih =>
    have hnext := F.inv_sweep F.work (List.Subset.refl _) x hx
    simp only [stabilise]
    split
    · exact ih _ hnext
    · exact hnext

theorem keeps_stabilise (limit : Nat) (x : α) (hx : F.inv x) (b : β) (hb : F.has x b = true) :
    F.has (stabilise F.pass limit x) b = true := by
  induction limit generalizing x with
  | zero => exact hb
  | succ limit ih =>
    have hkept := F.keeps_sweep F.work (List.Subset.refl _) x hx b hb
    simp only [stabilise]
    split
    · exact ih _ (F.inv_sweep F.work (List.Subset.refl _) x hx) hkept
    · exact hkept

theorem inv_midPass (items passes : Nat) (x : α) (hx : F.inv x) :
    F.inv (midPass F.step F.work items passes x) := by
  induction passes generalizing x with
  | zero => exact F.inv_sweep (F.work.take items) (List.take_subset items F.work) x hx
  | succ passes ih => exact ih _ (F.inv_sweep F.work (List.Subset.refl _) x hx)

/-- Every pass that reports a change uses up room in the pool, so the loop ends in time. -/
private theorem loop_of_room (limit : Nat) (x : α) (hx : F.inv x)
    (hroom : F.pool.length < F.pool.countP (F.has x) + limit) :
    ∃ n ≤ limit, Loop F.pass x n (stabilise F.pass limit x) := by
  induction limit generalizing x with
  | zero =>
    have hle : F.pool.countP (F.has x) ≤ F.pool.length := List.countP_le_length
    omega
  | succ limit ih =>
    simp only [stabilise]
    split
    · next hchanged =>
      obtain ⟨b, hb, hno, hyes⟩ := F.sweep_gains F.work (List.Subset.refl _) x hx hchanged
      have hlt : F.pool.countP (F.has x) < F.pool.countP (F.has (F.pass x).1) :=
        countP_lt_of_gain (F.has x) (F.has (F.pass x).1) F.pool b
          (fun d _ => F.keeps_sweep F.work (List.Subset.refl _) x hx d) hb hno hyes
      obtain ⟨n, hn, hrest⟩ :=
        ih (F.pass x).1 (F.inv_sweep F.work (List.Subset.refl _) x hx) (by omega)
      exact ⟨n + 1, by omega, .again x (F.pass x).1 _ n (Prod.ext rfl hchanged) hrest⟩
    · next hquiet =>
      exact ⟨1, by omega, .last x (F.pass x).1 (Prod.ext rfl (Bool.eq_false_iff.mpr hquiet))⟩

private theorem pass_of_loop (x y : α) (n : Nat) (hx : F.inv x) (h : Loop F.pass x n y) :
    F.pass y = (y, false) := by
  induction h with
  | last x y h =>
    obtain ⟨hsame, -⟩ := F.sweep_quiet F.work (List.Subset.refl _) x hx (congrArg Prod.snd h)
    have hxy : x = y := hsame.symm.trans (congrArg Prod.fst h)
    rwa [hxy] at h
  | again x y z n h _ ih =>
    have hnext := F.inv_sweep F.work (List.Subset.refl _) x hx
    rw [show sweep F.step F.work x = (y, true) from h] at hnext
    exact ih hnext

/-- A limit larger than the pool never cuts the loop short. -/
theorem settles (limit : Nat) (hlimit : F.pool.length < limit) (x : α) (hx : F.inv x) :
    Settles F.pass x limit (stabilise F.pass limit x) := by
  obtain ⟨n, hn, hloop⟩ := F.loop_of_room limit x hx (by omega)
  exact ⟨⟨n, hn, hloop⟩, F.pass_of_loop x _ n hx hloop⟩

/-- The loop ends where no step changes anything. -/
theorem step_stabilise (limit : Nat) (hlimit : F.pool.length < limit) (x : α) (hx : F.inv x)
    (c : γ) (hc : c ∈ F.work) :
    F.step (stabilise F.pass limit x) c = (stabilise F.pass limit x, false) := by
  have hfixed := (F.settles limit hlimit x hx).fixed
  exact (F.sweep_quiet F.work (List.Subset.refl _) _ (F.inv_stabilise limit x hx)
    (congrArg Prod.snd hfixed)).2 c hc

end Filling

/-- Passes that enlarge entries which are present, by symbols that the pool allows. -/
def SymbolSets.growing {γ : Type} (work : List γ) (key : γ → Symbol)
    (more : SymbolSets → γ → SymbolSet) (inv : SymbolSets → Prop) (pool : List (Symbol × Symbol))
    (inv_step : ∀ sets, inv sets → ∀ c ∈ work, inv (sets.grow (key c) (more sets c)).1)
    (present : ∀ sets, inv sets → ∀ c ∈ work, (sets.get? (key c)).isSome = true)
    (within : ∀ sets, inv sets → ∀ c ∈ work, ∀ a ∈ more sets c, (key c, a) ∈ pool) :
    Filling SymbolSets (Symbol × Symbol) γ where
  work := work
  step sets c := sets.grow (key c) (more sets c)
  has sets b := decide (b.2 ∈ sets.entry b.1)
  inv := inv
  pool := pool
  inv_step := inv_step
  keeps := by
    intro sets _ c _ b hb
    simp only [decide_eq_true_eq] at hb ⊢
    exact (sets.mem_entry_enlarge (key c) b.1 b.2 _).mpr (Or.inl hb)
  quiet := by
    intro sets hs c hc hquiet
    exact sets.enlarge_eq_self (key c) _ (present sets hs c hc)
      ((sets.grow_eq_false_iff (key c) _).mp hquiet)
  gains := by
    intro sets hs c hc hgain
    have hsome : ¬∀ a ∈ more sets c, a ∈ sets.entry (key c) := by
      rw [← sets.grow_eq_false_iff, hgain]
      exact Bool.noConfusion
    obtain ⟨a, ha⟩ := Classical.not_forall.mp hsome
    obtain ⟨hmem, hnew⟩ := Classical.not_imp.mp ha
    refine ⟨(key c, a), within sets hs c hc a hmem, decide_eq_false hnew, decide_eq_true ?_⟩
    exact (sets.mem_entry_enlarge (key c) (key c) a _).mpr (Or.inr ⟨rfl, hmem⟩)

/-- What a rule derives in at most the given number of levels, each from the level before. -/
def level {α : Type} (rule : (α → Prop) → α → Prop) : Nat → α → Prop
  | 0, _ => False
  | n + 1, x => rule (level rule n) x

section Level

variable {α : Type} {rule : (α → Prop) → α → Prop}

private theorem level_mono (hmono : ∀ P Q : α → Prop, (∀ x, P x → Q x) → ∀ x, rule P x → rule Q x)
    {m n : Nat} (hmn : m ≤ n) (x : α) (h : level rule m x) : level rule n x := by
  induction m generalizing n x with
  | zero => exact False.elim h
  | succ m ih =>
    cases n with
    | zero => omega
    | succ n => exact hmono _ _ (fun y hy => ih (by omega) y hy) x h

private theorem level_of_closed
    (hmono : ∀ P Q : α → Prop, (∀ x, P x → Q x) → ∀ x, rule P x → rule Q x) (j : Nat)
    (hclosed : ∀ x, level rule (j + 1) x → level rule j x) (n : Nat) (x : α)
    (h : level rule n x) : level rule j x := by
  induction n generalizing x with
  | zero => exact False.elim h
  | succ n ih => exact hclosed x (hmono _ _ ih x h)

open Classical in
private theorem closed_or_count
    (hmono : ∀ P Q : α → Prop, (∀ x, P x → Q x) → ∀ x, rule P x → rule Q x)
    (pool : List α) (hin : ∀ P x, rule P x → x ∈ pool) (n : Nat) :
    (∃ j < n, ∀ x, level rule (j + 1) x → level rule j x) ∨
      n ≤ pool.countP (fun x => decide (level rule n x)) := by
  induction n with
  | zero => exact Or.inr (Nat.zero_le _)
  | succ n ih =>
    rcases ih with ⟨j, hj, hclosed⟩ | hcount
    · exact Or.inl ⟨j, by omega, hclosed⟩
    · by_cases hclosed : ∀ x, level rule (n + 1) x → level rule n x
      · exact Or.inl ⟨n, by omega, hclosed⟩
      · -- Some element is new at this level, so the level counts one more.
        right
        obtain ⟨x, hx⟩ := Classical.not_forall.mp hclosed
        obtain ⟨hnew, hold⟩ := Classical.not_imp.mp hx
        have hlt := countP_lt_of_gain (fun x => decide (level rule n x))
          (fun x => decide (level rule (n + 1) x)) pool x
          (fun y _ hy => by
            simp only [decide_eq_true_eq] at hy ⊢
            exact level_mono hmono (Nat.le_succ n) y hy)
          (hin _ x hnew) (by simpa using hold) (by simpa using hnew)
        omega

/-- A rule that derives elements of a pool only needs no more levels than it has elements. -/
theorem level_saturates
    (hmono : ∀ P Q : α → Prop, (∀ x, P x → Q x) → ∀ x, rule P x → rule Q x)
    (pool : List α) (hin : ∀ P x, rule P x → x ∈ pool) (n : Nat) (x : α)
    (h : level rule n x) : level rule pool.length x := by
  classical
  rcases closed_or_count hmono pool hin (pool.length + 1) with ⟨j, hj, hclosed⟩ | hcount
  · exact level_mono hmono (by omega) x (level_of_closed hmono j hclosed n x h)
  · have hle : pool.countP (fun x => decide (level rule (pool.length + 1) x)) ≤
        pool.length := List.countP_le_length
    omega

end Level

end Predictive
