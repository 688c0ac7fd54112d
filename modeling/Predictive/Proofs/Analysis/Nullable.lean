import Predictive.Proofs.Grammar.Derivation
import Predictive.Proofs.Saturation
/-!
# Nullable symbols are the symbols that derive the empty string

The search drops the productions that it has settled, which changes none of its passes. So the
nullable set is closed under the productions, and every nullable symbol other than `empty` is
reached by the rule that a head vanishes once all symbols pushed for it do. This rule needs no more
levels than there are heads.
-/
namespace Predictive

namespace Grammar

/-- A head vanishes if the symbols that one of its productions pushes do. -/
def vanishRule (g : Grammar) (vanishes : Symbol → Prop) (s : Symbol) : Prop :=
  ∃ p ∈ g.productions, p.head = s ∧ ∀ x ∈ p.pushed, vanishes x

private theorem vanishRule_mono (g : Grammar) (P Q : Symbol → Prop) (hPQ : ∀ x, P x → Q x)
    (s : Symbol) (h : g.vanishRule P s) : g.vanishRule Q s := by
  obtain ⟨p, hp, hhead, hall⟩ := h
  exact ⟨p, hp, hhead, fun x hx => hPQ x (hall x hx)⟩

/-- The heads that vanish within the given number of levels. -/
def VanishesBy (g : Grammar) (n : Nat) (s : Symbol) : Prop := level g.vanishRule n s

theorem VanishesBy.mem_heads (g : Grammar) (n : Nat) (s : Symbol) (h : g.VanishesBy n s) :
    s ∈ g.heads := by
  cases n with
  | zero => exact False.elim h
  | succ n =>
    obtain ⟨p, hp, rfl, -⟩ := h
    exact g.head_mem_heads p hp

theorem VanishesBy.le_heads (g : Grammar) (n : Nat) (s : Symbol) (h : g.VanishesBy n s) :
    g.VanishesBy g.heads.length s := by
  apply level_saturates g.vanishRule_mono g.heads ?_ n s h
  rintro P x ⟨p, hp, rfl, -⟩
  exact g.head_mem_heads p hp

theorem VanishesBy.derives_nil (g : Grammar) (n : Nat) (s : Symbol) (h : g.VanishesBy n s) :
    g.Derives [s] [] := by
  induction n generalizing s with
  | zero => exact False.elim h
  | succ n ih =>
    obtain ⟨p, hp, rfl, hall⟩ := h
    have hsolid := (g.derives_body p hp).trans g _ _ _ (g.derives_solid p.body)
    exact hsolid.trans g _ _ _ (g.derives_nil_of_forall _ (fun x hx => ih x (hall x hx)))

private theorem makesNullable_of_forall (known : SymbolSet) (p : Production)
    (h : ∀ x ∈ p.body, x ∈ known) : makesNullable known p = true := by
  have hall : p.body.all (fun s => s ∈ known) = true := by simpa using h
  rw [makesNullable, hall, Bool.or_true]

private theorem mem_of_makesNullable (known : SymbolSet) (p : Production)
    (h : makesNullable known p = true) : ∀ x ∈ p.pushed, x ∈ known := by
  intro x hx
  obtain ⟨hbody, hsolid⟩ := List.mem_filter.mp hx
  rcases Bool.or_eq_true_iff.mp h with hempty | hall
  · have hcases : p.body = [] ∨ p.body = [Symbol.epsilon] := by
      simpa [Body.isEmptyAlternative] using hempty
    rcases hcases with hnil | hsingle
    · simp [hnil] at hbody
    · rw [hsingle, List.mem_singleton] at hbody
      simp [hbody] at hsolid
  · have hknown : ∀ x ∈ p.body, x ∈ known := by simpa using hall
    exact hknown x hbody

/-- A step of passes over all productions. It settles nothing, so that the productions stay. -/
def addNullable (known : SymbolSet) (p : Production) : SymbolSet × Bool :=
  if makesNullable known p then (known.insert p.head, decide (p.head ∉ known)) else (known, false)

private theorem insert_of_mem (known : SymbolSet) (s : Symbol) (h : s ∈ known) :
    known.insert s = known := by
  apply OrderedSet.ext_mem
  intro a
  rw [OrderedSet.mem_insert]
  exact ⟨fun ha => ha.elim (fun e => e ▸ h) id, Or.inr⟩

private theorem addNullable_of_head_mem (known : SymbolSet) (p : Production) (h : p.head ∈ known) :
    addNullable known p = (known, false) := by
  unfold addNullable
  split
  · rw [insert_of_mem known p.head h]
    simp [h]
  · rfl

private theorem mem_addNullable (known : SymbolSet) (p : Production) (s : Symbol) :
    s ∈ (addNullable known p).1 ↔ s ∈ known ∨ s = p.head ∧ makesNullable known p = true := by
  unfold addNullable
  split
  · next h => rw [OrderedSet.mem_insert, or_comm, and_iff_left h]
  · next h => simp [h]

/-- What is pending is all of a list but some productions whose heads are known. -/
inductive Pending (known : SymbolSet) : List Production → List Production → Prop
  | nil : Pending known [] []
  | kept (p : Production) (ps qs : List Production) (rest : Pending known ps qs) :
    Pending known (p :: ps) (p :: qs)
  | settled (p : Production) (ps qs : List Production) (h : p.head ∈ known)
    (rest : Pending known ps qs) : Pending known (p :: ps) qs

theorem Pending.refl (known : SymbolSet) (ps : List Production) : Pending known ps ps := by
  induction ps with
  | nil => exact .nil
  | cons p ps ih => exact .kept p ps ps ih

theorem Pending.mono (known more : SymbolSet) (hsub : ∀ s ∈ known, s ∈ more)
    (ps qs : List Production) (h : Pending known ps qs) : Pending more ps qs := by
  induction h with
  | nil => exact .nil
  | kept p ps qs _ ih => exact .kept p ps qs ih
  | settled p ps qs h _ ih => exact .settled p ps qs (hsub _ h) ih

theorem Pending.trans (known : SymbolSet) (ps qs rs : List Production) (h : Pending known ps qs)
    (h' : Pending known qs rs) : Pending known ps rs := by
  induction h generalizing rs with
  | nil => exact h'
  | kept p ps qs _ ih =>
    cases h' with
    | kept _ _ rs rest => exact .kept p ps rs (ih rs rest)
    | settled _ _ _ hp rest => exact .settled p ps rs hp (ih rs rest)
  | settled p ps qs hp _ ih => exact .settled p ps rs hp (ih rs h')

private theorem sweep_of_pending (known : SymbolSet) (ps qs : List Production)
    (h : Pending known ps qs) : sweep addNullable ps known = sweep addNullable qs known := by
  induction ps generalizing known qs with
  | nil =>
    cases h
    rfl
  | cons p ps ih =>
    cases h with
    | kept _ _ qs rest =>
      have hrest := rest.mono known (addNullable known p).1
        (fun s hs => (mem_addNullable known p s).mpr (Or.inl hs)) ps qs
      simp only [sweep, ih _ qs hrest]
    | settled _ _ _ hp rest =>
      simp only [sweep, addNullable_of_head_mem known p hp, ih known qs rest, Bool.false_or]

private theorem mem_sweep_addNullable (ps : List Production) (known : SymbolSet) (s : Symbol)
    (hs : s ∈ known) : s ∈ (sweep addNullable ps known).1 := by
  induction ps generalizing known with
  | nil => exact hs
  | cons p ps ih => exact ih _ ((mem_addNullable known p s).mpr (Or.inl hs))

/-- A pass over what is pending finds what a pass over the same productions finds, and keeps all but
productions that it settles. -/
private theorem sweep_settle (ps : List Production) (c : NullableSearch) :
    ∃ rest, sweep settle ps c = (⟨(sweep addNullable ps c.known).1, c.pending ++ rest⟩,
        (sweep addNullable ps c.known).2) ∧
      Pending (sweep addNullable ps c.known).1 ps rest := by
  induction ps generalizing c with
  | nil => exact ⟨[], by simp [sweep], .nil⟩
  | cons p ps ih =>
    by_cases h : makesNullable c.known p = true
    · obtain ⟨rest, heq, hrest⟩ := ih ⟨c.known.insert p.head, c.pending⟩
      refine ⟨rest, ?_, ?_⟩
      · simp only [sweep, settle, addNullable, if_pos h, heq]
      · simp only [sweep, addNullable, if_pos h]
        refine .settled p ps rest ?_ hrest
        exact mem_sweep_addNullable ps _ p.head ((OrderedSet.mem_insert _ _ _).mpr (Or.inl rfl))
    · obtain ⟨rest, heq, hrest⟩ := ih ⟨c.known, c.pending ++ [p]⟩
      refine ⟨p :: rest, ?_, ?_⟩
      · simp only [sweep, settle, addNullable, if_neg h, heq, List.append_assoc,
          List.singleton_append]
      · simp only [sweep, addNullable, if_neg h]
        exact .kept p ps rest hrest

private theorem nullablePass_of_pending (ps : List Production) (c : NullableSearch)
    (h : Pending c.known ps c.pending) : ∃ rest,
      nullablePass c = (⟨(sweep addNullable ps c.known).1, rest⟩,
        (sweep addNullable ps c.known).2) ∧
      Pending (sweep addNullable ps c.known).1 ps rest := by
  obtain ⟨rest, heq, hrest⟩ := sweep_settle c.pending ⟨c.known, []⟩
  have hkept := h.mono c.known (sweep addNullable c.pending c.known).1
    (mem_sweep_addNullable c.pending c.known) ps c.pending
  rw [sweep_of_pending c.known ps c.pending h]
  exact ⟨rest, heq, hkept.trans _ ps c.pending rest hrest⟩

/-- The search finds what passes over all productions find. -/
private theorem known_stabilise (ps : List Production) (limit : Nat) (c : NullableSearch)
    (h : Pending c.known ps c.pending) :
    (stabilise nullablePass limit c).known = stabilise (sweep addNullable ps) limit c.known := by
  induction limit generalizing c with
  | zero => rfl
  | succ limit ih =>
    obtain ⟨rest, hpass, hrest⟩ := nullablePass_of_pending ps c h
    simp only [stabilise, hpass]
    split
    · exact ih _ hrest
    · rfl

private theorem loop_of_pending (ps : List Production) (x known : SymbolSet) (n : Nat)
    (hloop : Loop (sweep addNullable ps) x n known) (pending : List Production)
    (h : Pending x ps pending) : ∃ rest, Loop nullablePass ⟨x, pending⟩ n ⟨known, rest⟩ := by
  induction hloop generalizing pending with
  | last x y hquiet =>
    obtain ⟨rest, hpass, -⟩ := nullablePass_of_pending ps ⟨x, pending⟩ h
    rw [hquiet] at hpass
    exact ⟨rest, .last _ _ hpass⟩
  | again x y z n hchanged _ ih =>
    obtain ⟨rest, hpass, hrest⟩ := nullablePass_of_pending ps ⟨x, pending⟩ h
    rw [hchanged] at hpass hrest
    obtain ⟨last, hlast⟩ := ih rest hrest
    exact ⟨last, .again _ _ _ n hpass hlast⟩

private theorem sweep_settle_of_closed (ps : List Production) (c : NullableSearch)
    (h : ∀ p ∈ ps, makesNullable c.known p = true → p.head ∈ c.known) :
    sweep settle ps c =
      (⟨c.known, c.pending ++ ps.filter (fun p => !makesNullable c.known p)⟩, false) := by
  induction ps generalizing c with
  | nil => simp [sweep]
  | cons p ps ih =>
    obtain ⟨hp, hps⟩ := List.forall_mem_cons.mp h
    by_cases hmakes : makesNullable c.known p = true
    · have hstep : settle c p = (c, false) := by
        simp [settle, hmakes, hp hmakes, insert_of_mem c.known p.head (hp hmakes)]
      simp [sweep, hstep, ih c hps, hmakes]
    · have hstep : settle c p = (⟨c.known, c.pending ++ [p]⟩, false) := by simp [settle, hmakes]
      simp [sweep, hstep, ih ⟨c.known, c.pending ++ [p]⟩ hps, hmakes]

private theorem closed_of_sweep_settle (ps : List Production) (c : NullableSearch)
    (h : (sweep settle ps c).2 = false) :
    ∀ p ∈ ps, makesNullable c.known p = true → p.head ∈ c.known := by
  induction ps generalizing c with
  | nil => exact fun p hp => absurd hp List.not_mem_nil
  | cons p ps ih =>
    have hquiet : (settle c p).2 = false ∧ (sweep settle ps (settle c p).1).2 = false :=
      Bool.or_eq_false_iff.mp h
    obtain ⟨hhere, hlater⟩ := hquiet
    have hp : makesNullable c.known p = true → p.head ∈ c.known := by
      intro hmakes
      simpa [settle, hmakes] using hhere
    have hknown : (settle c p).1.known = c.known := by
      by_cases hmakes : makesNullable c.known p = true
      · simp [settle, hmakes, insert_of_mem c.known p.head (hp hmakes)]
      · simp [settle, hmakes]
    have hps := ih (settle c p).1 hlater
    rw [hknown] at hps
    exact List.forall_mem_cons.mpr ⟨hp, hps⟩

private theorem nullablePass_of_quiet (c d : NullableSearch) (h : nullablePass c = (d, false)) :
    nullablePass d = (d, false) := by
  have hclosed := closed_of_sweep_settle c.pending ⟨c.known, []⟩ (congrArg Prod.snd h)
  have hpass := (sweep_settle_of_closed c.pending ⟨c.known, []⟩ hclosed).symm.trans h
  obtain ⟨rfl, -⟩ := Prod.ext_iff.mp hpass
  have hkept : ∀ p ∈ c.pending.filter (fun p => !makesNullable c.known p),
      makesNullable c.known p = true → p.head ∈ c.known :=
    fun p hp => hclosed p (List.mem_filter.mp hp).1
  refine (sweep_settle_of_closed _ ⟨c.known, []⟩ hkept).trans ?_
  simp [List.filter_filter]

private theorem nullablePass_of_loop (c d : NullableSearch) (n : Nat)
    (h : Loop nullablePass c n d) : nullablePass d = (d, false) := by
  induction h with
  | last c d h => exact nullablePass_of_quiet c d h
  | again _ _ _ _ _ _ ih => exact ih

/-- Passes over all productions, with the levels of the members as their invariant. -/
def nullableFilling (g : Grammar) : Filling SymbolSet Symbol Production where
  work := g.productions
  step := addNullable
  has known s := decide (s ∈ known)
  inv known := ∀ s ∈ known, s = Symbol.epsilon ∨ g.VanishesBy g.heads.length s
  pool := g.heads
  inv_step := by
    intro known hknown p hp s hs
    rcases (mem_addNullable known p s).mp hs with hs | ⟨rfl, hmakes⟩
    · exact hknown s hs
    · right
      apply VanishesBy.le_heads g (g.heads.length + 1)
      refine ⟨p, hp, rfl, ?_⟩
      intro x hx
      have hsolid := (List.mem_filter.mp hx).2
      have hx' := hknown x (mem_of_makesNullable known p hmakes x hx)
      exact hx'.resolve_left (by simpa using hsolid)
  keeps := by
    intro known _ p _ s hs
    simp only [decide_eq_true_eq] at hs ⊢
    exact (mem_addNullable known p s).mpr (Or.inl hs)
  quiet := by
    intro known _ p _ hquiet
    by_cases hmem : p.head ∈ known
    · rw [addNullable_of_head_mem known p hmem]
    · unfold addNullable at hquiet ⊢
      split at hquiet
      · simp [hmem] at hquiet
      · next h => rw [if_neg h]
  gains := by
    intro known _ p hp hgain
    unfold addNullable at hgain
    split at hgain
    · next h =>
      have hnew : p.head ∉ known := by simpa using hgain
      refine ⟨p.head, g.head_mem_heads p hp, decide_eq_false hnew, decide_eq_true ?_⟩
      exact (mem_addNullable known p p.head).mpr (Or.inr ⟨rfl, h⟩)
    · cases hgain

private theorem nullable_eq_stabilise (g : Grammar) : g.nullable =
    stabilise g.nullableFilling.pass (g.heads.length + 1) (OrderedSet.singleton Symbol.epsilon) :=
  known_stabilise g.productions _ _ (Pending.refl _ g.productions)

private theorem nullable_seed_inv (g : Grammar) :
    g.nullableFilling.inv (OrderedSet.singleton Symbol.epsilon) := by
  intro s hs
  exact Or.inl ((OrderedSet.mem_singleton s _).mp hs)

theorem epsilon_mem_nullable (g : Grammar) : Symbol.epsilon ∈ g.nullable := by
  have h := g.nullableFilling.keeps_stabilise (g.heads.length + 1) _ g.nullable_seed_inv
    Symbol.epsilon (by simp [nullableFilling])
  rw [nullable_eq_stabilise]
  exact of_decide_eq_true h

/-- A nullable symbol is `empty` or a head that vanishes. -/
theorem vanishesBy_of_mem_nullable (g : Grammar) (s : Symbol) (h : s ∈ g.nullable) :
    s = Symbol.epsilon ∨ g.VanishesBy g.heads.length s := by
  rw [nullable_eq_stabilise] at h
  exact g.nullableFilling.inv_stabilise (g.heads.length + 1) _ g.nullable_seed_inv s h

theorem vanishesBy_of_mem_solid (g : Grammar) (s : Body) (hs : ∀ x ∈ s, x ∈ g.nullable) (x : Symbol)
    (hx : x ∈ Body.solid s) : g.VanishesBy g.heads.length x := by
  obtain ⟨hmem, hsolid⟩ := List.mem_filter.mp hx
  exact (g.vanishesBy_of_mem_nullable x (hs x hmem)).resolve_left (by simpa using hsolid)

/-- The search for nullable symbols ends, and one more pass would find nothing and drop nothing. -/
theorem nullable_settles (g : Grammar) : ∃ pending,
    Settles nullablePass ⟨OrderedSet.singleton Symbol.epsilon, g.productions⟩
      (g.heads.length + 1) ⟨g.nullable, pending⟩ := by
  obtain ⟨⟨n, hn, hloop⟩, -⟩ :=
    g.nullableFilling.settles (g.heads.length + 1) (Nat.lt_succ_self _) _ g.nullable_seed_inv
  rw [← nullable_eq_stabilise] at hloop
  obtain ⟨pending, hsearch⟩ :=
    loop_of_pending g.productions _ _ n hloop g.productions (Pending.refl _ g.productions)
  exact ⟨pending, ⟨n, hn, hsearch⟩, nullablePass_of_loop _ _ n hsearch⟩

private theorem head_mem_of_makesNullable (g : Grammar) (p : Production) (hp : p ∈ g.productions)
    (h : makesNullable g.nullable p = true) : p.head ∈ g.nullable := by
  have hfixed : addNullable g.nullable p = (g.nullable, false) := by
    rw [nullable_eq_stabilise]
    exact g.nullableFilling.step_stabilise (g.heads.length + 1) (Nat.lt_succ_self _) _
      g.nullable_seed_inv p hp
  have hmem := (mem_addNullable g.nullable p p.head).mpr (Or.inr ⟨rfl, h⟩)
  rwa [hfixed] at hmem

/-- Where the search for nullable symbols ends, no production adds anything, whether it was settled or
not. -/
theorem settle_nullable (g : Grammar) (p : Production) (hp : p ∈ g.productions)
    (pending : List Production) : ∃ rest,
      settle ⟨g.nullable, pending⟩ p = (⟨g.nullable, rest⟩, false) := by
  by_cases h : makesNullable g.nullable p = true
  · have hmem := g.head_mem_of_makesNullable p hp h
    exact ⟨pending, by simp [settle, h, hmem, insert_of_mem g.nullable p.head hmem]⟩
  · exact ⟨pending ++ [p], by simp [settle, h]⟩

/-- A pass over all productions, the settled ones among them, finds nothing new. -/
theorem nullablePass_productions (g : Grammar) :
    nullablePass ⟨g.nullable, g.productions⟩ =
      (⟨g.nullable, g.productions.filter (fun p => !makesNullable g.nullable p)⟩, false) :=
  sweep_settle_of_closed g.productions ⟨g.nullable, []⟩ g.head_mem_of_makesNullable

theorem head_mem_nullable (g : Grammar) (p : Production) (hp : p ∈ g.productions)
    (h : ∀ x ∈ p.body, x ∈ g.nullable) : p.head ∈ g.nullable :=
  g.head_mem_of_makesNullable p hp (makesNullable_of_forall g.nullable p h)

private theorem derives_nil_of_mem_nullable (g : Grammar) (s : Symbol) (h : s ∈ g.nullable) :
    g.Derives [s] [] := by
  rcases g.vanishesBy_of_mem_nullable s h with rfl | hv
  · exact g.derives_epsilon_nil
  · exact hv.derives_nil g _ s

private theorem nullable_of_step (g : Grammar) (s t : Body) (h : g.Step s t)
    (ht : ∀ x ∈ t, x ∈ g.nullable) : ∀ x ∈ s, x ∈ g.nullable := by
  cases h with
  | expand before after p hp =>
    have hhead := g.head_mem_nullable p hp (fun x hx => ht x (by simp [hx]))
    intro x hx
    rcases List.mem_append.mp hx with hx | hx
    · exact ht x (by simp [hx])
    · rcases List.mem_cons.mp hx with rfl | hx
      · exact hhead
      · exact ht x (by simp [hx])
  | vanish before after =>
    intro x hx
    rcases List.mem_append.mp hx with hx | hx
    · exact ht x (by simp [hx])
    · rcases List.mem_cons.mp hx with rfl | hx
      · exact g.epsilon_mem_nullable
      · exact ht x (by simp [hx])

/-- The strings that derive the empty string are those of nullable symbols. -/
theorem derives_nil_iff (g : Grammar) (s : Body) :
    g.Derives s [] ↔ ∀ x ∈ s, x ∈ g.nullable := by
  constructor
  · intro h
    generalize hnil : ([] : Body) = t at h
    induction h with
    | refl => simp [← hnil]
    | step s t u first _ ih => exact g.nullable_of_step s t first (ih hnil)
  · intro h
    exact g.derives_nil_of_forall s (fun x hx => g.derives_nil_of_mem_nullable x (h x hx))

/-- The nullable set is exact: it holds the symbols that derive the empty string. -/
theorem nullable_exact (g : Grammar) (s : Symbol) : s ∈ g.nullable ↔ g.Derives [s] [] := by
  rw [derives_nil_iff, List.forall_mem_singleton]

end Grammar

end Predictive
