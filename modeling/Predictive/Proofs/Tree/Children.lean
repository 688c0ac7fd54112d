import Predictive.Proofs.Tree.Preorder
/-!
# Giving a node new children

The new children are refused as a whole if one of them is above the node or comes up twice. If none
is, they leave their former owners, the former children of the node are left without a parent, and
nothing else changes.
-/
namespace Predictive

namespace Tree

/-- The node may not stand behind the given nodes among the children of a node with the given
lineage. -/
def Barred (lineage before : List NodeId) (c : NodeId) : Prop := c ∈ lineage ∨ c ∈ before

/-- The first of the new children that may not stand at its place. -/
def FirstBarred (lineage new : List NodeId) (c : NodeId) : Prop :=
  ∃ before after, new = before ++ c :: after ∧ Barred lineage before c ∧
    ∀ sooner x later, before = sooner ++ x :: later → ¬Barred lineage sooner x

private theorem barred_cons_iff (lineage before : List NodeId) (d c : NodeId) :
    Barred (d :: lineage) before c ↔ Barred lineage (d :: before) c := by
  simp only [Barred, List.mem_cons, or_assoc]
  exact or_left_comm

private theorem firstBarred_cons_of_mem (lineage new : List NodeId) (d c : NodeId)
    (hd : d ∈ lineage) : FirstBarred lineage (d :: new) c ↔ d = c := by
  constructor
  · intro ⟨before, after, hsplit, _, hsooner⟩
    cases before with
    | nil => exact (List.cons.inj hsplit).1
    | cons x before =>
      obtain rfl := (List.cons.inj hsplit).1
      exact absurd (Or.inl hd) (hsooner [] d before rfl)
  · intro h
    subst h
    refine ⟨[], new, rfl, Or.inl hd, ?_⟩
    intro sooner x later h
    simp at h

private theorem firstBarred_cons_of_not_mem (lineage new : List NodeId) (d c : NodeId)
    (hd : d ∉ lineage) : FirstBarred lineage (d :: new) c ↔ FirstBarred (d :: lineage) new c := by
  constructor
  · intro ⟨before, after, hsplit, hc, hsooner⟩
    cases before with
    | nil =>
      obtain rfl := (List.cons.inj hsplit).1
      simp [Barred, hd] at hc
    | cons x before =>
      obtain ⟨rfl, rfl⟩ := List.cons.inj hsplit
      refine ⟨before, after, rfl, (barred_cons_iff _ _ _ _).mpr hc, ?_⟩
      intro sooner x later h hx
      exact hsooner (d :: sooner) x later (by rw [h]; rfl) ((barred_cons_iff _ _ _ _).mp hx)
  · intro ⟨before, after, hsplit, hc, hsooner⟩
    refine ⟨d :: before, after, by rw [hsplit]; rfl, (barred_cons_iff _ _ _ _).mp hc, ?_⟩
    intro sooner x later h hx
    cases sooner with
    | nil =>
      rw [← (List.cons.inj h).1] at hx
      simp [Barred, hd] at hx
    | cons y sooner =>
      obtain ⟨hy, hbefore⟩ := List.cons.inj h
      rw [← hy] at hx
      exact hsooner sooner x later hbefore ((barred_cons_iff _ _ _ _).mpr hx)

private theorem firstRefused_eq_some_iff (lineage new : List NodeId) (c : NodeId) :
    firstRefused lineage new = some c ↔ FirstBarred lineage new c := by
  induction new generalizing lineage with
  | nil => simp [firstRefused, FirstBarred]
  | cons d new ih =>
    rw [firstRefused]
    split
    · next hd => rw [firstBarred_cons_of_mem lineage new d c hd, Option.some.injEq]
    · next hd => rw [firstBarred_cons_of_not_mem lineage new d c hd, ih]

private theorem exists_barred_iff (lineage new : List NodeId) :
    (∃ c, FirstBarred lineage new c) ↔
      ∃ before c after, new = before ++ c :: after ∧ Barred lineage before c := by
  constructor
  · intro ⟨c, before, after, hsplit, hc, _⟩
    exact ⟨before, c, after, hsplit, hc⟩
  · intro ⟨before, c, after, hsplit, hc⟩
    cases hrefused : firstRefused lineage new with
    | some x => exact ⟨x, (firstRefused_eq_some_iff lineage new x).mp hrefused⟩
    | none =>
      obtain ⟨hnodup, hfree⟩ := (firstRefused_eq_none_iff lineage new).mp hrefused
      rw [hsplit] at hnodup hfree
      have happart := (List.nodup_append.mp hnodup).2.2
      rcases hc with hmem | hmem
      · exact absurd hmem (hfree c (by simp))
      · exact absurd rfl (happart c hmem c List.mem_cons_self)

private theorem replaceChildren_eq_error_iff (t : Tree) (id : NodeId) (new : List NodeId)
    (e : RefusedChild) : t.replaceChildren id new = .error e ↔
      e.parent = id ∧ FirstBarred (t.ancestors id) new e.child := by
  rw [← firstRefused_eq_some_iff]
  unfold replaceChildren
  split
  · next child h =>
    rw [h, Except.error.injEq, Option.some.injEq]
    constructor
    · intro he
      subst he
      exact ⟨rfl, rfl⟩
    · intro ⟨hparent, hchild⟩
      rw [← hparent, hchild]
  · next h => simp [h]

/-- New children are refused just if one of them is above the node or comes up twice. The refusal
names the first such node and nothing has changed then. Otherwise the node has these children, which
have no other owner, its former children have lost their parent, and all else is as it was. -/
theorem replaceChildren_exact (t : Tree) (h : t.Built) (id : NodeId) (new : List NodeId)
    (hid : id < t.size) (hnew : ∀ c ∈ new, c < t.size) :
    ((∃ e, t.replaceChildren id new = .error e) ↔
      ∃ before c after, new = before ++ c :: after ∧ Barred (t.ancestors id) before c) ∧
    (∀ e, t.replaceChildren id new = .error e →
      e.parent = id ∧ FirstBarred (t.ancestors id) new e.child ∧
      (Edit.replaceChildren id new).apply t = t) ∧
    ((¬∃ before c after, new = before ++ c :: after ∧ Barred (t.ancestors id) before c) →
      ∃ t', t.replaceChildren id new = .ok t' ∧ (Edit.replaceChildren id new).apply t = t' ∧
        t'.children id = new ∧
        (∀ c ∈ new, t'.parent? c = some id ∧ ∀ j, j ≠ id → c ∉ t'.children j) ∧
        (∀ c ∈ t.children id, c ∉ new → t'.parent? c = none) ∧
        (∀ j, j ≠ id → t'.children j = (t.children j).filter (fun c => c ∉ new)) ∧
        (∀ j, j ∉ new → j ∉ t.children id → t'.parent? j = t.parent? j) ∧
        (∀ j, t'.token? j = t.token? j) ∧ t'.size = t.size) := by
  have hlinked := h.wellLinked
  have hrefused : (∃ e, t.replaceChildren id new = .error e) ↔
      ∃ before c after, new = before ++ c :: after ∧ Barred (t.ancestors id) before c := by
    rw [← exists_barred_iff]
    constructor
    · intro ⟨e, he⟩
      exact ⟨e.child, ((t.replaceChildren_eq_error_iff id new e).mp he).2⟩
    · intro ⟨c, hc⟩
      exact ⟨⟨id, c⟩, (t.replaceChildren_eq_error_iff id new ⟨id, c⟩).mpr ⟨rfl, hc⟩⟩
  refine ⟨hrefused, ?_, ?_⟩
  · intro e he
    obtain ⟨hparent, hfirst⟩ := (t.replaceChildren_eq_error_iff id new e).mp he
    refine ⟨hparent, hfirst, ?_⟩
    rw [Edit.apply, he]
  · intro hfree
    cases heq : t.replaceChildren id new with
    | error e => exact absurd (hrefused.mp ⟨e, heq⟩) hfree
    | ok t' =>
      have hr := t.childrenReplaced id hlinked.agree new hid hnew t' heq
      refine ⟨t', rfl, by rw [Edit.apply, heq], ?_, ?_, ?_, ?_, ?_, hr.token, hr.size⟩
      · rw [hr.children, if_pos rfl]
      · intro c hc
        refine ⟨by rw [hr.parent, if_pos hc], ?_⟩
        intro j hj
        rw [hr.children, if_neg hj]
        simp [hc]
      · intro c hold hc
        rw [hr.parent, if_neg hc, if_pos hold]
      · intro j hj
        rw [hr.children, if_neg hj]
      · intro j hj hold
        rw [hr.parent, if_neg hj, if_neg hold]

/-- The root takes its grandchild over and keeps its child, and the grandchild refuses the root. -/
theorem replaceChildren_regrafted : regrafted.Built ∧ 0 < regrafted.size ∧
    (∀ c ∈ [3, 1], c < regrafted.size) ∧
    (∃ t', regrafted.replaceChildren 0 [3, 1] = .ok t' ∧ t'.children 0 = [3, 1] ∧
      t'.parent? 3 = some 0 ∧ t'.children 1 = [] ∧ t'.parent? 2 = none) ∧
    ∃ e, regrafted.replaceChildren 3 [2, 0] = .error e := by
  have hid : 0 < regrafted.size := by decide +kernel
  have hnew : ∀ c ∈ [3, 1], c < regrafted.size := by decide +kernel
  have hfree : ¬∃ before c after, [3, 1] = before ++ c :: after ∧
      Barred (regrafted.ancestors 0) before c := by
    intro hbarred
    obtain ⟨c, hc⟩ := (exists_barred_iff _ _).mpr hbarred
    have hrefused := (firstRefused_eq_some_iff _ _ c).mpr hc
    have hnone : firstRefused (regrafted.ancestors 0) [3, 1] = none := by decide +kernel
    simp [hnone] at hrefused
  obtain ⟨-, -, hok⟩ := replaceChildren_exact regrafted built_regrafted 0 [3, 1] hid hnew
  obtain ⟨hrefused, -, -⟩ := replaceChildren_exact regrafted built_regrafted 3 [2, 0]
    (by decide +kernel) (by decide +kernel)
  obtain ⟨t', ht', -, hchildren, hmoved, -, hothers, hparents, -, -⟩ := hok hfree
  refine ⟨built_regrafted, hid, hnew, ⟨t', ht', hchildren, (hmoved 3 (by simp)).1, ?_, ?_⟩, ?_⟩
  · rw [hothers 1 (by decide)]
    decide +kernel
  · rw [hparents 2 (by decide) (by decide +kernel)]
    decide +kernel
  · exact hrefused.mpr ⟨[2], 0, [], rfl, Or.inl (by decide +kernel)⟩

end Tree

end Predictive
