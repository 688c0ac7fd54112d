import Predictive.Proofs.Tree.Subtree
/-!
# Pruning

A round detaches the leaves without text, which may turn their parents into such leaves. What is gone
after some rounds is closed under children and holds no text, and when no round finds anything more
it is all that has no text at or below it.
-/
namespace Predictive

namespace Tree

/-- Only leaves hold text. -/
def TextOnLeaves (t : Tree) : Prop := ∀ id, t.children id ≠ [] → t.lexeme? id = none

/-- The node or one below it holds text. -/
def holdsText (t : Tree) (id : NodeId) : Bool :=
  (t.descendants id).any (fun x => (t.lexeme? x).isSome)

private theorem holdsText_eq_false_iff (t : Tree) (id : NodeId) :
    t.holdsText id = false ↔ ∀ x ∈ t.descendants id, t.lexeme? x = none := by
  simp [holdsText, List.any_eq_false]

/-- What rounds of pruning leave of a tree when the given nodes are gone. -/
structure Pruned (t : Tree) (gone : List NodeId) (t' : Tree) : Prop where
  linked : t'.WellLinked
  size : t'.size = t.size
  token : ∀ j, t'.token? j = t.token? j
  children : ∀ j, t'.children j = (t.children j).filter (fun c => c ∉ gone)
  nodup : gone.Nodup
  below : ∀ x ∈ gone, x ∈ t.descendants root ∧ x ≠ root
  closed : ∀ x ∈ gone, ∀ c ∈ t.children x, c ∈ gone
  textless : ∀ x ∈ gone, t.lexeme? x = none

section Filtering

variable {t : Tree}

/-- A walk passes over nodes that are gone together with what is below them. -/
theorem Preorder.filter (t' : Tree) (gone : List NodeId)
    (hchildren : ∀ j, t'.children j = (t.children j).filter (fun c => c ∉ gone))
    (hclosed : ∀ x ∈ gone, ∀ c ∈ t.children x, c ∈ gone) (stack out : List NodeId)
    (h : t.Preorder stack out) :
    t'.Preorder (stack.filter (fun c => c ∉ gone)) (out.filter (fun c => c ∉ gone)) := by
  induction h with
  | done => exact .done
  | visit id below out _ ih =>
    rw [List.filter_append, ← hchildren] at ih
    by_cases hid : id ∈ gone
    · have hnone : t'.children id = [] := by
        rw [hchildren, List.filter_eq_nil_iff]
        intro c hc
        simpa using hclosed id hid c hc
      rw [hnone] at ih
      simpa [hid] using ih
    · rw [List.filter_cons_of_pos (by simpa using hid), List.filter_cons_of_pos (by simpa using hid)]
      exact .visit id _ _ ih

end Filtering

namespace Pruned

variable {t t' : Tree} {gone : List NodeId}

theorem lexeme (h : t.Pruned gone t') (j : NodeId) : t'.lexeme? j = t.lexeme? j := by
  rw [lexeme?_eq, lexeme?_eq, h.token]

private theorem root_not_mem (h : t.Pruned gone t') : root ∉ gone :=
  fun hroot => (h.below root hroot).2 rfl

theorem descendants (h : t.Pruned gone t') (ht : t.WellLinked) (hroot : root < t.size) :
    t'.descendants root = (t.descendants root).filter (fun c => c ∉ gone) := by
  have hwalk := (ht.preorder_descendants root hroot).1.filter t' gone h.children h.closed
  have hkept : [root].filter (fun c => c ∉ gone) = [root] := by simp [h.root_not_mem]
  rw [hkept] at hwalk
  exact (h.linked.preorder_descendants root (h.size ▸ hroot)).1.unique _ _ _ hwalk

theorem refl (t : Tree) (ht : t.WellLinked) : t.Pruned [] t where
  linked := ht
  size := rfl
  token _ := rfl
  children j := by simp
  nodup := List.nodup_nil
  below := by simp
  closed := by simp
  textless := by simp

theorem trans (h : t.Pruned gone t') (ht : t.WellLinked) (hroot : root < t.size)
    (gone' : List NodeId) (t'' : Tree) (h' : t'.Pruned gone' t'') :
    t.Pruned (gone ++ gone') t'' where
  linked := h'.linked
  size := h'.size.trans h.size
  token j := (h'.token j).trans (h.token j)
  children j := by
    rw [h'.children, h.children, List.filter_filter]
    apply List.filter_congr
    intro c _
    simp [Bool.and_comm]
  nodup := by
    apply List.nodup_append.mpr
    refine ⟨h.nodup, h'.nodup, ?_⟩
    intro x hx y hy heq
    have hmem := (h'.below y hy).1
    rw [h.descendants ht hroot] at hmem
    simpa [← heq, hx] using (List.mem_filter.mp hmem).2
  below x hx := by
    rcases List.mem_append.mp hx with hx | hx
    · exact h.below x hx
    · obtain ⟨hmem, hne⟩ := h'.below x hx
      rw [h.descendants ht hroot] at hmem
      exact ⟨(List.mem_filter.mp hmem).1, hne⟩
  closed x hx c hc := by
    rw [List.mem_append]
    rcases List.mem_append.mp hx with hx | hx
    · exact Or.inl (h.closed x hx c hc)
    · by_cases hold : c ∈ gone
      · exact Or.inl hold
      · refine Or.inr (h'.closed x hx c ?_)
        rw [h.children]
        exact List.mem_filter.mpr ⟨hc, by simpa using hold⟩
  textless x hx := by
    rcases List.mem_append.mp hx with hx | hx
    · exact h.textless x hx
    · rw [← h.lexeme]
      exact h'.textless x hx

private theorem holdsText_eq_false (h : t.Pruned gone t') (ht : t.WellLinked) (x : NodeId)
    (hx : x ∈ gone) (hlt : x < t.size) : t.holdsText x = false := by
  rw [holdsText_eq_false_iff]
  refine ht.child_induction (fun x => x ∈ gone → ∀ y ∈ t.descendants x, t.lexeme? y = none) ?_ x
    hlt hx
  intro id hid ih hmem y hy
  rw [ht.descendants_eq id hid] at hy
  rcases List.mem_cons.mp hy with heq | hbelow
  · rw [heq]
    exact h.textless id hmem
  · obtain ⟨c, hc, hy⟩ := List.mem_flatMap.mp hbelow
    exact ih c hc (h.closed id hmem c hc) y hy

private theorem mem_of_holdsText_eq_false (h : t.Pruned gone t') (ht : t.WellLinked)
    (hroot : root < t.size) (hsettled : t'.emptyNodes = []) (x : NodeId)
    (hx : x ∈ t.descendants root) (hne : x ≠ root) (htext : t.holdsText x = false) :
    x ∈ gone := by
  have hlt := ht.lt_size_of_mem_descendants root x hroot hx
  refine ht.child_induction (fun x => x ∈ t.descendants root → x ≠ root →
    t.holdsText x = false → x ∈ gone) ?_ x hlt hx hne htext
  intro id hid ih hmem hne htext
  rw [holdsText_eq_false_iff] at htext
  by_contra hkept
  -- All its children are gone, so one more round would find the node.
  have hleaf : t'.children id = [] := by
    rw [h.children, List.filter_eq_nil_iff]
    intro c hc
    have hgone : c ∈ gone := by
      apply ih c hc (ht.child_mem_descendants root id c hroot hmem hc)
        (ht.child_ne root id c hroot hmem hc)
      rw [holdsText_eq_false_iff]
      exact fun y hy => htext y (ht.descendants_subset_of_child id c hid hc hy)
    simpa using hgone
  have hempty : id ∈ t'.emptyNodes := by
    rw [emptyNodes, h.descendants ht hroot]
    simp only [List.mem_filter, Bool.and_eq_true, decide_eq_true_eq]
    refine ⟨⟨hmem, hkept⟩, ⟨hne, (t'.isLeaf_iff id).mpr hleaf⟩, ?_⟩
    rw [h.lexeme]
    exact htext id (ht.self_mem_descendants id hid)
  simp [hsettled] at hempty

end Pruned

section Rounds

variable {t : Tree} (h : t.WellLinked)

include h

private theorem children_foldl_detach (ids : List NodeId) (j : NodeId) :
    (ids.foldl detach t).children j = (t.children j).filter (fun c => c ∉ ids) := by
  induction ids generalizing t with
  | nil => simp
  | cons id ids ih =>
    rw [List.foldl_cons, ih (h.detach id), t.children_detach id j h.agree, List.filter_filter]
    apply List.filter_congr
    intro c _
    simp [Bool.and_comm]

omit h in
private theorem size_foldl_detach (ids : List NodeId) : (ids.foldl detach t).size = t.size := by
  induction ids generalizing t with
  | nil => rfl
  | cons id ids ih => rw [List.foldl_cons, ih, size_detach]

omit h in
private theorem token?_foldl_detach (ids : List NodeId) (j : NodeId) :
    (ids.foldl detach t).token? j = t.token? j := by
  induction ids generalizing t with
  | nil => rfl
  | cons id ids ih => rw [List.foldl_cons, ih, token?_detach]

private theorem pruned_round (hroot : root < t.size) :
    t.Pruned t.emptyNodes (t.emptyNodes.foldl detach t) := by
  have hempty (x : NodeId) (hx : x ∈ t.emptyNodes) :
      (x ∈ t.descendants root ∧ x ≠ root) ∧ t.children x = [] ∧ t.lexeme? x = none := by
    simp only [emptyNodes, List.mem_filter, Bool.and_eq_true, decide_eq_true_eq, isLeaf_iff] at hx
    exact ⟨⟨hx.1, hx.2.1.1⟩, hx.2.1.2, hx.2.2⟩
  refine ⟨h.foldl_detach _, size_foldl_detach _, token?_foldl_detach _, children_foldl_detach h _,
    (h.nodup_descendants root hroot).filter _, fun x hx => (hempty x hx).1, ?_,
    fun x hx => (hempty x hx).2.2⟩
  intro x hx c hc
  simp [(hempty x hx).2.1] at hc

/-- Rounds go on until they find nothing more, if there may be as many as the tree has nodes. -/
theorem pruned_pruneWithin (hroot : root < t.size) (limit : Nat)
    (hlimit : (t.descendants root).length ≤ limit) :
    ∃ gone, t.Pruned gone (t.pruneWithin limit).1 ∧ (t.pruneWithin limit).2 = gone.length ∧
      (t.pruneWithin limit).1.emptyNodes = [] := by
  induction limit generalizing t with
  | zero =>
    have hmem := h.self_mem_descendants root hroot
    rw [List.length_eq_zero_iff.mp (Nat.le_zero.mp hlimit)] at hmem
    simp at hmem
  | succ limit ih =>
    rw [pruneWithin]
    split
    · next hnone => exact ⟨[], .refl t h, rfl, hnone⟩
    · next id ids hids =>
      have hround := pruned_round h hroot
      rw [hids] at hround
      have hfewer : (((id :: ids).foldl detach t).descendants root).length <
          (t.descendants root).length := by
        rw [hround.descendants h hroot]
        apply List.length_filter_lt_length_iff_exists.mpr
        exact ⟨id, (hround.below id List.mem_cons_self).1, by simp⟩
      obtain ⟨gone, hgone, hcount, hsettled⟩ :=
        ih hround.linked (hround.size ▸ hroot) (by omega)
      refine ⟨id :: ids ++ gone, hround.trans h hroot gone _ hgone, ?_, hsettled⟩
      simp only [List.length_append, hcount]

omit h in
theorem pruneWithin_eq (m n : Nat) (hmn : m ≤ n)
    (hsettled : (t.pruneWithin m).1.emptyNodes = []) : t.pruneWithin n = t.pruneWithin m := by
  induction m generalizing t n with
  | zero =>
    cases n with
    | zero => rfl
    | succ n =>
      have hnone : t.emptyNodes = [] := hsettled
      simp only [pruneWithin, hnone]
  | succ m ih =>
    cases n with
    | zero => omega
    | succ n =>
      rw [pruneWithin] at hsettled ⊢
      rw [pruneWithin]
      split
      · rfl
      · next id ids hids =>
        rw [hids] at hsettled
        rw [ih n (by omega) hsettled]

end Rounds

section Texts

variable {t : Tree}

namespace Pruned

variable {t' : Tree} {gone : List NodeId}

private theorem textOnLeaves (h : t.Pruned gone t') (hleaves : t.TextOnLeaves) :
    t'.TextOnLeaves := by
  intro id hid
  rw [h.lexeme]
  apply hleaves id
  intro hnil
  simp [h.children, hnil] at hid

private theorem filterMap_descendants (h : t.Pruned gone t') (ht : t.WellLinked)
    (hroot : root < t.size) :
    (t'.descendants root).filterMap t'.lexeme? = (t.descendants root).filterMap t.lexeme? := by
  rw [h.descendants ht hroot, List.filterMap_filter]
  apply List.filterMap_congr
  intro x _
  by_cases hx : x ∈ gone
  · simp [hx, h.textless x hx]
  · simp [hx, h.lexeme]

theorem yield_eq (h : t.Pruned gone t') (ht : t.WellLinked) (hroot : root < t.size)
    (hleaves : t.TextOnLeaves) : t'.yield = t.yield := by
  rw [yield, yield, yieldAt, yieldAt, filterMap_leaves t t.lexeme? hleaves,
    filterMap_leaves t' t'.lexeme? (h.textOnLeaves hleaves), h.filterMap_descendants ht hroot]

/-- The nodes that are gone in the end, as the original tree tells them. -/
private theorem mem_iff (h : t.Pruned gone t') (ht : t.WellLinked) (hroot : root < t.size)
    (hsettled : t'.emptyNodes = []) (x : NodeId) (hx : x ∈ t.descendants root) :
    x ∈ gone ↔ (x = root || t.holdsText x) = false := by
  rw [Bool.or_eq_false_iff, decide_eq_false_iff_not]
  constructor
  · intro hgone
    exact ⟨(h.below x hgone).2, h.holdsText_eq_false ht x hgone
      (ht.lt_size_of_mem_descendants root x hroot hx)⟩
  · intro ⟨hne, htext⟩
    exact h.mem_of_holdsText_eq_false ht hroot hsettled x hx hne htext

theorem descendants_eq_filter (h : t.Pruned gone t') (ht : t.WellLinked) (hroot : root < t.size)
    (hsettled : t'.emptyNodes = []) :
    t'.descendants root = (t.descendants root).filter (fun x => x = root || t.holdsText x) := by
  rw [h.descendants ht hroot]
  apply List.filter_congr
  intro x hx
  have hiff := h.mem_iff ht hroot hsettled x hx
  by_cases hgone : x ∈ gone
  · simp [hgone, hiff.mp hgone]
  · rw [(Bool.not_eq_false _).mp (mt hiff.mpr hgone)]
    simpa using hgone

theorem length_eq (h : t.Pruned gone t') (ht : t.WellLinked) (hroot : root < t.size)
    (hsettled : t'.emptyNodes = []) : gone.length =
      ((t.descendants root).filter (fun x => !(x = root || t.holdsText x))).length := by
  have hnodup := (ht.nodup_descendants root hroot).filter (fun x => !(x = root || t.holdsText x))
  apply ((List.perm_ext_iff_of_nodup h.nodup hnodup).mpr ?_).length_eq
  intro x
  rw [List.mem_filter, Bool.not_eq_true']
  constructor
  · intro hgone
    have hx := (h.below x hgone).1
    exact ⟨hx, (h.mem_iff ht hroot hsettled x hx).mp hgone⟩
  · exact fun hx => (h.mem_iff ht hroot hsettled x hx.1).mpr hx.2

end Pruned

end Texts

private theorem size_pruneWithin (t : Tree) (limit : Nat) :
    (t.pruneWithin limit).1.size = t.size := by
  induction limit generalizing t with
  | zero => rfl
  | succ limit ih =>
    rw [pruneWithin]
    split
    · rfl
    · next id ids _ => exact (ih _).trans (size_foldl_detach (id :: ids))

theorem Built.root_lt (t : Tree) (h : t.Built) : root < t.size := by
  induction h with
  | new token => exact Nat.one_pos
  | edit t e h he ih =>
    cases e with
    | create token parent => exact Nat.lt_of_lt_of_le ih (by simp [Edit.apply])
    | setText id lexeme => simpa [Edit.apply] using ih
    | replaceChildren id new =>
      rw [Edit.apply]
      split
      · exact ih
      · next t' heq =>
        have hr := t.childrenReplaced id h.wellLinked.agree new he.1 he.2 t' heq
        exact hr.size.symm ▸ ih
    | detach id => simpa [Edit.apply] using ih
    | prune => exact (t.size_pruneWithin t.size).symm ▸ ih

end Tree

end Predictive
