import Predictive.Proofs.Tree.Preorder
/-!
# Subtrees

What is below a node is below its children, one after the other. So a property that passes from the
children of a node to the node holds everywhere.
-/
namespace Predictive

namespace Tree

theorem lexeme?_eq (t : Tree) (id : NodeId) : t.lexeme? id = (t.token? id).bind Token.lexeme := by
  simp only [lexeme?, token?]
  cases t.nodes[id]? <;> rfl

theorem isLeaf_iff (t : Tree) (id : NodeId) : t.isLeaf id = true ↔ t.children id = [] :=
  List.isEmpty_iff

/-- What nodes with children have nothing of can be read off the leaves alone. -/
theorem filterMap_leaves {β : Type} (t : Tree) (f : NodeId → Option β)
    (hf : ∀ x, t.children x ≠ [] → f x = none) (id : NodeId) :
    (t.leaves id).filterMap f = (t.descendants id).filterMap f := by
  rw [leaves, List.filterMap_filter]
  apply List.filterMap_congr
  intro x _
  split
  · rfl
  · next hx => rw [hf x (fun hnil => hx ((t.isLeaf_iff x).mpr hnil))]

section Walks

variable {t : Tree}

private theorem Preorder.mem_of_stack (stack out : List NodeId) (h : t.Preorder stack out) :
    ∀ x ∈ stack, x ∈ out := by
  induction h with
  | done => simp
  | visit id below out _ ih =>
    intro x hx
    rcases List.mem_cons.mp hx with hid | hbelow
    · simp [hid]
    · exact List.mem_cons_of_mem _ (ih x (List.mem_append_right _ hbelow))

private theorem Preorder.mem_of_child (stack out : List NodeId) (h : t.Preorder stack out)
    (x c : NodeId) (hx : x ∈ out) (hc : c ∈ t.children x) : c ∈ out := by
  induction h with
  | done => simp at hx
  | visit id below out hrest ih =>
    rcases List.mem_cons.mp hx with hid | hlater
    · subst hid
      have hmem := hrest.mem_of_stack _ _ c (List.mem_append_left _ hc)
      exact List.mem_cons_of_mem _ hmem
    · exact List.mem_cons_of_mem _ (ih hlater)

end Walks

namespace WellLinked

variable {t : Tree} (h : t.WellLinked)

include h

theorem self_mem_descendants (id : NodeId) (hid : id < t.size) : id ∈ t.descendants id :=
  (h.preorder_descendants id hid).1.mem_of_stack _ _ id List.mem_cons_self

theorem child_mem_descendants (id x c : NodeId) (hid : id < t.size) (hx : x ∈ t.descendants id)
    (hc : c ∈ t.children x) : c ∈ t.descendants id :=
  (h.preorder_descendants id hid).1.mem_of_child _ _ x c hx hc

theorem child_ne (id x c : NodeId) (hid : id < t.size) (hx : x ∈ t.descendants id)
    (hc : c ∈ t.children x) : c ≠ id := by
  intro heq
  have hparent := h.agree x c hc
  have hline := h.lineage_ancestors x (h.parent_lt c x hparent)
  have habove := h.mem_ancestors_of_mem_descendants id x hid hx
  exact hline.not_mem_of_parent c x _ hparent (heq ▸ habove)

private theorem preorder_flatMap (ids : List NodeId) (hids : ∀ x ∈ ids, x < t.size) :
    t.Preorder ids (ids.flatMap t.descendants) := by
  induction ids with
  | nil => exact .done
  | cons id ids ih =>
    obtain ⟨hid, hrest⟩ := List.forall_mem_cons.mp hids
    rw [List.flatMap_cons, ← List.singleton_append]
    exact (h.preorder_descendants id hid).1.append _ _ _ _ (ih hrest)

theorem descendants_eq (id : NodeId) (hid : id < t.size) :
    t.descendants id = id :: (t.children id).flatMap t.descendants := by
  have hbelow := h.preorder_flatMap (t.children id) (fun c hc => h.child_lt id c hc)
  rw [← List.append_nil (t.children id)] at hbelow
  have hwalk := (h.preorder_descendants id hid).1.unique _ _ _ (.visit id [] _ hbelow)
  simpa using hwalk

theorem descendants_subset_of_child (id c : NodeId) (hid : id < t.size) (hc : c ∈ t.children id) :
    t.descendants c ⊆ t.descendants id := by
  intro x hx
  rw [h.descendants_eq id hid]
  exact List.mem_cons_of_mem _ (List.mem_flatMap.mpr ⟨c, hc, hx⟩)

private theorem length_ancestors_le (id : NodeId) (hid : id < t.size) :
    (t.ancestors id).length ≤ t.size := by
  have hline := h.lineage_ancestors id hid
  exact t.length_le_size _ hline.nodup (hline.lt_size h.parent_lt id _ hid)

/-- What passes from the children of a node to the node holds of every node. -/
theorem child_induction (P : NodeId → Prop)
    (hstep : ∀ id < t.size, (∀ c ∈ t.children id, P c) → P id) (id : NodeId) (hid : id < t.size) :
    P id := by
  -- The further down a node is the fewer nodes can be below it.
  obtain ⟨room, hroom⟩ : ∃ room, t.size ≤ (t.ancestors id).length + room :=
    ⟨t.size, Nat.le_add_left _ _⟩
  induction room generalizing id with
  | zero =>
    apply hstep id hid
    intro c hc
    have hlen := h.length_ancestors_le c (h.child_lt id c hc)
    rw [h.ancestors_of_parent c id (h.agree id c hc), List.length_cons] at hlen
    omega
  | succ room ih =>
    apply hstep id hid
    intro c hc
    apply ih c (h.child_lt id c hc)
    rw [h.ancestors_of_parent c id (h.agree id c hc), List.length_cons]
    omega

end WellLinked

end Tree

end Predictive
