import Mathlib.Data.List.Nodup
import Mathlib.Data.List.Perm.Subperm
import Predictive.Proofs.Tree.Links
import Predictive.Tree.Traversal
/-!
# Lineages, and trees made by edits

The links upwards from a node come to an end, so the nodes above it form a finite list, which is
what `ancestors` finds. No edit can lose this: a node gets new children only if none of them is in
its own lineage.
-/
namespace Predictive

namespace Tree

/-- The node, its parent, the parent of that, and so on up to a node without a parent. -/
inductive Lineage (t : Tree) : NodeId → List NodeId → Prop
  | top (id : NodeId) (h : t.parent? id = none) : Lineage t id [id]
  | climb (id parent : NodeId) (above : List NodeId) (h : t.parent? id = some parent)
    (rest : Lineage t parent above) : Lineage t id (id :: above)

/-- The two directions of the links agree, and no node is above itself. -/
structure WellLinked (t : Tree) : Prop where
  agree : t.ChildrenAgree
  parent_lt : ∀ id parent, t.parent? id = some parent → parent < t.size
  nodup : ∀ id, (t.children id).Nodup
  lineage : ∀ id, ∃ line, t.Lineage id line

section Lineages

variable {t : Tree}

theorem Lineage.unique (id : NodeId) (line line' : List NodeId) (h : t.Lineage id line)
    (h' : t.Lineage id line') : line = line' := by
  induction h generalizing line' with
  | top id hid =>
    cases h' with
    | top => rfl
    | climb _ parent above hparent => simp [hid] at hparent
  | climb id parent above hparent _ ih =>
    cases h' with
    | top _ hid => simp [hid] at hparent
    | climb _ parent' above' hparent' rest' =>
      obtain rfl := Option.some.inj (hparent.symm.trans hparent')
      rw [ih above' rest']

theorem Lineage.self_mem (id : NodeId) (line : List NodeId) (h : t.Lineage id line) :
    id ∈ line := by
  cases h <;> simp

theorem Lineage.of_mem (id : NodeId) (line : List NodeId) (h : t.Lineage id line) (x : NodeId)
    (hx : x ∈ line) : ∃ below above, line = below ++ above ∧ t.Lineage x above := by
  induction h with
  | top id hid =>
    obtain rfl := List.mem_singleton.mp hx
    exact ⟨[], [x], rfl, .top x hid⟩
  | climb id parent above hparent rest ih =>
    rcases List.mem_cons.mp hx with rfl | hx
    · exact ⟨[], x :: above, rfl, .climb x parent above hparent rest⟩
    · obtain ⟨below, above', hsplit, hline⟩ := ih hx
      exact ⟨id :: below, above', by rw [hsplit, List.cons_append], hline⟩

/-- No node is above its own parent. -/
theorem Lineage.not_mem_of_parent (id parent : NodeId) (above : List NodeId)
    (hparent : t.parent? id = some parent) (h : t.Lineage parent above) : id ∉ above := by
  intro hid
  obtain ⟨below, end_, hsplit, hline⟩ := h.of_mem _ _ id hid
  have hsame := hline.unique _ _ _ (.climb id parent above hparent h)
  have hlen := congrArg List.length hsplit
  rw [hsame, List.length_append, List.length_cons] at hlen
  omega

theorem Lineage.nodup (id : NodeId) (line : List NodeId) (h : t.Lineage id line) :
    line.Nodup := by
  induction h with
  | top id _ => exact List.nodup_singleton id
  | climb id parent above hparent rest ih =>
    exact List.nodup_cons.mpr ⟨rest.not_mem_of_parent id parent above hparent, ih⟩

theorem Lineage.lt_size (hlt : ∀ id parent, t.parent? id = some parent → parent < t.size)
    (id : NodeId) (line : List NodeId) (h : t.Lineage id line) (hid : id < t.size) :
    ∀ x ∈ line, x < t.size := by
  induction h with
  | top id _ => simpa using hid
  | climb id parent above hparent _ ih =>
    exact List.forall_mem_cons.mpr ⟨hid, ih (hlt id parent hparent)⟩

theorem Lineage.ancestorsWithin (id : NodeId) (line : List NodeId) (h : t.Lineage id line)
    (limit : Nat) : t.ancestorsWithin limit id = line.take limit := by
  induction h generalizing limit with
  | top id hid =>
    cases limit with
    | zero => rfl
    | succ limit => simp [Tree.ancestorsWithin, hid]
  | climb id parent above hparent _ ih =>
    cases limit with
    | zero => rfl
    | succ limit => simp [Tree.ancestorsWithin, hparent, ih]

/-- A lineage stays as it is as long as no node of it changes its parent. -/
theorem Lineage.congr (t' : Tree) (id : NodeId) (line : List NodeId) (h : t.Lineage id line)
    (hsame : ∀ x ∈ line, t'.parent? x = t.parent? x) : t'.Lineage id line := by
  induction h with
  | top id hid => exact .top id ((hsame id List.mem_cons_self).trans hid)
  | climb id parent above hparent _ ih =>
    obtain ⟨hfront, hrest⟩ := List.forall_mem_cons.mp hsame
    exact .climb id parent above (hfront.trans hparent) (ih hrest)

/-- Links that were not there before do no harm if they lead to nodes with a lineage. -/
private theorem Lineage.transfer (t' : Tree) (hnew : ∀ id parent, t'.parent? id = some parent →
    t.parent? id = some parent ∨ ∃ line, t'.Lineage parent line) (id : NodeId)
    (line : List NodeId) (h : t.Lineage id line) : ∃ line', t'.Lineage id line' := by
  induction h with
  | top id hid =>
    cases hparent : t'.parent? id with
    | none => exact ⟨_, .top id hparent⟩
    | some parent =>
      obtain ⟨line, hline⟩ := (hnew id parent hparent).resolve_left (by simp [hid])
      exact ⟨_, .climb id parent line hparent hline⟩
  | climb id parent _ hold _ ih =>
    cases hparent : t'.parent? id with
    | none => exact ⟨_, .top id hparent⟩
    | some parent' =>
      rcases hnew id parent' hparent with hsame | ⟨line, hline⟩
      · obtain rfl := Option.some.inj (hold.symm.trans hsame)
        obtain ⟨line, hline⟩ := ih
        exact ⟨_, .climb id parent line hparent hline⟩
      · exact ⟨_, .climb id parent' line hparent hline⟩

end Lineages

theorem length_le_size (t : Tree) (ids : List NodeId) (hnodup : ids.Nodup)
    (hlt : ∀ x ∈ ids, x < t.size) : ids.length ≤ t.size := by
  have hsub : ids ⊆ List.range t.size := fun x hx => List.mem_range.mpr (hlt x hx)
  have hle := (hnodup.subperm hsub).length_le
  rwa [List.length_range] at hle

namespace WellLinked

variable {t : Tree} (h : t.WellLinked)

include h

theorem child_lt (parent child : NodeId) (hchild : child ∈ t.children parent) : child < t.size :=
  t.lt_size_of_parent? child parent (h.agree parent child hchild)

/-- The limit on the way up is never met. -/
theorem lineage_ancestors (id : NodeId) (hid : id < t.size) : t.Lineage id (t.ancestors id) := by
  obtain ⟨line, hline⟩ := h.lineage id
  have hlen := t.length_le_size line (hline.nodup id line) (hline.lt_size h.parent_lt id line hid)
  have heq : t.ancestors id = line := by
    rw [ancestors, hline.ancestorsWithin id line, List.take_of_length_le hlen]
  exact heq ▸ hline

theorem ancestors_of_parent (id parent : NodeId) (hparent : t.parent? id = some parent) :
    t.ancestors id = id :: t.ancestors parent := by
  have hid := t.lt_size_of_parent? id parent hparent
  have hline := h.lineage_ancestors id hid
  exact hline.unique _ _ _
    (.climb id parent _ hparent (h.lineage_ancestors parent (h.parent_lt id parent hparent)))

private theorem not_mem_children_of_mem_ancestors (id : NodeId) (hid : id < t.size) (x : NodeId)
    (hx : x ∈ t.ancestors id) : x ∉ t.children id := by
  intro hchild
  exact (h.lineage_ancestors id hid).not_mem_of_parent x id _ (h.agree id x hchild) hx

theorem setText (id : NodeId) (lexeme : String) : (t.setText id lexeme).WellLinked where
  agree := by
    intro parent child hchild
    rw [children_setText] at hchild
    rw [parent?_setText]
    exact h.agree parent child hchild
  parent_lt := by
    intro j parent hparent
    rw [parent?_setText] at hparent
    rw [size_setText]
    exact h.parent_lt j parent hparent
  nodup := by
    intro j
    rw [children_setText]
    exact h.nodup j
  lineage := by
    intro j
    obtain ⟨line, hline⟩ := h.lineage j
    exact ⟨line, hline.congr _ j line (fun x _ => t.parent?_setText id x lexeme)⟩

theorem detach (id : NodeId) : (t.detach id).WellLinked where
  agree := t.childrenAgree_detach id h.agree
  parent_lt := by
    intro j parent hparent
    rw [parent?_detach] at hparent
    rw [size_detach]
    split at hparent
    · cases hparent
    · exact h.parent_lt j parent hparent
  nodup := by
    intro j
    rw [t.children_detach id j h.agree]
    exact (h.nodup j).filter _
  lineage := by
    intro j
    obtain ⟨line, hline⟩ := h.lineage j
    apply hline.transfer
    intro x parent hparent
    rw [parent?_detach] at hparent
    split at hparent
    · cases hparent
    · exact Or.inl hparent

theorem create (token : Token) (parent : Option NodeId) (hlt : ∀ p ∈ parent, p < t.size) :
    (t.create token parent).1.WellLinked := by
  have hold (j : NodeId) (hj : j < t.size) :
      (t.create token parent).1.parent? j = t.parent? j := by
    rw [parent?_create, if_neg (Nat.ne_of_lt hj)]
  refine ⟨?_, ?_, ?_, ?_⟩
  · intro p child hchild
    rw [children_create] at hchild
    rw [hold child (h.child_lt p child hchild)]
    exact h.agree p child hchild
  · intro j p hp
    rw [parent?_create] at hp
    rw [size_create]
    split at hp
    · exact Nat.lt_succ_of_lt (hlt p hp)
    · exact Nat.lt_succ_of_lt (h.parent_lt j p hp)
  · intro j
    rw [children_create]
    exact h.nodup j
  · intro j
    obtain ⟨line, hline⟩ := h.lineage j
    apply hline.transfer
    intro x p hp
    rw [parent?_create] at hp
    split at hp
    · -- The new node names a node that was there before, whose lineage stays.
      have hlineage := h.lineage_ancestors p (hlt p hp)
      have hlower := hlineage.lt_size h.parent_lt p _ (hlt p hp)
      exact Or.inr ⟨_, hlineage.congr _ p _ (fun y hy => hold y (hlower y hy))⟩
    · exact Or.inl hp

theorem childrenReplaced (id : NodeId) (new : List NodeId) (t' : Tree) (hid : id < t.size)
    (hnodup : new.Nodup) (hfree : ∀ c ∈ new, c ∉ t.ancestors id)
    (hr : t.ChildrenReplaced id new t') : t'.WellLinked := by
  have hline : t'.Lineage id (t.ancestors id) := by
    apply (h.lineage_ancestors id hid).congr
    intro x hx
    rw [hr.parent, if_neg (fun hnew => hfree x hnew hx),
      if_neg (h.not_mem_children_of_mem_ancestors id hid x hx)]
  refine ⟨?_, ?_, ?_, ?_⟩
  · intro parent child hchild
    rw [hr.children] at hchild
    rw [hr.parent]
    split at hchild
    · next heq => rw [if_pos hchild, heq]
    · next hne =>
      obtain ⟨hmem, hnew⟩ := List.mem_filter.mp hchild
      have hparent := h.agree parent child hmem
      have hother : child ∉ t.children id := by
        intro hold
        exact hne (Option.some.inj (hparent.symm.trans (h.agree id child hold)))
      rw [if_neg (by simpa using hnew), if_neg hother, hparent]
  · intro j parent hparent
    rw [hr.parent] at hparent
    rw [hr.size]
    split at hparent
    · cases hparent
      exact hid
    · split at hparent
      · cases hparent
      · exact h.parent_lt j parent hparent
  · intro j
    rw [hr.children]
    split
    · exact hnodup
    · exact (h.nodup j).filter _
  · intro j
    obtain ⟨line, hj⟩ := h.lineage j
    apply hj.transfer
    intro x parent hparent
    rw [hr.parent] at hparent
    split at hparent
    · cases hparent
      exact Or.inr ⟨_, hline⟩
    · split at hparent
      · cases hparent
      · exact Or.inl hparent

theorem replaceChildren (id : NodeId) (new : List NodeId) (hid : id < t.size)
    (hlt : ∀ c ∈ new, c < t.size) (t' : Tree) (heq : t.replaceChildren id new = .ok t') :
    t'.WellLinked := by
  obtain ⟨hnodup, hfree⟩ := ((t.replaceChildren_eq_ok_iff id new t').mp heq).1
  exact h.childrenReplaced id new t' hid hnodup hfree
    (t.childrenReplaced id h.agree new hid hlt t' heq)

theorem foldl_detach (ids : List NodeId) : (ids.foldl Tree.detach t).WellLinked := by
  induction ids generalizing t with
  | nil => exact h
  | cons id ids ih => exact ih (h.detach id)

theorem prune : t.prune.1.WellLinked := by
  rw [Tree.prune]
  generalize t.size = limit
  induction limit generalizing t with
  | zero => exact h
  | succ limit ih =>
    rw [pruneWithin]
    split
    · exact h
    · next id ids _ => exact ih (h.foldl_detach (id :: ids))

end WellLinked

theorem wellLinked_new (token : Token) : (new token).WellLinked := by
  have hparent (id : NodeId) : (new token).parent? id = none := by
    cases id <;> rfl
  have hchildren (id : NodeId) : (new token).children id = [] := by
    cases id <;> rfl
  refine ⟨?_, ?_, ?_, fun id => ⟨[id], .top id (hparent id)⟩⟩
  · intro parent child hchild
    simp [hchildren] at hchild
  · intro id parent h
    simp [hparent] at h
  · intro id
    simp [hchildren]

/-- A change of a tree. -/
inductive Edit
  | create (token : Token) (parent : Option NodeId)
  | setText (id : NodeId) (lexeme : String)
  | replaceChildren (id : NodeId) (new : List NodeId)
  | detach (id : NodeId)
  | prune

namespace Edit

/-- The edit names nodes of the tree only. -/
def InRange (t : Tree) : Edit → Prop
  | create _ parent => ∀ p ∈ parent, p < t.size
  | setText id _ => id < t.size
  | replaceChildren id new => id < t.size ∧ ∀ c ∈ new, c < t.size
  | detach id => id < t.size
  | prune => True

instance (t : Tree) (e : Edit) : Decidable (e.InRange t) :=
  match e with
  | create _ parent => inferInstanceAs (Decidable (∀ p ∈ parent, p < t.size))
  | setText id _ => inferInstanceAs (Decidable (id < t.size))
  | replaceChildren id new => inferInstanceAs (Decidable (id < t.size ∧ ∀ c ∈ new, c < t.size))
  | detach id => inferInstanceAs (Decidable (id < t.size))
  | prune => inferInstanceAs (Decidable True)

/-- The tree after the edit. Children that are refused leave it as it is. -/
def apply (t : Tree) : Edit → Tree
  | create token parent => (t.create token parent).1
  | setText id lexeme => t.setText id lexeme
  | replaceChildren id new =>
    match t.replaceChildren id new with
    | .error _ => t
    | .ok t' => t'
  | detach id => t.detach id
  | prune => t.prune.1

end Edit

/-- A tree that edits have made of a single node. -/
inductive Built : Tree → Prop
  | new (token : Token) : Built (Tree.new token)
  | edit (t : Tree) (e : Edit) (h : Built t) (he : e.InRange t) : Built (e.apply t)

theorem WellLinked.apply (t : Tree) (h : t.WellLinked) (e : Edit) (he : e.InRange t) :
    (e.apply t).WellLinked := by
  cases e with
  | create token parent => exact h.create token parent he
  | setText id lexeme => exact h.setText id lexeme
  | replaceChildren id new =>
    rw [Edit.apply]
    split
    · exact h
    · next t' heq => exact h.replaceChildren id new he.1 he.2 t' heq
  | detach id => exact h.detach id
  | prune => exact h.prune

theorem Built.wellLinked (t : Tree) (h : t.Built) : t.WellLinked := by
  induction h with
  | new token => exact wellLinked_new token
  | edit t e _ he ih => exact ih.apply t e he

/-- Edits one after the other name nodes of the tree as it is by then. -/
def Edit.allInRange : Tree → List Edit → Bool
  | _, [] => true
  | t, e :: edits => decide (e.InRange t) && allInRange (e.apply t) edits

theorem Built.foldl (t : Tree) (h : t.Built) (edits : List Edit)
    (hedits : Edit.allInRange t edits = true) : (edits.foldl Edit.apply t).Built := by
  induction edits generalizing t with
  | nil => exact h
  | cons e edits ih =>
    obtain ⟨he, hrest⟩ := Bool.and_eq_true_iff.mp hedits
    exact ih (e.apply t) (.edit t e h (of_decide_eq_true he)) hrest

end Tree

end Predictive
