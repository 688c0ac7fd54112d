import Predictive.Parser.Build
import Predictive.Proofs.Tree.Preorder
/-!
# How a production makes the tree grow

The node of the head gets one new child for each symbol pushed. The new nodes are never above it, so
they are never refused, and a walk of the whole tree meets them right behind it.
-/
namespace Predictive

namespace Tree

/-- The children of a node are now new leaves without text, one for each symbol. -/
structure Sprouts (t : Tree) (id : NodeId) (symbols : Body) (t' : Tree) : Prop where
  linked : t'.WellLinked
  size : t'.size = t.size + symbols.length
  children : ∀ j, t'.children j =
    if j = id then List.range' t.size symbols.length else t.children j
  old : ∀ j < t.size, t'.token? j = t.token? j
  new : ∀ i (h : i < symbols.length), t'.token? (t.size + i) = some (Token.textless symbols[i])

variable {t : Tree}

private theorem Preorder.graft (t' : Tree) (id : NodeId) (new : List NodeId)
    (hleaf : t.children id = [])
    (hchildren : ∀ j, t'.children j = if j = id then new else t.children j)
    (hnew : ∀ c ∈ new, t'.children c = []) (stack out : List NodeId) (h : t.Preorder stack out) :
    t'.Preorder stack (out.flatMap (fun x => if x = id then id :: new else [x])) := by
  have hleaves (cs : List NodeId) (hcs : ∀ c ∈ cs, t'.children c = []) : t'.Preorder cs cs := by
    induction cs with
    | nil => exact .done
    | cons c cs ih =>
      obtain ⟨hc, hrest⟩ := List.forall_mem_cons.mp hcs
      refine .visit c cs cs ?_
      rw [hc]
      exact ih hrest
  induction h with
  | done => exact .done
  | visit x stack out _ ih =>
    rw [List.flatMap_cons]
    by_cases hx : x = id
    · subst hx
      rw [hleaf] at ih
      rw [if_pos rfl, List.cons_append]
      refine .visit x stack _ ?_
      rw [hchildren, if_pos rfl]
      exact (hleaves new hnew).append _ _ _ _ ih
    · rw [if_neg hx, List.singleton_append]
      refine .visit x stack _ ?_
      rw [hchildren, if_neg hx]
      exact ih

theorem Preorder.congr (t' : Tree) (hchildren : ∀ j, t'.children j = t.children j)
    (stack out : List NodeId) (h : t.Preorder stack out) : t'.Preorder stack out := by
  induction h with
  | done => exact .done
  | visit x stack out _ ih =>
    refine .visit x stack out ?_
    rw [hchildren]
    exact ih

theorem WellLinked.descendants_setText (h : t.WellLinked) (id x : NodeId) (lexeme : String)
    (hx : x < t.size) : (t.setText id lexeme).descendants x = t.descendants x := by
  have hout := ((h.setText id lexeme).preorder_descendants x (by simpa using hx)).1
  have hold := (h.preorder_descendants x hx).1.congr (t.setText id lexeme)
    (fun j => t.children_setText id j lexeme)
  exact hout.unique _ _ _ hold

theorem children_eq_nil (t : Tree) (j : NodeId) (hj : t.size ≤ j) : t.children j = [] := by
  have hnone : t.nodes[j]? = none := Array.getElem?_eq_none hj
  simp [children, hnone]

theorem Sprouts.descendants (id : NodeId) (symbols : Body) (t' : Tree) (h : t.WellLinked)
    (hs : t.Sprouts id symbols t') (hleaf : t.children id = []) (x : NodeId) (hx : x < t.size)
    (before after : List NodeId) (hsplit : t.descendants x = before ++ id :: after) :
    t'.descendants x = before ++ id :: (List.range' t.size symbols.length ++ after) := by
  have hnodup := h.nodup_descendants x hx
  have hnew : ∀ c ∈ List.range' t.size symbols.length, t'.children c = [] := by
    intro c hc
    obtain ⟨hle, -⟩ := List.mem_range'_1.mp hc
    rw [hs.children]
    split
    · next heq =>
      have hid := h.lt_size_of_mem_descendants x id hx (by simp [hsplit])
      rw [← heq] at hid
      exact absurd hid (Nat.not_lt.mpr hle)
    · exact t.children_eq_nil c hle
  have hgraft := (h.preorder_descendants x hx).1.graft t' id _ hleaf hs.children hnew
  have hx' : x < t'.size := hs.size ▸ Nat.lt_of_lt_of_le hx (Nat.le_add_right _ _)
  have hend := (hs.linked.preorder_descendants x hx').1
  rw [hend.unique _ _ _ hgraft, hsplit]
  rw [hsplit] at hnodup
  obtain ⟨-, hcons, hapart⟩ := List.nodup_append.mp hnodup
  have hkeep (ids : List NodeId) (hids : id ∉ ids) :
      ids.flatMap (fun y => if y = id then id :: List.range' t.size symbols.length else [y]) =
        ids := by
    induction ids with
    | nil => rfl
    | cons y ids ih =>
      obtain ⟨hy, hrest⟩ := not_or.mp (fun h => hids (List.mem_cons.mpr h))
      rw [List.flatMap_cons, if_neg (Ne.symm hy), ih hrest, List.singleton_append]
  have hbefore : id ∉ before := fun hb => hapart id hb id List.mem_cons_self rfl
  rw [List.flatMap_append, List.flatMap_cons, if_pos rfl, hkeep before hbefore,
    hkeep after (List.nodup_cons.mp hcons).1, List.cons_append]

end Tree

namespace Parser

open Predictive.Tree

theorem addChildren_spec (t : Tree) (parent : NodeId) (body : Body) (h : t.WellLinked)
    (hparent : parent < t.size) :
    (addChildren t parent body).2 = List.range' t.size body.length ∧
    (addChildren t parent body).1.WellLinked ∧
    (addChildren t parent body).1.size = t.size + body.length ∧
    (∀ j, (addChildren t parent body).1.children j = t.children j) ∧
    (∀ j < t.size, (addChildren t parent body).1.parent? j = t.parent? j) ∧
    (∀ j < t.size, (addChildren t parent body).1.token? j = t.token? j) ∧
    ∀ i (hi : i < body.length),
      (addChildren t parent body).1.token? (t.size + i) = some (Token.textless body[i]) := by
  induction body generalizing t with
  | nil =>
    refine ⟨rfl, h, rfl, fun _ => rfl, fun _ _ => rfl, fun _ _ => rfl, ?_⟩
    intro i hi
    cases hi
  | cons s body ih =>
    have hlinked := h.create (Token.textless s) (some parent) (by simpa using hparent)
    have hsize := t.size_create (Token.textless s) (some parent)
    obtain ⟨hids, hlast, hsizes, hchildren, hparents, hold, hnew⟩ :=
      ih (t.create (Token.textless s) (some parent)).1 hlinked
        (hsize ▸ Nat.lt_succ_of_lt hparent)
    rw [hsize] at hids hsizes hparents hold hnew
    rw [addChildren]
    refine ⟨?_, hlast, ?_, ?_, ?_, ?_, ?_⟩
    · rw [List.length_cons, List.range'_succ]
      exact congrArg (t.size :: ·) hids
    · rw [List.length_cons]
      exact hsizes.trans (by omega)
    · intro j
      exact (hchildren j).trans (t.children_create j _ _)
    · intro j hj
      refine (hparents j (Nat.lt_succ_of_lt hj)).trans ?_
      rw [parent?_create, if_neg (Nat.ne_of_lt hj)]
    · intro j hj
      refine (hold j (Nat.lt_succ_of_lt hj)).trans ?_
      rw [token?_create, if_neg (Nat.ne_of_lt hj)]
    · intro i hi
      cases i with
      | zero =>
        refine (hold t.size (Nat.lt_succ_self _)).trans ?_
        rw [token?_create, if_pos rfl]
        rfl
      | succ i =>
        have hplace := hnew i (by simpa using hi)
        rw [Nat.add_right_comm, Nat.add_assoc] at hplace
        exact hplace

/-- No production is ever refused. -/
theorem onProduction_sprouts (t : Tree) (id : NodeId) (q : Production) (h : t.WellLinked)
    (hid : id < t.size) :
    ∃ t', grower.onProduction t id q = .ok (t', List.range' t.size q.pushed.length) ∧
      t.Sprouts id q.pushed t' := by
  obtain ⟨hids, hlinked, hsize, hchildren, hparents, hold, hnew⟩ :=
    addChildren_spec t id q.pushed h hid
  generalize hg : addChildren t id q.pushed = g at hids hlinked hsize hchildren hparents hold hnew
  obtain ⟨t₁, ids⟩ := g
  dsimp only at hids hlinked hsize hchildren hparents hold hnew
  subst hids
  have hid₁ : id < t₁.size := hsize ▸ Nat.lt_of_lt_of_le hid (Nat.le_add_right _ _)
  -- The lineage of the node is the one that it had before the new nodes were created.
  have hline := h.lineage_ancestors id hid
  have hlower := hline.lt_size h.parent_lt id _ hid
  have hancestors : t₁.ancestors id = t.ancestors id :=
    (hlinked.lineage_ancestors id hid₁).unique _ _ _
      (hline.congr t₁ id _ (fun x hx => hparents x (hlower x hx)))
  have hfree : ∀ c ∈ List.range' t.size q.pushed.length, c ∉ t₁.ancestors id := by
    intro c hc hmem
    obtain ⟨hle, -⟩ := List.mem_range'_1.mp hc
    rw [hancestors] at hmem
    exact absurd (hlower c hmem) (Nat.not_lt.mpr hle)
  have hlt : ∀ c ∈ List.range' t.size q.pushed.length, c < t₁.size := by
    intro c hc
    obtain ⟨-, hlt⟩ := List.mem_range'_1.mp hc
    omega
  obtain ⟨t', ht'⟩ := t₁.exists_replaceChildren id _ List.nodup_range' hfree
  have hr := t₁.childrenReplaced id hlinked.agree _ hid₁ hlt t' ht'
  refine ⟨t', ?_, ?_⟩
  · simp only [grower, hg, ht']
  · refine ⟨hlinked.replaceChildren id _ hid₁ hlt t' ht', hr.size.trans hsize, ?_, ?_, ?_⟩
    · intro j
      rw [hr.children, hchildren]
      split
      · rfl
      · apply List.filter_eq_self.mpr
        intro c hc
        simp only [List.mem_range'_1, not_and, decide_eq_true_eq]
        exact fun hle => absurd (h.child_lt j c hc) (Nat.not_lt.mpr hle)
    · intro j hj
      exact (hr.token j).trans (hold j hj)
    · intro i hi
      exact (hr.token _).trans (hnew i hi)

end Parser

end Predictive
