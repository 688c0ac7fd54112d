import Predictive.Proofs.Tree.Lineage
/-!
# Walks end and visit no node twice

A walk keeps the nodes still to visit on a stack. Every node that it meets behind its start is the
child of a node visited before, so no node comes up twice and the walk ends within as many steps as
the tree has nodes.
-/
namespace Predictive

namespace Tree

/-- What a walk that comes to its end visits, given the nodes on its stack. -/
inductive Preorder (t : Tree) : List NodeId → List NodeId → Prop
  | done : Preorder t [] []
  | visit (id : NodeId) (below out : List NodeId) (rest : Preorder t (t.children id ++ below) out) :
    Preorder t (id :: below) (id :: out)

section Walks

variable {t : Tree}

theorem Preorder.unique (stack out out' : List NodeId) (h : t.Preorder stack out)
    (h' : t.Preorder stack out') : out = out' := by
  induction h generalizing out' with
  | done =>
    cases h'
    rfl
  | visit id below out _ ih =>
    cases h' with
    | visit _ _ out' rest' => rw [ih out' rest']

theorem Preorder.append (stack below out later : List NodeId) (h : t.Preorder stack out)
    (hbelow : t.Preorder below later) : t.Preorder (stack ++ below) (out ++ later) := by
  induction h with
  | done => exact hbelow
  | visit id stack out _ ih =>
    rw [List.append_assoc] at ih
    exact .visit id (stack ++ below) (out ++ later) ih

private theorem map_fst_pushed (id : NodeId) (depth : Nat) (stack : List (NodeId × Nat)) :
    ((t.children id).map (fun c => (c, depth + 1)) ++ stack).map Prod.fst =
      t.children id ++ stack.map Prod.fst := by
  simp [Function.comp_def]

private theorem Preorder.map_fst_walk (ids out : List NodeId) (h : t.Preorder ids out)
    (stack : List (NodeId × Nat)) (hstack : stack.map Prod.fst = ids) (limit : Nat) :
    (t.walk limit stack).map Prod.fst = out.take limit := by
  induction h generalizing stack limit with
  | done =>
    obtain rfl := List.map_eq_nil_iff.mp hstack
    cases limit <;> rfl
  | visit id below out _ ih =>
    obtain ⟨⟨id, depth⟩, stack, rfl, rfl, rfl⟩ := List.map_eq_cons_iff.mp hstack
    cases limit with
    | zero => rfl
    | succ limit =>
      rw [walk, List.map_cons, List.take_succ_cons, ih _ (map_fst_pushed id depth stack) limit]

private theorem Preorder.walk_eq (ids out : List NodeId) (h : t.Preorder ids out)
    (stack : List (NodeId × Nat)) (hstack : stack.map Prod.fst = ids) (m n : Nat)
    (hm : out.length ≤ m) (hmn : m ≤ n) : t.walk n stack = t.walk m stack := by
  induction h generalizing stack m n with
  | done =>
    obtain rfl := List.map_eq_nil_iff.mp hstack
    cases m <;> cases n <;> rfl
  | visit id below out _ ih =>
    obtain ⟨⟨id, depth⟩, stack, rfl, rfl, rfl⟩ := List.map_eq_cons_iff.mp hstack
    rw [List.length_cons] at hm
    cases m with
    | zero => omega
    | succ m =>
      cases n with
      | zero => omega
      | succ n =>
        rw [walk, walk, ih _ (map_fst_pushed id depth stack) m n (by omega) (by omega)]

end Walks

/-- A walk from the start has seen some nodes and has others on its stack. -/
structure Frontier (t : Tree) (start : NodeId) (seen stack : List NodeId) : Prop where
  nodup : (seen ++ stack).Nodup
  origin : ∀ x ∈ seen ++ stack, x = start ∨ ∃ parent ∈ seen, t.parent? x = some parent
  below : ∀ x ∈ seen ++ stack, x < t.size ∧ start ∈ t.ancestors x

namespace WellLinked

variable {t : Tree} (h : t.WellLinked)

include h

private theorem not_mem_frontier (start id : NodeId) (seen stack : List NodeId)
    (hf : t.Frontier start seen (id :: stack)) (c : NodeId) (hc : c ∈ t.children id) :
    c ∉ seen ++ id :: stack := by
  intro hmem
  have hparent := h.agree id c hc
  have hid : id ∈ seen ++ id :: stack := by simp
  rcases hf.origin c hmem with rfl | ⟨parent, hseen, hparent'⟩
  · obtain ⟨hlt, habove⟩ := hf.below id hid
    exact (h.lineage_ancestors id hlt).not_mem_of_parent c id _ hparent habove
  · obtain rfl := Option.some.inj (hparent.symm.trans hparent')
    exact (List.nodup_append.mp hf.nodup).2.2 id hseen id List.mem_cons_self rfl

private theorem frontier_visit (start id : NodeId) (seen stack : List NodeId)
    (hf : t.Frontier start seen (id :: stack)) :
    t.Frontier start (seen ++ [id]) (t.children id ++ stack) := by
  have hnew := h.not_mem_frontier start id seen stack hf
  have hperm : ((seen ++ [id]) ++ (t.children id ++ stack)).Perm
      (t.children id ++ (seen ++ id :: stack)) := by
    rw [← List.append_assoc (seen ++ [id])]
    refine (List.perm_append_comm.append_right stack).trans ?_
    simp
  refine ⟨hperm.nodup_iff.mpr ?_, ?_, ?_⟩
  · apply List.nodup_append.mpr
    refine ⟨h.nodup id, hf.nodup, ?_⟩
    intro c hc x hx heq
    exact hnew c hc (heq ▸ hx)
  · intro x hx
    rcases List.mem_append.mp (hperm.subset hx) with hchild | hold
    · exact Or.inr ⟨id, by simp, h.agree id x hchild⟩
    · rcases hf.origin x hold with hstart | ⟨parent, hseen, hparent⟩
      · exact Or.inl hstart
      · exact Or.inr ⟨parent, List.mem_append_left _ hseen, hparent⟩
  · intro x hx
    rcases List.mem_append.mp (hperm.subset hx) with hchild | hold
    · refine ⟨h.child_lt id x hchild, ?_⟩
      rw [h.ancestors_of_parent x id (h.agree id x hchild)]
      exact List.mem_cons_of_mem _ (hf.below id (by simp)).2
    · exact hf.below x hold

/-- The walk goes on to an end, since every step takes a node out of those not seen. -/
private theorem frontier_end (start : NodeId) (room : Nat) (seen stack : List NodeId)
    (hroom : t.size ≤ seen.length + room) (hf : t.Frontier start seen stack) :
    ∃ out, t.Preorder stack out ∧ t.Frontier start (seen ++ out) [] := by
  induction room generalizing seen stack with
  | zero =>
    cases stack with
    | nil => exact ⟨[], .done, by simpa using hf⟩
    | cons id stack =>
      have hle := t.length_le_size _ hf.nodup (fun x hx => (hf.below x hx).1)
      rw [List.length_append, List.length_cons] at hle
      omega
  | succ room ih =>
    cases stack with
    | nil => exact ⟨[], .done, by simpa using hf⟩
    | cons id stack =>
      have hroom' : t.size ≤ (seen ++ [id]).length + room := by
        rw [List.length_append, List.length_singleton]
        omega
      obtain ⟨out, hout, hend⟩ := ih (seen ++ [id]) (t.children id ++ stack) hroom'
        (h.frontier_visit start id seen stack hf)
      refine ⟨id :: out, .visit id stack out hout, ?_⟩
      simpa [List.append_assoc] using hend

private theorem exists_preorder (id : NodeId) (hid : id < t.size) :
    ∃ out, t.Preorder [id] out ∧ t.Frontier id out [] := by
  have hstart : t.Frontier id [] [id] := by
    refine ⟨by simp, fun x hx => Or.inl (List.mem_singleton.mp hx), ?_⟩
    intro x hx
    obtain rfl := List.mem_singleton.mp hx
    exact ⟨hid, (h.lineage_ancestors x hid).self_mem x _⟩
  obtain ⟨out, hout, hend⟩ := h.frontier_end id t.size [] [id] (by simp) hstart
  exact ⟨out, hout, hend⟩

/-- The limit on a walk is never met. -/
theorem preorder_descendants (id : NodeId) (hid : id < t.size) :
    t.Preorder [id] (t.descendants id) ∧ t.Frontier id (t.descendants id) [] := by
  obtain ⟨out, hout, hend⟩ := h.exists_preorder id hid
  have hlen := t.length_le_size out (by simpa using hend.nodup)
    (fun x hx => (hend.below x (by simpa using hx)).1)
  have heq : t.descendants id = out := by
    rw [descendants, outline, hout.map_fst_walk [id] out [(id, 0)] rfl,
      List.take_of_length_le hlen]
  rw [heq]
  exact ⟨hout, hend⟩

theorem nodup_descendants (id : NodeId) (hid : id < t.size) : (t.descendants id).Nodup := by
  simpa using (h.preorder_descendants id hid).2.nodup

theorem lt_size_of_mem_descendants (id x : NodeId) (hid : id < t.size)
    (hx : x ∈ t.descendants id) : x < t.size :=
  ((h.preorder_descendants id hid).2.below x (by simpa using hx)).1

theorem mem_ancestors_of_mem_descendants (id x : NodeId) (hid : id < t.size)
    (hx : x ∈ t.descendants id) : id ∈ t.ancestors x :=
  ((h.preorder_descendants id hid).2.below x (by simpa using hx)).2

theorem walk_eq_outline (id : NodeId) (hid : id < t.size) (limit : Nat) (hlimit : t.size ≤ limit) :
    t.walk limit [(id, 0)] = t.outline id := by
  obtain ⟨hout, hend⟩ := h.preorder_descendants id hid
  have hlen := t.length_le_size (t.descendants id) (h.nodup_descendants id hid)
    (fun x hx => h.lt_size_of_mem_descendants id x hid hx)
  exact hout.walk_eq [id] _ [(id, 0)] rfl t.size limit hlen hlimit

end WellLinked

/-- Whatever edits have made of a tree, its links agree, its nodes have one owner at most, and all
ways up and all walks down come to an end. -/
theorem built_links (t : Tree) (h : t.Built) :
    (∀ parent child, child ∈ t.children parent →
      parent < t.size ∧ child < t.size ∧ t.parent? child = some parent) ∧
    (∀ id parent, t.parent? id = some parent → parent < t.size) ∧
    (∀ id, (t.children id).Nodup) ∧
    (∀ owner owner' child, child ∈ t.children owner → child ∈ t.children owner' →
      owner = owner') ∧
    (∀ id, ∃ line, t.Lineage id line) ∧
    (∀ id < t.size, t.Lineage id (t.ancestors id) ∧ t.Preorder [id] (t.descendants id) ∧
      ∀ limit ≥ t.size, t.ancestorsWithin limit id = t.ancestors id ∧
        t.walk limit [(id, 0)] = t.outline id) ∧
    (∀ id < t.size, (t.descendants id).Nodup) ∧
    ∀ y < t.size, ∀ x ∈ t.descendants y, y ∈ t.ancestors x := by
  have hlinked := h.wellLinked
  refine ⟨?_, hlinked.parent_lt, hlinked.nodup, ?_, hlinked.lineage, ?_,
    hlinked.nodup_descendants, fun y hy x hx => hlinked.mem_ancestors_of_mem_descendants y x hy hx⟩
  · intro parent child hchild
    have hparent := hlinked.agree parent child hchild
    exact ⟨hlinked.parent_lt child parent hparent, hlinked.child_lt parent child hchild, hparent⟩
  · intro owner owner' child hchild hchild'
    have hsame := (hlinked.agree owner child hchild).symm.trans
      (hlinked.agree owner' child hchild')
    exact Option.some.inj hsame
  · intro id hid
    have hline := hlinked.lineage_ancestors id hid
    refine ⟨hline, (hlinked.preorder_descendants id hid).1, ?_⟩
    intro limit hlimit
    have hlen := t.length_le_size _ hline.nodup (hline.lt_size hlinked.parent_lt id _ hid)
    refine ⟨?_, hlinked.walk_eq_outline id hid limit hlimit⟩
    rw [hline.ancestorsWithin id _ limit, List.take_of_length_le (Nat.le_trans hlen hlimit)]

/-- A node changes its owner, is refused as the owner of the root, and loses its sibling. -/
def regrafting : List Edit :=
  [.create (Token.textless ⟨"A"⟩) (some 0), .create (Token.textless ⟨"B"⟩) (some 0),
    .create (Token.ofLabel "c") none, .replaceChildren 0 [1, 2], .replaceChildren 1 [2, 3],
    .replaceChildren 3 [0], .prune]

def regrafted : Tree := regrafting.foldl Edit.apply (new (Token.textless ⟨"S"⟩))

theorem built_regrafted : regrafted.Built :=
  Built.foldl _ (.new _) regrafting (by decide +kernel)

theorem links_regrafted : regrafted.Built ∧ regrafted.children 0 = [1] ∧
    regrafted.children 1 = [3] ∧ regrafted.parent? 3 = some 1 ∧
    regrafted.descendants 0 = [0, 1, 3] ∧ regrafted.ancestors 3 = [3, 1, 0] ∧
    regrafted.Preorder [0] [0, 1, 3] ∧ regrafted.Lineage 3 [3, 1, 0] := by
  obtain ⟨-, -, -, -, -, hends, -, -⟩ := built_links regrafted built_regrafted
  have hdown : regrafted.descendants 0 = [0, 1, 3] := by decide +kernel
  have hup : regrafted.ancestors 3 = [3, 1, 0] := by decide +kernel
  have hpreorder := (hends 0 (by decide +kernel)).2.1
  have hline := (hends 3 (by decide +kernel)).1
  rw [hdown] at hpreorder
  rw [hup] at hline
  exact ⟨built_regrafted, by decide +kernel, by decide +kernel, by decide +kernel, hdown, hup,
    hpreorder, hline⟩

end Tree

end Predictive
