import Predictive.Proofs.Text.Pieces
import Predictive.Proofs.Tree.Pruning
/-!
# Walks are recursions over the children

What a walk collects from a node is the node followed by what it collects from each child, and the
depth kept on its stack is the number of links up to the root. So leaves, texts and listings are
what a recursion over the children would give.
-/
namespace Predictive

namespace Tree

/-- The number of links that lead up from a node to the root. -/
def depth (t : Tree) (id : NodeId) : Nat := (t.ancestors id).idxOf root

/-- The texts that the leaves below a node hold, empty ones left out. -/
def texts (t : Tree) (id : NodeId) : List String :=
  ((t.leaves id).filterMap t.lexeme?).filter (fun text => text ≠ "")

/-- What a listing shows of a node: two spaces for each link up to the root, the label, the text and
the number. -/
def row (t : Tree) (id : NodeId) : String :=
  match t.token? id with
  | none => ""
  | some token =>
    String.ofList (List.replicate (2 * t.depth id) ' ') ++ token.symbol.label ++ " " ++
      token.lexeme.getD "" ++ "  ID=" ++ toString id

private theorem lineText_depth (t : Tree) (id : NodeId) (hid : id < t.size) :
    t.lineText id (t.depth id) = t.row id ++ "\n" := by
  obtain ⟨n, hnode⟩ : ∃ n, t.nodes[id]? = some n := ⟨_, Array.getElem?_eq_getElem hid⟩
  have hindent : "".pushn ' ' (2 * t.depth id) =
      String.ofList (List.replicate (2 * t.depth id) ' ') := by
    rw [← String.toList_inj]
    simp [Text.toList_pushn]
  simp only [lineText, row, token?, hnode, hindent, Option.map_some]

private theorem Lineage.idxOf_self {t : Tree} (id : NodeId) (line : List NodeId)
    (h : t.Lineage id line) : line.idxOf id = 0 := by
  cases h <;> exact List.idxOf_cons_self

namespace WellLinked

variable {t : Tree} (h : t.WellLinked)

include h

private theorem leaves_eq (id : NodeId) (hid : id < t.size) :
    t.leaves id = if t.children id = [] then [id] else (t.children id).flatMap t.leaves := by
  rw [leaves, h.descendants_eq id hid]
  split
  · next hleaf => simp [hleaf, isLeaf]
  · next hinner =>
    have hnot : ¬t.isLeaf id = true := mt (t.isLeaf_iff id).mp hinner
    rw [List.filter_cons_of_neg hnot, List.filter_flatMap]
    rfl

private theorem texts_eq (id : NodeId) (hid : id < t.size) (hinner : t.children id ≠ []) :
    t.texts id = (t.children id).flatMap t.texts := by
  rw [texts, h.leaves_eq id hid, if_neg hinner, List.filterMap_flatMap, List.filter_flatMap]
  rfl

private theorem yieldAt_eq (id : NodeId) (hid : id < t.size) : t.yieldAt id =
    if t.children id = [] then (t.lexeme? id).getD ""
    else " ".intercalate (((t.children id).map t.yieldAt).filter (fun text => text ≠ "")) := by
  split
  · next hleaf =>
    rw [yieldAt, h.leaves_eq id hid, if_pos hleaf]
    cases htext : t.lexeme? id with
    | none => simp [htext]
    | some text => by_cases hnil : text = "" <;> simp [htext, hnil]
  · next hinner =>
    have hsolid : ∀ c ∈ t.children id, ∀ text ∈ t.texts c, text ≠ "" := by
      intro c _ text htext
      simpa using (List.mem_filter.mp htext).2
    have htexts := Text.intercalate_nonempty " " (t.children id) t.texts hsolid
    rw [← h.texts_eq id hid hinner] at htexts
    exact htexts.symm

private theorem depth_child (id c : NodeId) (hc : c ∈ t.children id) (hroot : root ∈ t.ancestors id) :
    root ∈ t.ancestors c ∧ t.depth c = t.depth id + 1 := by
  have hparent := h.agree id c hc
  have hline := h.lineage_ancestors id (h.parent_lt c id hparent)
  have hne : c ≠ root := fun heq => hline.not_mem_of_parent c id _ hparent (heq ▸ hroot)
  rw [depth, h.ancestors_of_parent c id hparent]
  exact ⟨List.mem_cons_of_mem _ hroot, List.idxOf_cons_ne _ hne⟩

private theorem depth_root (hroot : root < t.size) :
    root ∈ t.ancestors root ∧ t.depth root = 0 := by
  have hline := h.lineage_ancestors root hroot
  exact ⟨hline.self_mem root _, hline.idxOf_self root _⟩

private theorem depth_of_mem_walk (limit : Nat) (stack : List (NodeId × Nat))
    (hstack : ∀ e ∈ stack, root ∈ t.ancestors e.1 ∧ t.depth e.1 = e.2) :
    ∀ e ∈ t.walk limit stack, root ∈ t.ancestors e.1 ∧ t.depth e.1 = e.2 := by
  induction limit generalizing stack with
  | zero => simp [walk]
  | succ limit ih =>
    cases stack with
    | nil => simp [walk]
    | cons top below =>
      obtain ⟨htop, hbelow⟩ := List.forall_mem_cons.mp hstack
      intro e he
      rcases List.mem_cons.mp he with rfl | he
      · exact htop
      · refine ih _ (List.forall_mem_append.mpr ⟨?_, hbelow⟩) e he
        intro e he
        obtain ⟨c, hc, rfl⟩ := List.mem_map.mp he
        obtain ⟨hchild, hnext⟩ := h.depth_child top.1 c hc htop.1
        exact ⟨hchild, hnext.trans (congrArg Nat.succ htop.2)⟩

private theorem outline_root (hroot : root < t.size) :
    (∀ id ∈ t.descendants root, root ∈ t.ancestors id) ∧
    t.outline root = (t.descendants root).map (fun id => (id, t.depth id)) := by
  have hstart : ∀ e ∈ [(root, 0)], root ∈ t.ancestors e.1 ∧ t.depth e.1 = e.2 := by
    intro e he
    obtain rfl := List.mem_singleton.mp he
    exact h.depth_root hroot
  have hall := h.depth_of_mem_walk t.size [(root, 0)] hstart
  constructor
  · intro id hid
    obtain ⟨e, he, rfl⟩ := List.mem_map.mp hid
    exact (hall e he).1
  · have hkept : (t.outline root).map (fun e => (e.1, t.depth e.1)) = (t.outline root).map id :=
      List.map_congr_left (fun e he => Prod.ext rfl (hall e he).2)
    rw [descendants, List.map_map]
    exact ((List.map_id _).symm.trans hkept.symm)

end WellLinked

/-- What walks collect from a node is what recursions over its children would collect. The listing of
a tree shows the nodes below the root line by line, each as far to the right as it has links up to
the root. -/
theorem walks_are_recursions (t : Tree) (h : t.Built) :
    (∀ id < t.size,
      t.descendants id = id :: (t.children id).flatMap t.descendants ∧
      t.leaves id = (if t.children id = [] then [id] else (t.children id).flatMap t.leaves) ∧
      t.yieldAt id = (if t.children id = [] then (t.lexeme? id).getD "" else
        " ".intercalate (((t.children id).map t.yieldAt).filter (fun text => text ≠ ""))) ∧
      ∀ limit ≥ t.size, t.walk limit [(id, 0)] = t.outline id) ∧
    (∀ id ∈ t.descendants root, id < t.size ∧ root ∈ t.ancestors id) ∧
    t.text = String.join ((t.descendants root).map (fun id => t.row id ++ "\n")) ∧
    ((∀ id ∈ t.descendants root, '\n' ∉ (t.row id).toList) →
      t.text.toList.splitOn '\n' =
        (t.descendants root).map (fun id => (t.row id).toList) ++ [[]]) := by
  have hlinked := h.wellLinked
  have hroot := h.root_lt
  obtain ⟨habove, houtline⟩ := hlinked.outline_root hroot
  have hlt (id : NodeId) (hid : id ∈ t.descendants root) : id < t.size :=
    hlinked.lt_size_of_mem_descendants root id hroot hid
  have htext : t.text = String.join ((t.descendants root).map (fun id => t.row id ++ "\n")) := by
    rw [text, houtline, List.map_map]
    exact congrArg String.join (List.map_congr_left (fun id hid => t.lineText_depth id (hlt id hid)))
  refine ⟨?_, fun id hid => ⟨hlt id hid, habove id hid⟩, htext, ?_⟩
  · exact fun id hid => ⟨hlinked.descendants_eq id hid, hlinked.leaves_eq id hid,
      hlinked.yieldAt_eq id hid, hlinked.walk_eq_outline id hid⟩
  · intro hsolid
    rw [htext, Text.toList_join_lines]
    apply List.splitOn_intercalate '\n' ?_ (by simp)
    intro line hline
    rcases List.mem_append.mp hline with hmem | hlast
    · obtain ⟨id, hid, rfl⟩ := List.mem_map.mp hmem
      exact hsolid id hid
    · simp [List.mem_singleton.mp hlast]

/-- A node two levels below the root, with an empty text next to a text of two words. -/
def nesting : List Edit :=
  [.create (Token.textless ⟨"A"⟩) (some 0), .create (Token.ofLabel "b") (some 0),
    .create (Token.ofLabel "c") (some 1), .create (Token.textless ⟨"D"⟩) (some 1),
    .replaceChildren 0 [1, 2], .replaceChildren 1 [3, 4], .setText 2 "x y", .setText 4 ""]

def nested : Tree := nesting.foldl Edit.apply (new (Token.textless ⟨"S"⟩))

theorem walks_are_recursions_nested : nested.Built ∧ 0 < nested.size ∧ 7 ≥ nested.size ∧
    nested.descendants 0 = 0 :: (nested.descendants 1 ++ nested.descendants 2) ∧
    nested.leaves 0 = nested.leaves 1 ++ nested.leaves 2 ∧
    nested.yieldAt 0 = "c x y" ∧ nested.walk 7 [(0, 0)] = nested.outline 0 ∧
    (∀ id ∈ nested.descendants root, '\n' ∉ (nested.row id).toList) ∧
    nested.text.toList.splitOn '\n' =
      ["S   ID=0", "  A   ID=1", "    c c  ID=3", "    D   ID=4", "  b x y  ID=2", ""].map
        String.toList := by
  have hbuilt : nested.Built := Built.foldl _ (.new _) nesting (by decide +kernel)
  have hroot : 0 < nested.size := by decide +kernel
  have hlimit : 7 ≥ nested.size := by decide +kernel
  have hsolid : ∀ id ∈ nested.descendants root, '\n' ∉ (nested.row id).toList := by decide +kernel
  have hchildren : nested.children 0 = [1, 2] := by decide +kernel
  obtain ⟨hnodes, -, -, hsplit⟩ := walks_are_recursions nested hbuilt
  obtain ⟨hdown, hleaves, hyield, hwalk⟩ := hnodes 0 hroot
  refine ⟨hbuilt, hroot, hlimit, ?_, ?_, ?_, hwalk 7 hlimit, hsolid, ?_⟩
  · simpa [hchildren] using hdown
  · simpa [hchildren] using hleaves
  · exact hyield.trans (by decide +kernel)
  · exact (hsplit hsolid).trans (by decide +kernel)

end Tree

end Predictive
