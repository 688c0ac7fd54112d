import Predictive.Proofs.Tree.Links
/-!
# Trees without their texts

No edit looks at the texts of nodes. What an edit makes of a tree without its texts is the edited tree
without its texts, and a text that is written leaves no trace there.
-/
namespace Predictive

def Token.forgetText (token : Token) : Token := Token.textless token.symbol

def Node.forgetText (n : Node) : Node := { n with token := n.token.forgetText }

namespace Tree

/-- The links of a tree and the symbols of its nodes. -/
def forgetText (t : Tree) : Tree := ⟨t.nodes.map Node.forgetText⟩

section Views

variable (t : Tree) (id : NodeId)

@[simp] theorem size_forgetText : t.forgetText.size = t.size := Array.size_map

@[simp] theorem parent?_forgetText : t.forgetText.parent? id = t.parent? id := by
  simp only [parent?, forgetText, Array.getElem?_map]
  cases t.nodes[id]? <;> rfl

@[simp] theorem children_forgetText : t.forgetText.children id = t.children id := by
  simp only [children, forgetText, Array.getElem?_map]
  cases t.nodes[id]? <;> rfl

@[simp] theorem ancestorsWithin_forgetText (limit : Nat) :
    t.forgetText.ancestorsWithin limit id = t.ancestorsWithin limit id := by
  induction limit generalizing id with
  | zero => rfl
  | succ limit ih => simp only [ancestorsWithin, parent?_forgetText, ih]

@[simp] theorem ancestors_forgetText : t.forgetText.ancestors id = t.ancestors id := by
  simp [ancestors]

end Views

section Edits

variable (t : Tree) (id : NodeId)

private theorem forgetText_update (f g : Node → Node) (h : ∀ n, (f n).forgetText = g n.forgetText) :
    (t.update id f).forgetText = t.forgetText.update id g := by
  have hnodes : (t.nodes.modify id f).map Node.forgetText =
      (t.nodes.map Node.forgetText).modify id g := by
    apply Array.ext_getElem?
    intro j
    rw [Array.getElem?_map, Array.getElem?_modify, Array.getElem?_modify, Array.getElem?_map]
    cases t.nodes[j]? <;> by_cases hj : id = j <;> simp [hj, h]
  exact congrArg Tree.mk hnodes

theorem forgetText_setText (lexeme : String) : (t.setText id lexeme).forgetText = t.forgetText := by
  have hnodes : (t.nodes.modify id
      (fun n => { n with token := { n.token with lexeme := some lexeme } })).map Node.forgetText =
      t.nodes.map Node.forgetText := by
    apply Array.ext_getElem?
    intro j
    rw [Array.getElem?_map, Array.getElem?_modify, Array.getElem?_map]
    cases t.nodes[j]? <;> by_cases hj : id = j <;> simp [hj, Node.forgetText, Token.forgetText]
  exact congrArg Tree.mk hnodes

private theorem forgetText_setParent (parent : Option NodeId) :
    (t.setParent id parent).forgetText = t.forgetText.setParent id parent :=
  t.forgetText_update id _ _ (fun _ => rfl)

theorem forgetText_create (token : Token) (parent : Option NodeId) :
    (t.create token parent).1.forgetText =
      (t.forgetText.create token.forgetText parent).1 := by
  exact congrArg Tree.mk Array.map_push

private theorem forgetText_updateChildren (f : List NodeId → List NodeId) :
    (t.updateChildren id f).forgetText = t.forgetText.updateChildren id f :=
  t.forgetText_update id _ _ (fun _ => rfl)

private theorem forgetText_detach : (t.detach id).forgetText = t.forgetText.detach id := by
  unfold detach
  rw [parent?_forgetText]
  split
  · rfl
  · next parent _ =>
    refine ((t.setParent id none).forgetText_updateChildren parent _).trans ?_
    rw [forgetText_setParent]
    rfl

private theorem forgetText_adopt (parent : NodeId) :
    (t.adopt parent id).forgetText = t.forgetText.adopt parent id := by
  rw [adopt, forgetText_setParent, forgetText_detach, adopt]

private theorem forgetText_foldl {α : Type} (step : Tree → α → Tree)
    (hstep : ∀ t a, (step t a).forgetText = step t.forgetText a) (as : List α) :
    (as.foldl step t).forgetText = as.foldl step t.forgetText := by
  induction as generalizing t with
  | nil => rfl
  | cons a as ih => rw [List.foldl_cons, List.foldl_cons, ih, hstep]

private theorem forgetText_cleared : (t.cleared id).forgetText = t.forgetText.cleared id := by
  rw [cleared, forgetText_updateChildren, cleared, children_forgetText,
    forgetText_foldl t _ (fun t c => t.forgetText_setParent c none)]

theorem forgetText_replaceChildren (new : List NodeId) :
    t.forgetText.replaceChildren id new = (t.replaceChildren id new).map forgetText := by
  have hdone : ((new.foldl (fun t c => t.adopt id c) (t.cleared id)).updateChildren id
      (fun _ => new)).forgetText =
      (new.foldl (fun t c => t.adopt id c) (t.forgetText.cleared id)).updateChildren id
        (fun _ => new) := by
    rw [forgetText_updateChildren, forgetText_foldl _ _ (fun t c => t.forgetText_adopt c id),
      forgetText_cleared]
  unfold replaceChildren
  rw [ancestors_forgetText]
  split
  · rfl
  · exact congrArg Except.ok hdone.symm

end Edits

end Tree

end Predictive
