import Mathlib.Data.List.Basic
import Predictive.Tree.Basic
/-!
# Links between the nodes of a tree

Children and parents are stored apart, and every edit has to keep them together. The children of a
node name it as their parent, while a node may name a parent that does not count it as a child. Each
edit is described by what it makes of the children, the parent and the token of every node.
-/
namespace Predictive

namespace Tree

def token? (t : Tree) (id : NodeId) : Option Token := t.nodes[id]?.map Node.token

/-- Every child names the node whose child it is as its parent. -/
def ChildrenAgree (t : Tree) : Prop :=
  ∀ parent child, child ∈ t.children parent → t.parent? child = some parent

section Views

variable (t : Tree) (id j : NodeId)

theorem lt_size_of_parent? (parent : NodeId) (h : t.parent? id = some parent) : id < t.size := by
  by_contra hge
  have hnone : t.nodes[id]? = none := Array.getElem?_eq_none (by simpa [size] using hge)
  simp [parent?, hnone] at h

private theorem getElem?_update (f : Node → Node) :
    (t.update id f).nodes[j]? = if id = j then t.nodes[j]?.map f else t.nodes[j]? :=
  Array.getElem?_modify

@[simp] theorem size_update (f : Node → Node) : (t.update id f).size = t.size := Array.size_modify

@[simp] theorem size_setParent (parent : Option NodeId) : (t.setParent id parent).size = t.size :=
  t.size_update id _

@[simp] theorem children_setParent (parent : Option NodeId) :
    (t.setParent id parent).children j = t.children j := by
  simp only [children, setParent, getElem?_update]
  cases t.nodes[j]? <;> by_cases h : id = j <;> simp [h]

@[simp] theorem token?_setParent (parent : Option NodeId) :
    (t.setParent id parent).token? j = t.token? j := by
  simp only [token?, setParent, getElem?_update]
  cases t.nodes[j]? <;> by_cases h : id = j <;> simp [h]

@[simp] theorem parent?_setParent_none :
    (t.setParent id none).parent? j = if j = id then none else t.parent? j := by
  simp only [parent?, setParent, getElem?_update]
  cases t.nodes[j]? <;> by_cases h : id = j <;> simp [h, eq_comm]

private theorem parent?_setParent (parent : Option NodeId) (hid : id < t.size) :
    (t.setParent id parent).parent? j = if j = id then parent else t.parent? j := by
  simp only [parent?, setParent, getElem?_update]
  by_cases h : id = j
  · subst h
    rw [size] at hid
    simp [hid]
  · simp [h, eq_comm]

/-- Changes the children of a node only. -/
def updateChildren (f : List NodeId → List NodeId) : Tree :=
  t.update id (fun n => { n with children := f n.children })

@[simp] theorem size_updateChildren (f : List NodeId → List NodeId) :
    (t.updateChildren id f).size = t.size := t.size_update id _

@[simp] theorem parent?_updateChildren (f : List NodeId → List NodeId) :
    (t.updateChildren id f).parent? j = t.parent? j := by
  simp only [parent?, updateChildren, getElem?_update]
  cases t.nodes[j]? <;> by_cases h : id = j <;> simp [h]

@[simp] theorem token?_updateChildren (f : List NodeId → List NodeId) :
    (t.updateChildren id f).token? j = t.token? j := by
  simp only [token?, updateChildren, getElem?_update]
  cases t.nodes[j]? <;> by_cases h : id = j <;> simp [h]

private theorem children_updateChildren (f : List NodeId → List NodeId)
    (hf : id < t.size ∨ f [] = []) :
    (t.updateChildren id f).children j = if j = id then f (t.children j) else t.children j := by
  simp only [children, updateChildren, getElem?_update]
  by_cases h : id = j
  · subst h
    cases hnode : t.nodes[id]? with
    | none =>
      have hout := Array.getElem?_eq_none_iff.mp hnode
      have hnil := hf.resolve_left (by simpa [size] using hout)
      simp [hnil]
    | some n => simp
  · simp [h, eq_comm]

end Views

section Creating

variable (t : Tree) (id j : NodeId)

private theorem getElem?_create (token : Token) (parent : Option NodeId) :
    (t.create token parent).1.nodes[j]? =
      if j = t.size then some ⟨token, [], parent⟩ else t.nodes[j]? :=
  Array.getElem?_push

@[simp] theorem size_create (token : Token) (parent : Option NodeId) :
    (t.create token parent).1.size = t.size + 1 := Array.size_push _

theorem parent?_create (token : Token) (parent : Option NodeId) :
    (t.create token parent).1.parent? j = if j = t.size then parent else t.parent? j := by
  simp only [parent?, getElem?_create]
  by_cases h : j = t.size <;> simp [h]

@[simp] theorem children_create (token : Token) (parent : Option NodeId) :
    (t.create token parent).1.children j = t.children j := by
  simp only [children, getElem?_create]
  by_cases h : j = t.size
  · subst h
    simp [size]
  · simp [h]

theorem token?_create (token : Token) (parent : Option NodeId) :
    (t.create token parent).1.token? j = if j = t.size then some token else t.token? j := by
  simp only [token?, getElem?_create]
  by_cases h : j = t.size <;> simp [h]

@[simp] theorem size_setText (lexeme : String) : (t.setText id lexeme).size = t.size :=
  t.size_update id _

@[simp] theorem parent?_setText (lexeme : String) :
    (t.setText id lexeme).parent? j = t.parent? j := by
  simp only [parent?, setText, getElem?_update]
  cases t.nodes[j]? <;> by_cases h : id = j <;> simp [h]

@[simp] theorem children_setText (lexeme : String) :
    (t.setText id lexeme).children j = t.children j := by
  simp only [children, setText, getElem?_update]
  cases t.nodes[j]? <;> by_cases h : id = j <;> simp [h]

theorem token?_setText (lexeme : String) : (t.setText id lexeme).token? j =
    if j = id then (t.token? j).map (fun token => { token with lexeme := some lexeme })
    else t.token? j := by
  simp only [token?, setText, getElem?_update]
  cases t.nodes[j]? <;> by_cases h : id = j <;> simp [h, eq_comm]

end Creating

section Detaching

variable (t : Tree) (id j : NodeId)

@[simp] theorem size_detach : (t.detach id).size = t.size := by
  unfold detach
  split <;> simp

@[simp] theorem token?_detach : (t.detach id).token? j = t.token? j := by
  unfold detach
  split
  · rfl
  · exact (token?_updateChildren _ _ _ _).trans (t.token?_setParent id j none)

@[simp] theorem parent?_detach :
    (t.detach id).parent? j = if j = id then none else t.parent? j := by
  unfold detach
  split
  · next h =>
    by_cases hj : j = id
    · simp [hj, h]
    · simp [hj]
  · exact (parent?_updateChildren _ _ _ _).trans (t.parent?_setParent_none id j)

theorem children_detach (ht : t.ChildrenAgree) :
    (t.detach id).children j = (t.children j).filter (fun c => c ≠ id) := by
  have hother (hj : t.parent? id ≠ some j) :
      t.children j = (t.children j).filter (fun c => c ≠ id) := by
    symm
    apply List.filter_eq_self.mpr
    intro c hc
    have hne : c ≠ id := fun e => hj (e ▸ ht j c hc)
    simpa using hne
  unfold detach
  split
  · next h => exact hother (by simp [h])
  · next parent h =>
    refine (children_updateChildren _ parent j _ (Or.inr rfl)).trans ?_
    rw [t.children_setParent id j none]
    split
    · rfl
    · next hj => exact hother (fun h' => hj (Option.some.inj (h'.symm.trans h)))

theorem childrenAgree_detach (ht : t.ChildrenAgree) : (t.detach id).ChildrenAgree := by
  intro parent child hchild
  rw [t.children_detach id parent ht] at hchild
  obtain ⟨hmem, hne⟩ := List.mem_filter.mp hchild
  rw [t.parent?_detach id child, if_neg (by simpa using hne)]
  exact ht parent child hmem

end Detaching

/-- What is left of the links when a node gets new children: the new children name it, its former
ones name nothing, and no other node keeps one of the new children. -/
structure ChildrenReplaced (t : Tree) (id : NodeId) (new : List NodeId) (t' : Tree) : Prop where
  size : t'.size = t.size
  token : ∀ j, t'.token? j = t.token? j
  children : ∀ j, t'.children j = if j = id then new else (t.children j).filter (fun c => c ∉ new)
  parent : ∀ j, t'.parent? j =
    if j ∈ new then some id else if j ∈ t.children id then none else t.parent? j

section Replacing

variable (t : Tree) (id : NodeId)

theorem firstRefused_eq_none_iff (forbidden new : List NodeId) :
    firstRefused forbidden new = none ↔ new.Nodup ∧ ∀ c ∈ new, c ∉ forbidden := by
  induction new generalizing forbidden with
  | nil => simp [firstRefused]
  | cons c new ih =>
    rw [firstRefused]
    by_cases hc : c ∈ forbidden
    · simp [hc]
    · rw [if_neg hc, ih, List.nodup_cons]
      simp only [List.mem_cons, not_or]
      grind

private theorem released (old : List NodeId) (j : NodeId) :
    (old.foldl (fun t c => t.setParent c none) t).size = t.size ∧
    (old.foldl (fun t c => t.setParent c none) t).token? j = t.token? j ∧
    (old.foldl (fun t c => t.setParent c none) t).children j = t.children j ∧
    (old.foldl (fun t c => t.setParent c none) t).parent? j =
      if j ∈ old then none else t.parent? j := by
  induction old generalizing t with
  | nil => simp
  | cons c old ih =>
    obtain ⟨hsize, htoken, hchildren, hparent⟩ := ih (t.setParent c none)
    refine ⟨by simpa using hsize, by simpa using htoken, by simpa using hchildren, ?_⟩
    refine hparent.trans ?_
    rw [t.parent?_setParent_none c j]
    by_cases hj : j ∈ old <;> by_cases hc : j = c <;> simp [hj, hc]

private theorem adopted (new : List NodeId) (ht : t.ChildrenAgree) (hnew : ∀ c ∈ new, c < t.size)
    (j : NodeId) :
    (new.foldl (fun t c => t.adopt id c) t).size = t.size ∧
    (new.foldl (fun t c => t.adopt id c) t).token? j = t.token? j ∧
    (new.foldl (fun t c => t.adopt id c) t).children j =
      (t.children j).filter (fun c => c ∉ new) ∧
    (new.foldl (fun t c => t.adopt id c) t).parent? j =
      if j ∈ new then some id else t.parent? j := by
  induction new generalizing t with
  | nil => simp
  | cons c new ih =>
    obtain ⟨hc, hrest⟩ := List.forall_mem_cons.mp hnew
    have hchildren' (k : NodeId) : (t.adopt id c).children k =
        (t.children k).filter (fun x => x ≠ c) :=
      (children_setParent _ _ _ _).trans (t.children_detach c k ht)
    have hparent' (k : NodeId) : (t.adopt id c).parent? k =
        if k = c then some id else t.parent? k := by
      rw [adopt, parent?_setParent _ _ _ _ (by simpa using hc), t.parent?_detach c k]
      split <;> rfl
    have hsize' : (t.adopt id c).size = t.size := by simp [adopt]
    have htoken' : (t.adopt id c).token? j = t.token? j := by simp [adopt]
    have hagree : (t.adopt id c).ChildrenAgree := by
      intro parent child hchild
      rw [hchildren'] at hchild
      obtain ⟨hmem, hne⟩ := List.mem_filter.mp hchild
      rw [hparent', if_neg (by simpa using hne)]
      exact ht parent child hmem
    obtain ⟨hsize, htoken, hchildren, hparent⟩ :=
      ih (t.adopt id c) hagree (fun x hx => hsize'.symm ▸ hrest x hx)
    refine ⟨hsize.trans hsize', htoken.trans htoken', hchildren.trans ?_, hparent.trans ?_⟩
    · rw [hchildren', List.filter_filter]
      apply List.filter_congr
      intro x _
      by_cases hx : x = c <;> simp [hx]
    · rw [hparent']
      by_cases hj : j ∈ new <;> by_cases hjc : j = c <;> simp [hj, hjc]

/-- The tree with the children of a node taken off it. -/
def cleared : Tree :=
  ((t.children id).foldl (fun t c => t.setParent c none) t).updateChildren id (fun _ => [])

private theorem cleared_links (j : NodeId) :
    (t.cleared id).size = t.size ∧ (t.cleared id).token? j = t.token? j ∧
    (t.cleared id).children j = (if j = id then [] else t.children j) ∧
    (t.cleared id).parent? j = if j ∈ t.children id then none else t.parent? j := by
  obtain ⟨hsize, htoken, hchildren, hparent⟩ := released t (t.children id) j
  refine ⟨?_, ?_, ?_, ?_⟩
  · exact (size_updateChildren _ _ _).trans hsize
  · exact (token?_updateChildren _ _ _ _).trans htoken
  · refine (children_updateChildren _ _ _ _ (Or.inr rfl)).trans ?_
    rw [hchildren]
  · exact (parent?_updateChildren _ _ _ _).trans hparent

private theorem childrenAgree_cleared (ht : t.ChildrenAgree) : (t.cleared id).ChildrenAgree := by
  intro parent child hchild
  rw [(t.cleared_links id parent).2.2.1] at hchild
  split at hchild
  · cases hchild
  · next hne =>
    have hparent := ht parent child hchild
    have hkept : child ∉ t.children id := by
      intro hold
      exact hne (Option.some.inj (hparent.symm.trans (ht id child hold)))
    rw [(t.cleared_links id child).2.2.2, if_neg hkept, hparent]

theorem replaceChildren_eq_ok_iff (new : List NodeId) (t' : Tree) :
    t.replaceChildren id new = .ok t' ↔ (new.Nodup ∧ ∀ c ∈ new, c ∉ t.ancestors id) ∧
      t' = (new.foldl (fun t c => t.adopt id c) (t.cleared id)).updateChildren id
        (fun _ => new) := by
  rw [← firstRefused_eq_none_iff]
  unfold replaceChildren
  split
  · next h => simp [h]
  · next h =>
    constructor
    · intro heq
      exact ⟨h, (Except.ok.inj heq).symm⟩
    · intro heq
      exact congrArg Except.ok heq.2.symm

theorem exists_replaceChildren (new : List NodeId) (hnodup : new.Nodup)
    (hfree : ∀ c ∈ new, c ∉ t.ancestors id) : ∃ t', t.replaceChildren id new = .ok t' :=
  ⟨_, (t.replaceChildren_eq_ok_iff id new _).mpr ⟨⟨hnodup, hfree⟩, rfl⟩⟩

theorem childrenReplaced (ht : t.ChildrenAgree) (new : List NodeId) (hid : id < t.size)
    (hnew : ∀ c ∈ new, c < t.size) (t' : Tree) (h : t.replaceChildren id new = .ok t') :
    t.ChildrenReplaced id new t' := by
  obtain ⟨-, rfl⟩ := (t.replaceChildren_eq_ok_iff id new t').mp h
  have hcleared := t.cleared_links id
  have hnew' : ∀ c ∈ new, c < (t.cleared id).size := fun c hc => (hcleared id).1 ▸ hnew c hc
  have hadopted := adopted (t.cleared id) id new (t.childrenAgree_cleared id ht) hnew'
  have hsize := (hadopted id).1.trans (hcleared id).1
  refine ⟨?_, ?_, ?_, ?_⟩
  · exact (size_updateChildren _ _ _).trans hsize
  · intro j
    exact (token?_updateChildren _ _ _ _).trans ((hadopted j).2.1.trans (hcleared j).2.1)
  · intro j
    refine (children_updateChildren _ id j _ (Or.inl (hsize ▸ hid))).trans ?_
    split
    · rfl
    · next hj => rw [(hadopted j).2.2.1, (hcleared j).2.2.1, if_neg hj]
  · intro j
    refine (parent?_updateChildren _ _ _ _).trans ?_
    rw [(hadopted j).2.2.2, (hcleared j).2.2.2]

end Replacing

end Tree

end Predictive
