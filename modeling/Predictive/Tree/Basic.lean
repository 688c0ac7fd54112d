import Predictive.Token
/-!
# Parse trees

The nodes of a tree are numbered in the order of their creation and the root is number 0. A node
knows its children and its parent. Nodes are never destroyed: a node without a parent is detached,
and so is everything below it.
-/
namespace Predictive

abbrev NodeId := Nat

structure Node where
  token : Token
  children : List NodeId
  parent : Option NodeId
deriving DecidableEq, Inhabited

def Node.isLeaf (n : Node) : Bool := n.children.isEmpty

structure Tree where
  nodes : Array Node
deriving DecidableEq

/-- A node that cannot become a child of another one. -/
structure RefusedChild where
  parent : NodeId
  child : NodeId
deriving DecidableEq

namespace Tree

def root : NodeId := 0

def new (token : Token) : Tree := ⟨#[⟨token, [], none⟩]⟩

/-- The number of nodes ever created. -/
def size (t : Tree) : Nat := t.nodes.size

def isEmpty (t : Tree) : Bool := t.nodes.isEmpty

def children (t : Tree) (id : NodeId) : List NodeId :=
  match t.nodes[id]? with
  | none => []
  | some n => n.children

def parent? (t : Tree) (id : NodeId) : Option NodeId :=
  match t.nodes[id]? with
  | none => none
  | some n => n.parent

def lexeme? (t : Tree) (id : NodeId) : Option String :=
  match t.nodes[id]? with
  | none => none
  | some n => n.token.lexeme

def isLeaf (t : Tree) (id : NodeId) : Bool := (t.children id).isEmpty

def update (t : Tree) (id : NodeId) (f : Node → Node) : Tree := ⟨t.nodes.modify id f⟩

def setParent (t : Tree) (id : NodeId) (parent : Option NodeId) : Tree :=
  t.update id (fun n => { n with parent := parent })

/-- Creates a node that names a parent. The parent does not count it as a child yet. -/
def create (t : Tree) (token : Token) (parent : Option NodeId) : Tree × NodeId :=
  (⟨t.nodes.push ⟨token, [], parent⟩⟩, t.nodes.size)

def setText (t : Tree) (id : NodeId) (lexeme : String) : Tree :=
  t.update id (fun n => { n with token := { n.token with lexeme := some lexeme } })

/-- The nodes met from a node upwards, at most as many as the limit says. -/
def ancestorsWithin (t : Tree) : Nat → NodeId → List NodeId
  | 0, _ => []
  | limit + 1, id =>
    match t.parent? id with
    | none => [id]
    | some parent => id :: t.ancestorsWithin limit parent

/-- The node, its parent, the parent of that, and so on up. -/
def ancestors (t : Tree) (id : NodeId) : List NodeId := t.ancestorsWithin t.size id

/-- Takes a node out of the children of its parent, if it has one. -/
def detach (t : Tree) (id : NodeId) : Tree :=
  match t.parent? id with
  | none => t
  | some parent =>
    (t.setParent id none).update parent
      (fun n => { n with children := n.children.filter (fun c => c ≠ id) })

/-- The first of the new children that is a forbidden node or repeats an earlier one. -/
def firstRefused (forbidden : List NodeId) : List NodeId → Option NodeId
  | [] => none
  | c :: cs => if c ∈ forbidden then some c else firstRefused (c :: forbidden) cs

/-- Detaches a node and names its new parent. -/
def adopt (t : Tree) (parent child : NodeId) : Tree :=
  (t.detach child).setParent child (some parent)

/-- Replaces all children of a node. The node itself, its ancestors and repeated nodes are refused,
and then nothing changes. A child of another node leaves that node. -/
def replaceChildren (t : Tree) (id : NodeId) (children : List NodeId) : Except RefusedChild Tree :=
  match firstRefused (t.ancestors id) children with
  | some child => .error ⟨id, child⟩
  | none =>
    let released := (t.children id).foldl (fun t c => t.setParent c none) t
    let cleared := released.update id (fun n => { n with children := [] })
    let adopted := children.foldl (fun t c => t.adopt id c) cleared
    .ok (adopted.update id (fun n => { n with children := children }))

end Tree

end Predictive
