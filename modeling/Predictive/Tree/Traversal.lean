import Predictive.Json
import Predictive.Tree.Basic
/-!
# Walks over a parse tree

The nodes below a node are visited parent first and children from left to right. The walk keeps the
nodes still to visit on a stack. It visits no node twice, so the size of the tree bounds its steps.
-/
namespace Predictive

namespace Tree

/-- Visits the nodes on the stack, each with its depth, in at most as many steps as the limit
says. -/
def walk (t : Tree) : Nat → List (NodeId × Nat) → List (NodeId × Nat)
  | 0, _ => []
  | _ + 1, [] => []
  | limit + 1, (id, depth) :: stack =>
    (id, depth) :: t.walk limit ((t.children id).map (fun c => (c, depth + 1)) ++ stack)

/-- The node and all nodes below it with their depths. -/
def outline (t : Tree) (id : NodeId) : List (NodeId × Nat) := t.walk t.size [(id, 0)]

def descendants (t : Tree) (id : NodeId) : List NodeId := (t.outline id).map Prod.fst

def leaves (t : Tree) (id : NodeId) : List NodeId := (t.descendants id).filter t.isLeaf

/-- The texts of the leaves below a node, with a space between any two of them. Leaves without text
leave no trace. -/
def yieldAt (t : Tree) (id : NodeId) : String :=
  " ".intercalate (((t.leaves id).filterMap t.lexeme?).filter (fun lexeme => lexeme ≠ ""))

def yield (t : Tree) : String := t.yieldAt root

/-- The nodes below the root that hold neither children nor text. -/
def emptyNodes (t : Tree) : List NodeId :=
  (t.descendants root).filter (fun id => id ≠ root && t.isLeaf id && t.lexeme? id = none)

/-- Detaches empty nodes round by round, and counts them. -/
def pruneWithin (t : Tree) : Nat → Tree × Nat
  | 0 => (t, 0)
  | limit + 1 =>
    match t.emptyNodes with
    | [] => (t, 0)
    | id :: ids =>
      let (pruned, removed) := ((id :: ids).foldl detach t).pruneWithin limit
      (pruned, (id :: ids).length + removed)

/-- Detaches the nodes that empty productions left behind, and counts them. -/
def prune (t : Tree) : Tree × Nat := t.pruneWithin t.size

/-- One line for a node: two spaces for each level, the label, the text and the number. It is assumed
that an indentation may have any width, also one of more than 65535 spaces. -/
def lineText (t : Tree) (id : NodeId) (depth : Nat) : String :=
  match t.nodes[id]? with
  | none => ""
  | some n =>
    "".pushn ' ' (2 * depth) ++ n.token.symbol.label ++ " " ++ n.token.lexeme.getD "" ++
      "  ID=" ++ toString id ++ "\n"

def text (t : Tree) : String := String.join ((t.outline root).map (fun e => t.lineText e.1 e.2))

end Tree

namespace Token

def json (t : Token) : Json :=
  .object [("symbol", .string t.symbol.label),
    ("lexeme", match t.lexeme with
      | none => .null
      | some lexeme => .string lexeme)]

end Token

namespace Tree

def nodeJson (n : Node) : Json :=
  .object [("token", n.token.json), ("children", .array (n.children.map Json.number))]

def json (t : Tree) : Json :=
  .object [("nodes", .array (t.nodes.toList.map nodeJson)), ("root", .number root)]

end Tree

end Predictive
