import Predictive.Parser.Machine
/-!
# Building the parse tree

Every symbol on the stack has a node, and a production gives the node of its head one child for each
symbol pushed. A matched token puts its text on its node, or its label where it has no text, so a
matched node always holds text.
-/
namespace Predictive

namespace Parser

/-- Creates a node without text for each symbol, under the given parent. -/
def addChildren (t : Tree) (parent : NodeId) : Body → Tree × List NodeId
  | [] => (t, [])
  | s :: rest =>
    let (t, id) := t.create (Token.textless s) (some parent)
    let (t, ids) := addChildren t parent rest
    (t, id :: ids)

def grower : Observer Tree NodeId where
  onMatch t id token := t.setText id token.lexemeOrLabel
  onProduction t id production :=
    let (t, ids) := addChildren t id production.pushed
    match t.replaceChildren id ids with
    | .error cause => .error (.refusedChild cause)
    | .ok t => .ok (t, ids)

def tree (p : Parser) (tokens : List Token) : Except ParseError Tree :=
  match p.grammar.start? with
  | none => .error .noStart
  | some start =>
    match p.observe grower start Tree.root (Tree.new (Token.textless start)) tokens with
    | (_, .error e) => .error e
    | (t, .ok ()) => .ok t

end Parser

end Predictive
