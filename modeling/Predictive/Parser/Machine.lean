import Predictive.Table.Basic
import Predictive.Tree.Basic
/-!
# The parser as a stack machine

The stack holds the symbols that are still to be derived, the next one on top. A symbol that equals
the current token is matched, a head is replaced by the body that the table holds for it and the
current token, and anything else is an error. The machine stops when `$` comes up or the stack is
empty. An exhausted input reads as `$`.

Next to each symbol the stack keeps a slot for an observer, who is told of every match and every
production.
-/
namespace Predictive

inductive ParseError
  | noStart
  | unexpectedToken (expected : Symbol) (found : Token)
  | emptyCell (head : Symbol) (found : Token)
  | leftoverInput (found : Token)
  | refusedChild (cause : RefusedChild)
  | unending
deriving DecidableEq

def RefusedChild.message (e : RefusedChild) : String :=
  "node " ++ toString e.child ++ " cannot become a child of node " ++ toString e.parent

def ParseError.message : ParseError → String
  | noStart => "grammar has no start symbol"
  | unexpectedToken expected found =>
    "expected terminal " ++ expected.label ++ ", found " ++ found.text
  | emptyCell head found => "no production for " ++ head.label ++ " on lookahead " ++ found.text
  | leftoverInput found => "input continues after the parse finished: " ++ found.text
  | refusedChild cause => cause.message
  | unending => "the parse does not end"

/-- What an observer of the machine does: `σ` is what it has seen, `ι` is what it keeps next to a
symbol. For a production it gives one slot for each symbol pushed. -/
structure Observer (σ ι : Type) where
  onMatch : σ → ι → Token → σ
  onProduction : σ → ι → Production → Except ParseError (σ × List ι)

structure Config (ι : Type) where
  stack : List (Symbol × ι)
  input : List Token

namespace Config

/-- The next token of the input, or the end of the input. -/
def current {ι : Type} (c : Config ι) : Token := c.input.headD Token.endOfInput

end Config

inductive Step (σ ι : Type)
  | stop (result : Except ParseError Unit)
  | next (state : σ) (config : Config ι)

structure Parser where
  grammar : Grammar
  table : Table

namespace Parser

/-- The result of a machine that stops: the input has to be exhausted. -/
def finish (found : Token) : Except ParseError Unit :=
  if found.symbol = Symbol.endMarker then .ok () else .error (.leftoverInput found)

def step {σ ι : Type} (p : Parser) (o : Observer σ ι) (state : σ) (c : Config ι) : Step σ ι :=
  match c.stack with
  | [] => .stop (finish c.current)
  | (top, slot) :: below =>
    if top = Symbol.endMarker then .stop (finish c.current)
    else if top = c.current.symbol then .next (o.onMatch state slot c.current) ⟨below, c.input.tail⟩
    else if p.grammar.isTerminal top then .stop (.error (.unexpectedToken top c.current))
    else
      match p.table.get? top c.current.symbol with
      | none => .stop (.error (.emptyCell top c.current))
      | some production =>
        match o.onProduction state slot production with
        | .error e => .stop (.error e)
        | .ok (state, slots) => .next state ⟨production.pushed.zip slots ++ below, c.input⟩

/-- Runs the machine for at most as many steps as the limit says. What the observer has seen is kept
whether the run succeeds or not. -/
def run {σ ι : Type} (p : Parser) (o : Observer σ ι) :
    Nat → σ → Config ι → σ × Except ParseError Unit
  | 0, state, _ => (state, .error .unending)
  | limit + 1, state, c =>
    match p.step o state c with
    | .stop result => (state, result)
    | .next state c => p.run o limit state c

/-- The greatest number of symbols that a production of the table pushes. -/
def widestPush (t : Table) : Nat := (t.entries.map (fun e => e.2.pushed.length)).foldl max 0

/-- The number of tokens that can be matched: those before the first end of the input. -/
def reach (tokens : List Token) : Nat :=
  (tokens.takeWhile (fun t => t.symbol ≠ Symbol.endMarker)).length

/-- A number of steps that suffices for every run that ends. As long as the current token stays, no
head can come up below itself, so a symbol is replaced within a tree whose depth is bounded by the
number of heads and whose branching by the widest push. -/
def stepLimit (p : Parser) (tokens : List Token) : Nat :=
  let depth := p.grammar.heads.length
  let width := widestPush p.table
  let rounds := reach tokens + 1
  rounds * ((2 + rounds * depth * width) * Nat.pow (width + 1) depth + 1) + 1

/-- Runs the machine on the tokens from the start symbol, whose slot is given. -/
def observe {σ ι : Type} (p : Parser) (o : Observer σ ι) (start : Symbol) (slot : ι) (state : σ)
    (tokens : List Token) : σ × Except ParseError Unit :=
  p.run o (p.stepLimit tokens) state ⟨[(start, slot)], tokens⟩

end Parser

end Predictive
