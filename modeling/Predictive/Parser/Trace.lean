import Predictive.Parser.Machine
/-!
# Traces

A trace lists the tokens matched and the productions applied, in order. Before an error it lists
what happened up to there.
-/
namespace Predictive

inductive Event
  | matched (token : Token)
  | applied (production : Production)
deriving DecidableEq

def Event.text : Event → String
  | matched token => "match " ++ token.text
  | applied production => production.text

namespace Parser

/-- Keeps the events, the last one first. -/
def recorder : Observer (List Event) Unit where
  onMatch events _ token := .matched token :: events
  onProduction events _ production :=
    .ok (.applied production :: events, production.pushed.map (fun _ => ()))

def trace (p : Parser) (tokens : List Token) : List Event × Except ParseError Unit :=
  match p.grammar.start? with
  | none => ([], .error .noStart)
  | some start =>
    let (events, result) := p.observe recorder start () [] tokens
    (events.reverse, result)

end Parser

end Predictive
