import Predictive.Symbol
/-!
# Tokens

A token is a symbol with the text that was read for it. A token may still wait for its text.
-/
namespace Predictive

structure Token where
  symbol : Symbol
  lexeme : Option String
deriving DecidableEq, Inhabited

namespace Token

def textless (symbol : Symbol) : Token := ⟨symbol, none⟩

/-- The token whose text is the label of its symbol. -/
def ofLabel (label : String) : Token := ⟨⟨label⟩, some label⟩

def endOfInput : Token := ⟨Symbol.endMarker, some Symbol.endMarker.label⟩

/-- The text of the token, or its label where the text is missing. -/
def lexemeOrLabel (t : Token) : String := t.lexeme.getD t.symbol.label

/-- The label, followed by the text in quotes where it differs from the label. -/
def text (t : Token) : String :=
  match t.lexeme with
  | none => t.symbol.label
  | some lexeme =>
    if lexeme = t.symbol.label then t.symbol.label
    else t.symbol.label ++ " \"" ++ lexeme ++ "\""

end Token

end Predictive
