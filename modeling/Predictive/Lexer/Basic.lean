import Predictive.PatternLibrary
import Predictive.Text.Quoted
import Predictive.Token
/-!
# Splitting text into tokens

The lexer cuts its input into pieces from left to right. A piece is an ignored character, the text
of a token, or a character at which no token starts. The policy decides what becomes of the last
kind: they are skipped and recorded, or the first of them ends the work. A rule may search for its
tokens in any way.
-/
namespace Predictive

inductive Policy
  | skip
  | abort
deriving DecidableEq

/-- A search of the text in front of the lexer, and the symbol of the tokens that it finds. -/
structure TokenRule where
  find : Text → Option Match
  symbol : Symbol

/-- A character at which no token starts, with its byte offset in the input. -/
structure Stray where
  offset : Nat
  character : Char
deriving DecidableEq

inductive LexError
  | stray (found : Stray)
  | splitCharacter (offset : Nat)
deriving DecidableEq

def LexError.message : LexError → String
  | stray u =>
    "no pattern matches " ++ quoteChar u.character ++ " at offset " ++ toString u.offset
  | splitCharacter offset => "offset " ++ toString offset ++ " is within a character"

/-- A piece of the input. The last one may be the place where a move by the bytes of a token ends
within a character, which only a match that starts later than its search can cause. -/
inductive Piece
  | ignored (c : Char)
  | token (t : Token)
  | stray (u : Stray)
  | splitCharacter (offset : Nat)
deriving DecidableEq

structure Lexer where
  ignored : Text
  rules : List TokenRule
  policy : Policy
  pending : List Token
  skipped : List Stray

namespace Text

def utf8Size : Text → Nat
  | [] => 0
  | c :: text => c.utf8Size + utf8Size text

/-- The text without its first bytes, unless they end within a character. -/
def dropBytes : Nat → Text → Option Text
  | 0, text => some text
  | _ + 1, [] => some []
  | n + 1, c :: text => if c.utf8Size ≤ n + 1 then dropBytes (n + 1 - c.utf8Size) text else none

end Text

namespace Lexer

def new : Lexer := ⟨[' ', '\t', '\r', '\n'], [], .skip, [], []⟩

def setPolicy (l : Lexer) (policy : Policy) : Lexer := { l with policy := policy }

def ignore (l : Lexer) (characters : Text) : Lexer := { l with ignored := characters }

/-- Adds a rule after the others, if the library takes its pattern. -/
def addPatternOf (lib : PatternLibrary) (l : Lexer) (pattern : Text) (symbol : Symbol) :
    Option Lexer :=
  (lib.compile (PatternLibrary.anchored pattern)).map (fun find =>
    { l with rules := l.rules ++ [⟨find, symbol⟩] })

/-- Adds a rule for a whole word, with a symbol of the same name. -/
def addKeywordOf (lib : PatternLibrary) (l : Lexer) (word : Text) : Option Lexer :=
  l.addPatternOf lib (lib.keywordPattern word) ⟨String.ofList word⟩

/-- The token of the first rule that has a match in the text and whose match is not empty. -/
def firstToken (rules : List TokenRule) (text : Text) : Option Token :=
  rules.findSome? (fun r =>
    match r.find text with
    | none => none
    | some m => if m.covered = [] then none else some ⟨r.symbol, some (String.ofList m.covered)⟩)

/-- The pieces of the text from a byte offset on. Every piece takes a character, so the limit need
not exceed the length of the text. -/
def pieces (ignored : Text) (rules : List TokenRule) : Nat → Nat → Text → List Piece
  | 0, _, _ => []
  | _ + 1, _, [] => []
  | limit + 1, offset, c :: rest =>
    if c ∈ ignored then
      .ignored c :: pieces ignored rules limit (offset + c.utf8Size) rest
    else
      match firstToken rules (c :: rest) with
      | none =>
        .stray ⟨offset, c⟩ :: pieces ignored rules limit (offset + c.utf8Size) rest
      | some t =>
        let size := (t.lexeme.getD "").utf8ByteSize
        match Text.dropBytes size (c :: rest) with
        | none => [.token t, .splitCharacter (offset + size)]
        | some rest => .token t :: pieces ignored rules limit (offset + size) rest

/-- Takes over the pieces one by one, as far as the policy lets it. -/
def consume (l : Lexer) : List Piece → Lexer × Except LexError Unit
  | [] => (l, .ok ())
  | .ignored _ :: rest => l.consume rest
  | .token t :: rest => { l with pending := l.pending ++ [t] }.consume rest
  | .splitCharacter offset :: _ => (l, .error (.splitCharacter offset))
  | .stray u :: rest =>
    match l.policy with
    | .abort => (l, .error (.stray u))
    | .skip => { l with skipped := l.skipped ++ [u] }.consume rest

/-- Splits the input into tokens, which join the pending ones. On an error the tokens before it stay
pending. -/
def scan (l : Lexer) (input : Text) : Lexer × Except LexError Unit :=
  l.consume (pieces l.ignored l.rules input.length 0 input)

def hasPending (l : Lexer) : Bool := !l.pending.isEmpty

/-- The first pending token, which is pending no longer. -/
def pop (l : Lexer) : Option Token × Lexer :=
  match l.pending with
  | [] => (none, l)
  | t :: rest => (some t, { l with pending := rest })

/-- The pending tokens with the end of the input behind them. -/
def finish (l : Lexer) : List Token := l.pending ++ [Token.endOfInput]

end Lexer

end Predictive
