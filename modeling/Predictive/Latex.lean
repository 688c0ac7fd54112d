/-!
# LaTeX text

Every character that LaTeX would take as a command, a separator or part of a ligature is written so
that it stands for itself.
-/
namespace Predictive

namespace Latex

/-- The escape of a character other than the hyphen. -/
def escapeChar (c : Char) : String :=
  match c with
  | '&' => "\\&"
  | '%' => "\\%"
  | '$' => "\\$"
  | '#' => "\\#"
  | '_' => "\\_"
  | '{' => "\\\x7b"
  | '}' => "\\\x7d"
  | '[' => "\x7b[\x7d"
  | ']' => "\x7b]\x7d"
  | '~' => "\\textasciitilde\x7b\x7d"
  | '^' => "\\textasciicircum\x7b\x7d"
  | '<' => "\\textless\x7b\x7d"
  | '>' => "\\textgreater\x7b\x7d"
  | '!' => "!\x7b\x7d"
  | '\\' => "\\textbackslash\x7b\x7d"
  | c => String.singleton c

/-- Two hyphens in a row would join into a dash, so an empty group keeps them apart. -/
def escapeChars : List Char → String
  | [] => ""
  | c :: cs =>
    (if c = '-' ∧ cs.head? = some '-' then "-\x7b\x7d" else escapeChar c) ++ escapeChars cs

def escape (s : String) : String := escapeChars s.toList

/-- An upright word in a formula. -/
def upright (s : String) : String := "\\text\x7b" ++ escape s ++ "\x7d"

end Latex

end Predictive
