import Predictive.Grammar.Basic
import Predictive.Json
import Predictive.Latex
import Predictive.Text.Column
/-!
# Listings of productions

A listing shows each head with its alternatives, as plain text with one alternative on a line, as a
LaTeX array, or as JSON.
-/
namespace Predictive

namespace Body

/-- The alternatives with a bar between any two of them. -/
def textOfAlternatives (bodies : List Body) : String := " | ".intercalate (bodies.map text)

end Body

namespace SymbolSet

def text (s : SymbolSet) : String := " ".intercalate (s.toList.map Symbol.label)

end SymbolSet

namespace Rule

/-- The first alternative behind the head, aligned right in a column of the given width. -/
def leadingText (width : Nat) (r : Rule) (body : Body) : String :=
  Column.alignRight width r.head.label ++ " -> " ++ Body.text body

/-- A later alternative behind a bar under the arrow. -/
def continuingText (width : Nat) (body : Body) : String :=
  Column.alignRight width "" ++ "  | " ++ Body.text body

/-- The lines of a rule, one for each alternative. -/
def lines (width : Nat) (r : Rule) : List String :=
  match r.alternatives with
  | [] => []
  | body :: bodies => leadingText width r body :: bodies.map (continuingText width)

def multilineText (width : Nat) (r : Rule) : String := "\n".intercalate (r.lines width)

/-- All alternatives on one line. -/
def inlineText (width : Nat) (r : Rule) : String :=
  match r.alternatives with
  | [] => ""
  | body :: bodies =>
    String.join (leadingText width r body :: bodies.map (fun b => " | " ++ Body.text b))

/-- A symbol in a formula: `empty` as the letter epsilon, and the chosen terminals upright. -/
def symbolLatex (isUpright : Symbol → Bool) (s : Symbol) : String :=
  if s.isEpsilon then "\\epsilon"
  else if isUpright s then Latex.upright s.label
  else Latex.escape s.label

def bodyLatex (isUpright : Symbol → Bool) (body : Body) : String :=
  " \\ ".intercalate (body.map (symbolLatex isUpright))

def alternativesLatex (isUpright : Symbol → Bool) (r : Rule) : String :=
  " \\mid ".intercalate (r.alternatives.map (bodyLatex isUpright))

/-- The rule as one formula, nothing for a rule without alternatives. -/
def formulaLatex (isUpright : Symbol → Bool) (r : Rule) : String :=
  if r.alternatives = [] then ""
  else Latex.escape r.head.label ++ " \\rightarrow " ++ r.alternativesLatex isUpright

/-- The rule as a row of three cells, nothing for a rule without alternatives. -/
def rowLatex (isUpright : Symbol → Bool) (r : Rule) : String :=
  if r.alternatives = [] then ""
  else Latex.escape r.head.label ++ " & \\rightarrow &" ++ r.alternativesLatex isUpright

def json (r : Rule) : Json :=
  .object [("left", .string r.head.label),
    ("rights", .array (r.alternatives.map (fun body => Json.strings (body.map Symbol.label))))]

end Rule

namespace Production

def json (p : Production) : Json :=
  .object [("head", .string p.head.label), ("body", .strings (p.body.map Symbol.label))]

end Production

namespace Grammar

def listingWidth (g : Grammar) : Nat := Column.width (g.heads.map Symbol.label)

def listingText (g : Grammar) : String :=
  "\n".intercalate (g.rules.map (Rule.multilineText g.listingWidth))

/-- The labels of the terminals that some body mentions, `empty` left out. -/
def terminalLabels (g : Grammar) : OrderedSet String :=
  OrderedSet.ofList
    ((g.bodySymbols.filter (fun s => !s.isEpsilon && g.isTerminal s)).map Symbol.label)

def listingLatex (g : Grammar) : String :=
  let labels := g.terminalLabels
  "\\\\\n".intercalate (["\\[\\begin\x7barray\x7d\x7bcll\x7d"] ++
    g.rules.map (Rule.rowLatex (fun s => s.label ∈ labels)) ++ ["\\end\x7barray\x7d\\]"])

def listingJson (g : Grammar) : Json := .object [("productions", .array (g.rules.map Rule.json))]

end Grammar

end Predictive
