import Predictive.Analysis.Basic
import Predictive.Json
import Predictive.Latex
/-!
# The analysis as rows

One row for each head tells whether it is nullable and lists its FIRST and FOLLOW sets.
-/
namespace Predictive

structure SummaryRow where
  head : Symbol
  nullable : Bool
  first : SymbolSet
  follow : SymbolSet
deriving DecidableEq

namespace SummaryRow

def truthText (b : Bool) : String := if b then "true" else "false"

def listText (s : SymbolSet) : String := ", ".intercalate (s.toList.map Symbol.label)

def text (r : SummaryRow) : String :=
  " | ".intercalate [r.head.label, truthText r.nullable, listText r.first, listText r.follow]

def symbolLatex (s : Symbol) : String :=
  if s.isEpsilon then "$\\epsilon$" else Latex.escape s.label

def listLatex (s : SymbolSet) : String := "\\ ".intercalate (s.toList.map symbolLatex)

def latex (r : SummaryRow) : String :=
  " & ".intercalate
    [Latex.escape r.head.label, truthText r.nullable, listLatex r.first, listLatex r.follow]

def listJson (s : SymbolSet) : Json := .strings (s.toList.map Symbol.label)

def json (r : SummaryRow) : Json :=
  .object [("name", .string r.head.label), ("nullable", .bool r.nullable),
    ("first", listJson r.first), ("follow", listJson r.follow)]

end SummaryRow

namespace Grammar

def summary (g : Grammar) : List SummaryRow :=
  let a := g.analysis
  g.heads.map (fun h => ⟨h, a.isNullable h, a.firstOf h, a.followOf h⟩)

def summaryText (g : Grammar) : String := "\n".intercalate (g.summary.map SummaryRow.text)

def summaryLatex (g : Grammar) : String :=
  "\\begin\x7btabular\x7d\x7bc|c|c|c\x7d\n" ++ "Symbol & Nullable & First & Follow\\\\\\hline\n" ++
    "\\\\\n ".intercalate (g.summary.map SummaryRow.latex) ++ "\\\\\n\\end\x7btabular\x7d"

def summaryJson (g : Grammar) : Json := .object [("data", .array (g.summary.map SummaryRow.json))]

end Grammar

end Predictive
