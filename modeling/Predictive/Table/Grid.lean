import Predictive.Grammar.Listing
import Predictive.Ordered.Sorting
import Predictive.Table.Basic
/-!
# The table as a grid

One row for each head and one column for each terminal of the grammar, the end of the input last. A
cell shows its production, or nothing.
-/
namespace Predictive

structure GridRow where
  head : Symbol
  cells : List Rule
deriving DecidableEq

structure Grid where
  columns : List Symbol
  rows : List GridRow
deriving DecidableEq

/-- The terminals that some body mentions, `empty` and `$` left out, sorted and each once. -/
def Grammar.columnTerminals (g : Grammar) : List Symbol :=
  Sorting.sortUnique
    (g.bodySymbols.filter (fun s => !s.isEpsilon && !s.isEndMarker && g.isTerminal s))

namespace Table

/-- What a cell of the grid shows: the head with the one body that the table holds, or with none. -/
def gridCell (t : Table) (head lookahead : Symbol) : Rule :=
  match t.get? head lookahead with
  | none => ⟨head, []⟩
  | some p => ⟨head, [p.body]⟩

def grid (t : Table) (g : Grammar) : Grid :=
  let columns := g.columnTerminals ++ [Symbol.endMarker]
  ⟨columns, g.heads.map (fun h => ⟨h, columns.map (t.gridCell h)⟩)⟩

end Table

namespace Grid

/-- The texts of all cells, line by line, with the labels of the columns and rows in front. -/
def cellTexts (g : Grid) : List (List String) :=
  ("" :: g.columns.map Symbol.label) :: g.rows.map (fun r =>
    r.head.label :: r.cells.map (Rule.inlineText r.head.label.utf8ByteSize))

/-- The widths of the columns, one for each cell of the first line. There are none when a line lacks
one of these cells. -/
def columnWidths (lines : List (List String)) : Option (List Nat) := do
  let first ← lines[0]?
  (List.range first.length).mapM (fun j => do
    let cells ← lines.mapM (fun row => row[j]?)
    return Column.width cells)

/-- The line with each cell aligned in its column, nothing when a cell has no column. -/
def lineText (widths : List Nat) (line : List String) : Option String := do
  let cells ← line.zipIdx.mapM (fun e => do
    let width ← widths[e.2]?
    return Column.alignRight width e.1)
  return " | ".intercalate cells

/-- The lines below each other, nothing when one of them does not fit the first. -/
def text? (g : Grid) : Option String := do
  let widths ← columnWidths g.cellTexts
  let lines ← g.cellTexts.mapM (lineText widths)
  return "\n".intercalate lines

/-- The text of a grid whose lines fit each other, as those of a table do. -/
def text (g : Grid) : String := g.text?.getD ""

def headerLatex (g : Grid) : String :=
  " & ".intercalate
    (("\\[\\begin\x7barray\x7d\x7bc" ++ String.join (g.columns.map (fun _ => "|l")) ++ "\x7d\n") ::
      g.columns.map (fun s => Latex.upright s.label))

def rowLatex (g : Grid) (r : GridRow) : String :=
  " & ".intercalate
    (Latex.escape r.head.label :: r.cells.map (Rule.formulaLatex (fun s => s ∈ g.columns)))

def latex (g : Grid) : String :=
  g.headerLatex ++ "\\\\\\hline\n" ++ "\\\\\n".intercalate (g.rows.map g.rowLatex) ++
    "\n\\end\x7barray\x7d\\]"

def rowJson (r : GridRow) : Json :=
  .array [.string r.head.label, .array (r.cells.map Rule.json)]

def json (g : Grid) : Json :=
  .object [("terminals", .strings (g.columns.map Symbol.label)),
    ("rows", .array (g.rows.map rowJson))]

end Grid

end Predictive
