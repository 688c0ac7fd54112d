import Predictive.Analysis.Summary
import Predictive.Proofs.Latex.Layout
import Predictive.Proofs.Table.Grid
/-!
# Labels cannot break the rows

A row is put together from escaped labels, macros and the separators of its cells, so it has no row
end of its own and as many separators as there are columns to its right, whatever the labels are.
-/
namespace Predictive

open Latex

namespace Rule

variable (isUpright : Symbol → Bool)

private theorem fragment_symbolLatex (s : Symbol) : Fragment (symbolLatex isUpright s) 0 := by
  unfold symbolLatex
  split
  · decide
  · split
    · exact fragment_upright s.label
    · exact fragment_escape s.label

private theorem fragment_bodyLatex (body : Body) : Fragment (bodyLatex isUpright body) 0 :=
  Fragment.intercalate_map " \\ " (by decide) body _ (fragment_symbolLatex isUpright)

variable (r : Rule)

private theorem fragment_alternativesLatex : Fragment (r.alternativesLatex isUpright) 0 :=
  Fragment.intercalate_map " \\mid " (by decide) r.alternatives _ (fragment_bodyLatex isUpright)

private theorem fragment_formulaLatex : Fragment (r.formulaLatex isUpright) 0 := by
  unfold formulaLatex
  split
  · exact .empty
  · have harrow : Fragment " \\rightarrow " 0 := by decide
    exact ((fragment_escape r.head.label).append harrow).append
      (r.fragment_alternativesLatex isUpright)

private theorem fragment_rowLatex :
    Fragment (r.rowLatex isUpright) (if r.alternatives = [] then 0 else 2) := by
  unfold rowLatex
  split
  · exact .empty
  · have harrow : Fragment " & \\rightarrow &" 2 := by decide
    exact ((fragment_escape r.head.label).append harrow).append
      (r.fragment_alternativesLatex isUpright)

end Rule

private theorem Latex.fragment_cells (cell : String) (cells : List String)
    (h : ∀ s ∈ cell :: cells, Fragment s 0) :
    Fragment (" & ".intercalate (cell :: cells)) cells.length := by
  have hjoined := Fragment.intercalate " & " 1 (by decide) (cell :: cells) h
  rwa [Nat.one_mul, List.length_cons, Nat.add_sub_cancel] at hjoined

namespace SummaryRow

private theorem fragment_symbolLatex (s : Symbol) : Fragment (symbolLatex s) 0 := by
  unfold symbolLatex
  split
  · decide
  · exact fragment_escape s.label

private theorem fragment_listLatex (s : SymbolSet) : Fragment (listLatex s) 0 :=
  Fragment.intercalate_map "\\ " (by decide) s.toList _ fragment_symbolLatex

private theorem fragment_latex (r : SummaryRow) : Fragment r.latex 3 := by
  have htruth : Fragment (truthText r.nullable) 0 := by
    cases r.nullable <;> decide
  refine fragment_cells _ [_, _, _] ?_
  simp only [List.forall_mem_cons]
  exact ⟨fragment_escape r.head.label, htruth, fragment_listLatex r.first,
    fragment_listLatex r.follow, by simp⟩

end SummaryRow

namespace Grid

variable (grid : Grid)

private theorem fragment_headerLatex : Fragment grid.headerLatex grid.columns.length := by
  have hopen : Fragment "\\[\\begin\x7barray\x7d\x7bc" 0 := by decide
  have hbars : Fragment (String.join (grid.columns.map (fun _ => "|l"))) 0 :=
    Fragment.join _ (List.forall_mem_map.mpr (fun _ _ => by decide))
  have hclose : Fragment "\x7d\n" 0 := by decide
  have hfirst := (hopen.append hbars).append hclose
  have hlabels : ∀ s ∈ grid.columns.map (fun s => upright s.label), Fragment s 0 :=
    List.forall_mem_map.mpr (fun s _ => fragment_upright s.label)
  have hcells := fragment_cells _ _ (List.forall_mem_cons.mpr ⟨hfirst, hlabels⟩)
  rwa [List.length_map] at hcells

private theorem fragment_rowLatex (r : GridRow) : Fragment (grid.rowLatex r) r.cells.length := by
  have hcells := fragment_cells (escape r.head.label)
    (r.cells.map (Rule.formulaLatex (fun s => s ∈ grid.columns)))
    (List.forall_mem_cons.mpr ⟨fragment_escape r.head.label,
      List.forall_mem_map.mpr (fun cell _ => cell.fragment_formulaLatex _)⟩)
  rwa [List.length_map] at hcells

/-- What the grid is laid out from in LaTeX. -/
def parts : List Part :=
  [.piece grid.headerLatex, .ending .ruled] ++
    Part.between [.ending .plain] (grid.rows.map grid.rowLatex) ++
    [.piece "\n\\end\x7barray\x7d\\]"]

private theorem laid_latex : Laid grid.latex grid.parts := by
  have htext : grid.latex = Part.layOut grid.parts := by
    simp only [parts, Part.layOut_append, Part.layOut_between, Part.layOut_cons, Part.layOut_nil,
      Part.text_piece, Part.text_plain, Part.text_ruled, String.append_empty]
    rfl
  rw [htext]
  apply laid_of_tidy
  refine List.forall_mem_append.mpr ⟨List.forall_mem_append.mpr ⟨?_, ?_⟩, ?_⟩
  · simpa using ⟨_, grid.fragment_headerLatex⟩
  · refine Part.tidy_between _ (by simp) _ (List.forall_mem_map.mpr ?_)
    exact fun r _ => ⟨_, grid.fragment_rowLatex r⟩
  · simpa using ⟨0, by decide⟩

end Grid

namespace Grammar

variable (g : Grammar)

def listingRow (r : Rule) : String := r.rowLatex (fun s => s.label ∈ g.terminalLabels)

/-- What the listing is laid out from in LaTeX. -/
def listingParts : List Part :=
  Part.between [.ending .plain] (["\\[\\begin\x7barray\x7d\x7bcll\x7d"] ++
    g.rules.map g.listingRow ++ ["\\end\x7barray\x7d\\]"])

def summaryHeader : String := "Symbol & Nullable & First & Follow"

/-- What the summary is laid out from in LaTeX. -/
def summaryParts : List Part :=
  [.piece "\\begin\x7btabular\x7d\x7bc|c|c|c\x7d\n", .piece summaryHeader, .ending .ruled] ++
    Part.between [.ending .plain, .piece " "] (g.summary.map SummaryRow.latex) ++
    [.ending .plain, .piece "\\end\x7btabular\x7d"]

private theorem laid_listingLatex : Laid g.listingLatex g.listingParts := by
  have htext : g.listingLatex = Part.layOut g.listingParts := by
    rw [listingParts, Part.layOut_between]
    rfl
  rw [htext]
  apply laid_of_tidy
  refine Part.tidy_between _ (by simp) _ ?_
  refine List.forall_mem_append.mpr ⟨List.forall_mem_append.mpr ⟨?_, ?_⟩, ?_⟩
  · simpa using ⟨0, by decide⟩
  · exact List.forall_mem_map.mpr (fun r _ => ⟨_, r.fragment_rowLatex _⟩)
  · simpa using ⟨0, by decide⟩

private theorem fragment_summaryHeader : Fragment summaryHeader 3 := by decide

private theorem laid_summaryLatex : Laid g.summaryLatex g.summaryParts := by
  have htext : g.summaryLatex = Part.layOut g.summaryParts := by
    have hheader : "Symbol & Nullable & First & Follow\\\\\\hline\n" =
        summaryHeader ++ "\\\\\\hline\n" := by decide
    have hrow : "\\\\\n " = "\\\\\n" ++ " " := by decide
    have hclose : "\\\\\n\\end\x7btabular\x7d" = "\\\\\n" ++ "\\end\x7btabular\x7d" := by
      decide
    unfold summaryLatex
    rw [hheader, hrow, hclose]
    simp only [summaryParts, Part.layOut_append, Part.layOut_between, Part.layOut_cons,
      Part.layOut_nil, Part.text_piece, Part.text_plain, Part.text_ruled, String.append_empty,
      String.append_assoc]
  rw [htext]
  apply laid_of_tidy
  refine List.forall_mem_append.mpr ⟨List.forall_mem_append.mpr ⟨?_, ?_⟩, ?_⟩
  · simpa using ⟨⟨0, by decide⟩, 3, fragment_summaryHeader⟩
  · refine Part.tidy_between _ ?_ _ (List.forall_mem_map.mpr ?_)
    · simpa using ⟨0, by decide⟩
    · exact fun r _ => ⟨_, r.fragment_latex⟩
  · simpa using ⟨0, by decide⟩

/-- Labels cannot break the rows. Two backslashes stand side by side in the row ends only, and each
row has the separators of its columns. -/
theorem latex_keeps_rows :
    (∀ g : Grammar, Laid g.listingLatex g.listingParts ∧
      ∀ r ∈ g.rules, separators (g.listingRow r) = if r.alternatives = [] then 0 else 2) ∧
    (∀ g : Grammar, Laid g.summaryLatex g.summaryParts ∧ separators summaryHeader = 3 ∧
      ∀ row ∈ g.summary, separators row.latex = 3) ∧
    ∀ (g : Grammar) (t : Table), Laid (t.grid g).latex (t.grid g).parts ∧
      separators (t.grid g).headerLatex = (t.grid g).columns.length ∧
      ∀ row ∈ (t.grid g).rows,
        separators ((t.grid g).rowLatex row) = (t.grid g).columns.length := by
  refine ⟨fun g => ⟨g.laid_listingLatex, ?_⟩, fun g => ⟨g.laid_summaryLatex, ?_, ?_⟩,
    fun g t => ⟨(t.grid g).laid_latex, (t.grid g).fragment_headerLatex.count, ?_⟩⟩
  · exact fun r _ => (r.fragment_rowLatex _).count
  · exact fragment_summaryHeader.count
  · exact fun row _ => row.fragment_latex.count
  · intro row hrow
    obtain ⟨head, -, rfl⟩ := List.mem_map.mp hrow
    rw [((t.grid g).fragment_rowLatex _).count]
    exact List.length_map _

/-- Labels that are row ends, separators and commands, and a head without alternatives. -/
def hostile : Grammar := Grammar.ofRules
  [(⟨"\\\\\n"⟩, [[⟨"a&b"⟩, ⟨"\\"⟩, Symbol.epsilon], [⟨"\\hline"⟩, ⟨"&"⟩]]), (⟨"&"⟩, [])]

def hostileTable : Table := hostile.table.toOption.getD Table.empty

theorem latex_keeps_rows_hostile :
    hostile.rules.map hostile.listingRow =
      ["\\textbackslash\x7b\x7d\\textbackslash\x7b\x7d\n & \\rightarrow &" ++
        "\\text\x7ba\\&b\x7d \\ \\text\x7b\\textbackslash\x7b\x7d\x7d \\ \\epsilon" ++
        " \\mid \\text\x7b\\textbackslash\x7b\x7dhline\x7d \\ \\&", ""] ∧
    (∀ r ∈ hostile.rules,
      separators (hostile.listingRow r) = if r.alternatives = [] then 0 else 2) ∧
    Laid hostile.listingLatex hostile.listingParts ∧
    Laid hostile.summaryLatex hostile.summaryParts ∧
    (∀ row ∈ hostile.summary, separators row.latex = 3) ∧
    hostile.table = .ok hostileTable ∧
    Laid (hostileTable.grid hostile).latex (hostileTable.grid hostile).parts ∧
    (∀ row ∈ (hostileTable.grid hostile).rows,
      separators ((hostileTable.grid hostile).rowLatex row) = 4) := by
  obtain ⟨hlisting, hsummary, hgrid⟩ := latex_keeps_rows
  have hcolumns : (hostileTable.grid hostile).columns.length = 4 := by
    rw [hostile.columns_grid]
    decide
  refine ⟨by decide, (hlisting hostile).2, (hlisting hostile).1, (hsummary hostile).1,
    (hsummary hostile).2.2, by decide, (hgrid hostile hostileTable).1, ?_⟩
  intro row hrow
  rw [(hgrid hostile hostileTable).2.2 row hrow, hcolumns]

end Grammar

end Predictive
