import Mathlib.Data.List.Forall2
import Predictive.Proofs.Grammar.Listing
import Predictive.Proofs.Table.Grid
/-!
# Plain text is aligned

The lines of a grid have a cell for each column, as wide as the column in characters, and the lines
of a listing have their arrow or bar in one place. A label that breaks the line would break this,
so the labels are taken to stand on one line.
-/
namespace Predictive

def Symbol.OneLine (s : Symbol) : Prop := '\n' ∉ s.label.toList

instance (s : Symbol) : Decidable s.OneLine := inferInstanceAs (Decidable ('\n' ∉ s.label.toList))

/-- The labels of the heads and of the symbols in bodies stand on one line. -/
def Grammar.OneLine (g : Grammar) : Prop := ∀ s ∈ g.heads ++ g.bodySymbols, s.OneLine

instance (g : Grammar) : Decidable g.OneLine :=
  inferInstanceAs (Decidable (∀ s ∈ g.heads ++ g.bodySymbols, s.OneLine))

/-- The labels in the bodies of the entries stand on one line. -/
def Table.OneLine (t : Table) : Prop := ∀ e ∈ t.entries, ∀ s ∈ e.2.body, s.OneLine

instance (t : Table) : Decidable t.OneLine :=
  inferInstanceAs (Decidable (∀ e ∈ t.entries, ∀ s ∈ e.2.body, s.OneLine))

section Lines

variable (body : Body) (hbody : ∀ s ∈ body, s.OneLine)

include hbody

private theorem Body.newline_not_mem_text : '\n' ∉ (Body.text body).toList := by
  intro hmem
  rcases body.mem_text _ hmem with hc | ⟨s, hs, hc⟩
  · exact absurd hc (by decide)
  · exact hbody s hs hc

private theorem Rule.newline_not_mem_leadingText (width : Nat) (r : Rule) (hhead : r.head.OneLine) :
    '\n' ∉ (r.leadingText width body).toList := by
  have hblank : '\n' ∉ List.replicate (width - r.head.label.length) ' ' :=
    fun hmem => absurd (List.eq_of_mem_replicate hmem) (by decide)
  have htext := body.newline_not_mem_text hbody
  rw [Symbol.OneLine] at hhead
  simp [r.toList_leadingText, hblank, hhead, htext]

private theorem Rule.newline_not_mem_continuingText (width : Nat) :
    '\n' ∉ (Rule.continuingText width body).toList := by
  have hblank : '\n' ∉ List.replicate width ' ' :=
    fun hmem => absurd (List.eq_of_mem_replicate hmem) (by decide)
  have htext := body.newline_not_mem_text hbody
  simp [Rule.toList_continuingText, hblank, htext]

end Lines

namespace Grid

/-- The cells of a line aligned in their columns. -/
def alignedCells (widths : List Nat) (line : List String) : List String :=
  List.zipWith Column.alignRight widths line

/-- The line has one cell for each column, and no cell exceeds its column. -/
def Fits (widths : List Nat) (line : List String) : Prop :=
  List.Forall₂ (fun width cell => cell.length ≤ width) widths line

section Reading

private theorem mapM_eq_some {α β : Type} (f : α → Option β) (g : α → β) (xs : List α)
    (h : ∀ x ∈ xs, f x = some (g x)) : xs.mapM f = some (xs.map g) := by
  induction xs with
  | nil => rfl
  | cons x xs ih =>
    obtain ⟨hx, hxs⟩ := List.forall_mem_cons.mp h
    rw [List.mapM_cons, hx, ih hxs]
    rfl

private theorem exists_columnWidths (lines : List (List String)) (n : Nat) (hne : lines ≠ [])
    (hlines : ∀ line ∈ lines, line.length = n) : ∃ widths, columnWidths lines = some widths ∧
      widths.length = n ∧ ∀ line ∈ lines, Fits widths line := by
  obtain ⟨first, rest, rfl⟩ := List.exists_cons_of_ne_nil hne
  generalize hall : first :: rest = lines at hlines
  have hfirst : first.length = n := hlines first (hall ▸ List.mem_cons_self)
  have hcells (j : Nat) (hj : j < n) :
      lines.mapM (fun row => row[j]?) = some (lines.map (fun row => row[j]?.getD "")) := by
    apply mapM_eq_some
    intro line hline
    have hlt : j < line.length := hlines line hline ▸ hj
    rw [List.getElem?_eq_getElem hlt, Option.getD_some]
  have hwidths : columnWidths lines = some ((List.range n).map (fun j =>
      Column.width (lines.map (fun row => row[j]?.getD "")))) := by
    rw [columnWidths, ← hall, List.getElem?_cons_zero, hall]
    change (List.range first.length).mapM _ = _
    rw [hfirst]
    apply mapM_eq_some
    intro j hj
    rw [hcells j (List.mem_range.mp hj)]
    rfl
  refine ⟨_, hwidths, by simp, ?_⟩
  intro line hline
  refine List.forall₂_iff_get.mpr ⟨by simp [hlines line hline], ?_⟩
  intro j _ hj
  simp only [List.get_eq_getElem, List.getElem_map, List.getElem_range]
  apply Column.length_le_width
  exact List.mem_map.mpr ⟨line, hline, by rw [List.getElem?_eq_getElem hj, Option.getD_some]⟩

private theorem mapM_zipIdx (widths : List Nat) (line : List String) (k : Nat)
    (h : line.length + k ≤ widths.length) :
    (line.zipIdx k).mapM (fun e => do
        let width ← widths[e.2]?
        return Column.alignRight width e.1) = some (alignedCells (widths.drop k) line) := by
  induction line generalizing k with
  | nil => simp [alignedCells]
  | cons cell line ih =>
    rw [List.length_cons] at h
    have hk : k < widths.length := by omega
    rw [List.zipIdx_cons, List.mapM_cons, ih (k + 1) (by omega), List.getElem?_eq_getElem hk,
      List.drop_eq_getElem_cons hk]
    rfl

private theorem lineText_eq (widths : List Nat) (line : List String) (h : Fits widths line) :
    lineText widths line = some (" | ".intercalate (alignedCells widths line)) := by
  rw [lineText, mapM_zipIdx widths line 0 (by simpa using h.length_eq.ge), List.drop_zero]
  rfl

end Reading

private theorem map_length_alignedCells (widths : List Nat) (line : List String)
    (h : Fits widths line) : (alignedCells widths line).map String.length = widths := by
  induction h with
  | nil => rfl
  | cons hcell _ ih =>
    rw [alignedCells, List.zipWith_cons_cons, List.map_cons, Column.length_alignRight _ _ hcell]
    exact congrArg _ ih

private theorem length_line (widths : List Nat) (line : List String) (h : Fits widths line) :
    (" | ".intercalate (alignedCells widths line)).toList.length =
      widths.sum + 3 * (widths.length - 1) := by
  have hwidths := map_length_alignedCells widths line h
  have hlength : (alignedCells widths line).length = widths.length := by
    rw [← List.length_map (f := String.length), hwidths]
  have hmap : ((alignedCells widths line).map String.toList).map List.length = widths := by
    rw [List.map_map]
    exact (List.map_congr_left (fun _ _ => String.length_toList)).trans hwidths
  rw [String.toList_intercalate, Text.length_intercalate, hmap, List.length_map, hlength]
  rfl

private theorem newline_not_mem_line (widths : List Nat) (line : List String)
    (h : ∀ cell ∈ line, '\n' ∉ cell.toList) :
    '\n' ∉ (" | ".intercalate (alignedCells widths line)).toList := by
  rw [String.toList_intercalate]
  intro hmem
  rcases Text.mem_intercalate _ _ _ hmem with hmem | ⟨piece, hpiece, hmem⟩
  · exact absurd hmem (by decide)
  · rw [alignedCells, ← List.map_uncurry_zip_eq_zipWith, List.map_map] at hpiece
    obtain ⟨⟨width, cell⟩, hzip, rfl⟩ := List.mem_map.mp hpiece
    change '\n' ∈ (Column.alignRight width cell).toList at hmem
    rw [Column.toList_alignRight] at hmem
    rcases List.mem_append.mp hmem with hmem | hmem
    · exact absurd (List.eq_of_mem_replicate hmem) (by decide)
    · exact h cell (List.of_mem_zip hzip).2 hmem

/-- The text of the grid is complete and laid out in columns of the given widths. -/
structure InColumns (grid : Grid) (widths : List Nat) : Prop where
  complete : grid.text? = some grid.text
  columns : widths.length = grid.columns.length + 1
  cells : ∀ line ∈ grid.cellTexts, line.length = grid.columns.length + 1
  column : ∀ line ∈ grid.cellTexts, (alignedCells widths line).map String.length = widths
  lines : grid.text.toList.splitOn '\n' =
    grid.cellTexts.map (fun line => (" | ".intercalate (alignedCells widths line)).toList)
  level : ∀ line ∈ grid.text.toList.splitOn '\n',
    line.length = widths.sum + 3 * grid.columns.length

private theorem exists_inColumns (grid : Grid)
    (hrows : ∀ row ∈ grid.rows, row.cells.length = grid.columns.length)
    (hcells : ∀ line ∈ grid.cellTexts, ∀ cell ∈ line, '\n' ∉ cell.toList) :
    ∃ widths, grid.InColumns widths := by
  have hlength : ∀ line ∈ grid.cellTexts, line.length = grid.columns.length + 1 := by
    refine List.forall_mem_cons.mpr ⟨by simp, List.forall_mem_map.mpr ?_⟩
    intro row hrow
    rw [List.length_cons, List.length_map, hrows row hrow]
  have hne : grid.cellTexts ≠ [] := List.cons_ne_nil _ _
  obtain ⟨widths, hwidths, hcolumns, hfits⟩ := exists_columnWidths _ _ hne hlength
  generalize htexts : grid.cellTexts.map (fun line => " | ".intercalate (alignedCells widths line)) =
    texts
  have htext? : grid.text? = some ("\n".intercalate texts) := by
    have hmap := mapM_eq_some (lineText widths) _ grid.cellTexts
      (fun line hline => lineText_eq widths line (hfits line hline))
    rw [htexts] at hmap
    rw [text?, hwidths]
    change (grid.cellTexts.mapM (lineText widths)).bind _ = _
    rw [hmap]
    rfl
  have htext : grid.text = "\n".intercalate texts := by rw [text, htext?, Option.getD_some]
  have hlines : grid.text.toList.splitOn '\n' =
      grid.cellTexts.map (fun line => (" | ".intercalate (alignedCells widths line)).toList) := by
    have hmap : texts.map String.toList =
        grid.cellTexts.map (fun line => (" | ".intercalate (alignedCells widths line)).toList) := by
      rw [← htexts, List.map_map]
      rfl
    rw [htext, String.toList_intercalate, hmap]
    apply List.splitOn_intercalate '\n' ?_ (by simpa using hne)
    exact List.forall_mem_map.mpr
      (fun line hline => newline_not_mem_line widths line (hcells line hline))
  refine ⟨widths, htext ▸ htext?, hcolumns, hlength, ?_, hlines, ?_⟩
  · exact fun line hline => map_length_alignedCells widths line (hfits line hline)
  · rw [hlines]
    refine List.forall_mem_map.mpr (fun line hline => ?_)
    rw [length_line widths line (hfits line hline), hcolumns, Nat.add_sub_cancel]

end Grid

namespace Rule

variable (width : Nat) (r : Rule)

private theorem length_lines : (r.lines width).length = r.alternatives.length := by
  unfold lines
  cases r.alternatives <;> simp

private theorem marked_lines (h : r.head.label.length ≤ width) (i : Nat) (body : Body)
    (hbody : r.alternatives[i]? = some body) :
    ∃ line front, (r.lines width)[i]? = some line ∧ front.length = width + 2 ∧
      line.toList = front ++ (if i = 0 then '>' else '|') :: ' ' :: (Body.text body).toList := by
  unfold lines
  cases halternatives : r.alternatives with
  | nil => simp [halternatives] at hbody
  | cons first later =>
    rw [halternatives] at hbody
    cases i with
    | zero =>
      cases hbody
      refine ⟨r.leadingText width body, (List.replicate (width - r.head.label.length) ' ' ++
        (r.head.label.toList ++ [' '])) ++ ['-'], rfl, ?_, ?_⟩
      · simp only [List.length_append, List.length_replicate, String.length_toList,
          List.length_singleton]
        omega
      · rw [toList_leadingText]
        simp
    | succ i =>
      refine ⟨continuingText width body, List.replicate width ' ' ++ [' ', ' '], ?_, by simp, ?_⟩
      · simpa using ⟨body, by simpa using hbody, rfl⟩
      · rw [toList_continuingText]
        simp

end Rule

namespace Grammar

variable (g : Grammar)

private theorem length_le_listingWidth (r : Rule) (hr : r ∈ g.rules) :
    r.head.label.length ≤ g.listingWidth :=
  Column.length_le_width _ _ (List.mem_map_of_mem (List.mem_map_of_mem hr))

/-- The lines that a listing has for a rule, an empty one for a rule without alternatives. -/
def listedLines (r : Rule) : List String :=
  if r.alternatives = [] then [""] else r.lines g.listingWidth

private theorem listedLines_ne_nil (r : Rule) : g.listedLines r ≠ [] := by
  unfold listedLines
  split
  · exact List.cons_ne_nil _ _
  · next hsome => exact fun hnil => hsome ((r.lines_eq_nil_iff _).mp hnil)

private theorem listingText_eq :
    g.listingText = "\n".intercalate (g.rules.flatMap g.listedLines) := by
  have hrule (r : Rule) :
      r.multilineText g.listingWidth = "\n".intercalate (g.listedLines r) := by
    unfold listedLines Rule.multilineText
    split
    · next hnone => simp [(r.lines_eq_nil_iff _).mpr hnone]
    · rfl
  rw [listingText, ← Text.intercalate_flatMap "\n" g.rules g.listedLines
    (fun r _ => g.listedLines_ne_nil r)]
  exact congrArg _ (List.map_congr_left (fun r _ => hrule r))

/-- The listing has a line for each alternative, with an arrow or a bar at the given place. -/
structure MarkedAt (index : Nat) : Prop where
  lines : g.rules ≠ [] → g.listingText.toList.splitOn '\n' =
    (g.rules.flatMap g.listedLines).map String.toList
  count : ∀ r ∈ g.rules, (r.lines g.listingWidth).length = r.alternatives.length
  marked : ∀ r ∈ g.rules, ∀ (i : Nat) body, r.alternatives[i]? = some body →
    ∃ line front, (r.lines g.listingWidth)[i]? = some line ∧ front.length = index ∧
      line.toList = front ++ (if i = 0 then '>' else '|') :: ' ' :: (Body.text body).toList

section OneLine

variable (hg : g.OneLine)

include hg

theorem OneLine.head (s : Symbol) (hs : s ∈ g.heads) : s.OneLine :=
  hg s (List.mem_append_left _ hs)

private theorem newline_not_mem_gridCell (t : Table) (ht : t.OneLine) (width : Nat)
    (head a : Symbol) (hhead : head ∈ g.heads) :
    '\n' ∉ ((t.gridCell head a).inlineText width).toList := by
  unfold Table.gridCell
  cases hcell : t.get? head a with
  | none => exact List.not_mem_nil
  | some p =>
    have hbody := ht _ (t.cells.mem_entries_of_get? _ _ hcell)
    have hline := Rule.newline_not_mem_leadingText p.body hbody width ⟨head, [p.body]⟩
      (hg.head g head hhead)
    simpa [Rule.inlineText] using hline

private theorem newline_not_mem_cellTexts (t : Table) (ht : t.OneLine) :
    ∀ line ∈ (t.grid g).cellTexts, ∀ cell ∈ line, '\n' ∉ cell.toList := by
  refine List.forall_mem_cons.mpr ⟨List.forall_mem_cons.mpr ⟨by decide, ?_⟩, ?_⟩
  · refine List.forall_mem_map.mpr (fun s hs => ?_)
    rcases (g.mem_columns_grid t s).mp hs with hs | rfl
    · exact hg s (List.mem_append_right _ ((g.mem_terminals s).mp hs).1)
    · decide
  · refine List.forall_mem_map.mpr (fun row hrow => ?_)
    obtain ⟨head, hhead, rfl⟩ := List.mem_map.mp hrow
    refine List.forall_mem_cons.mpr ⟨hg.head g head hhead, List.forall_mem_map.mpr ?_⟩
    intro cell hcell
    obtain ⟨a, -, rfl⟩ := List.mem_map.mp hcell
    exact g.newline_not_mem_gridCell hg t ht _ head a hhead

private theorem newline_not_mem_listedLines (r : Rule) (hr : r ∈ g.rules) :
    ∀ line ∈ g.listedLines r, '\n' ∉ line.toList := by
  have hhead := hg.head g r.head (List.mem_map_of_mem hr)
  have hbodies (body : Body) (hbody : body ∈ r.alternatives) : ∀ s ∈ body, s.OneLine := by
    intro s hs
    have hproduction : ⟨r.head, body⟩ ∈ g.productions :=
      List.mem_flatMap.mpr ⟨r, hr, List.mem_map_of_mem hbody⟩
    exact hg s (List.mem_append_right _ (g.mem_bodySymbols _ hproduction s hs))
  unfold listedLines Rule.lines
  split
  · simp
  · cases halternatives : r.alternatives with
    | nil => simp
    | cons body bodies =>
      obtain ⟨hfirst, hlater⟩ := List.forall_mem_cons.mp (halternatives ▸ hbodies)
      refine List.forall_mem_cons.mpr ⟨?_, List.forall_mem_map.mpr ?_⟩
      · exact Rule.newline_not_mem_leadingText body hfirst _ r hhead
      · exact fun later hmem => Rule.newline_not_mem_continuingText later (hlater later hmem) _

private theorem splitOn_listingText (hne : g.rules ≠ []) : g.listingText.toList.splitOn '\n' =
    (g.rules.flatMap g.listedLines).map String.toList := by
  have hnil : (g.rules.flatMap g.listedLines).map String.toList ≠ [] := by
    obtain ⟨r, rest, hrules⟩ := List.exists_cons_of_ne_nil hne
    simp [hrules, g.listedLines_ne_nil r]
  rw [listingText_eq, String.toList_intercalate]
  apply List.splitOn_intercalate '\n' (List.forall_mem_map.mpr ?_) hnil
  intro line hline
  obtain ⟨r, hr, hline⟩ := List.mem_flatMap.mp hline
  exact g.newline_not_mem_listedLines hg r hr line hline

end OneLine

/-- If all labels stand on one line, the grid has a line for its header and one for each head, in
columns of equally many characters, and the listing has its arrows and bars below each other. -/
theorem plain_text_aligned (hg : g.OneLine) :
    (∀ t : Table, t.OneLine →
      ((t.grid g).text.toList.splitOn '\n').length = g.heads.length + 1 ∧
        ∃ widths, (t.grid g).InColumns widths) ∧
      g.MarkedAt (g.listingWidth + 2) := by
  refine ⟨fun t ht => ?_, g.splitOn_listingText hg, fun r _ => r.length_lines _,
    fun r hr => r.marked_lines _ (g.length_le_listingWidth r hr)⟩
  have hrows : ∀ row ∈ (t.grid g).rows, row.cells.length = (t.grid g).columns.length := by
    intro row hrow
    obtain ⟨head, -, rfl⟩ := List.mem_map.mp hrow
    exact List.length_map _
  obtain ⟨widths, hcolumns⟩ :=
    (t.grid g).exists_inColumns hrows (g.newline_not_mem_cellTexts hg t ht)
  refine ⟨?_, widths, hcolumns⟩
  rw [hcolumns.lines, List.length_map, Grid.cellTexts, List.length_cons, List.length_map]
  exact congrArg (· + 1) (List.length_map _)

/-- Labels with letters of several bytes, bars and angles, an alternative without symbols, and a
head without alternatives. -/
def wide : Grammar := Grammar.ofRules
  [(⟨"größe"⟩, [[⟨"é"⟩, ⟨"größe"⟩], [], [⟨"|日本|"⟩]]), (⟨">"⟩, []), (⟨"é"⟩, [[⟨"ß"⟩]])]

def wideTable : Table := wide.table.toOption.getD Table.empty

theorem plain_text_aligned_wide : wide.OneLine ∧ wide.table = .ok wideTable ∧ wideTable.OneLine ∧
    (wideTable.grid wide).text =
      "        |                  |日本| |                       ß |             $\n" ++
      "  größe |         größe -> |日本| |        größe -> é größe |     größe -> \n" ++
      "      > |                       |                         |              \n" ++
      "      é |                       |                  é -> ß |              " ∧
    (∃ widths, (wideTable.grid wide).InColumns widths) ∧
    wide.listingText = "  größe -> é größe\n         | \n         | |日本|\n\n      é -> ß" ∧
    wide.MarkedAt 9 := by
  have hwide : wide.OneLine := by decide
  have htable : wideTable.OneLine := by decide
  obtain ⟨hgrid, hlisting⟩ := plain_text_aligned wide hwide
  refine ⟨hwide, by decide, htable, ?_, (hgrid wideTable htable).2, by decide +kernel,
    hlisting⟩
  unfold Table.grid
  rw [columnTerminals_eq]
  decide +kernel

end Grammar

end Predictive
