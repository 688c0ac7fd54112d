import Mathlib.Data.List.Nodup
import Mathlib.Data.List.ProdSigma
import Predictive.Proofs.Table.Prediction
import Predictive.Table.Grid
/-!
# The grid shows the whole table

The columns of the grid come from the bodies alone. FIRST and FOLLOW hold nothing but terminals of
bodies and `$`, whatever the heads of the grammar are, so every lookahead of the table has a column
and no entry of the table is left out.
-/
namespace Predictive

namespace GridRow

/-- The cells of a row, each with the symbol of its column. -/
def labelled (columns : List Symbol) (row : GridRow) : List (Symbol × Rule) :=
  columns.zip row.cells

end GridRow

namespace Grid

/-- The number of cells that are not empty. -/
def filled (grid : Grid) : Nat :=
  (grid.rows.flatMap GridRow.cells).countP (fun r => r.alternatives ≠ [])

/-- The grid has a column for each terminal and for the end of the input and a row for each head.
Its cells show what the table holds, all of it. -/
structure Shows (grid : Grid) (g : Grammar) (t : Table) : Prop where
  columns : grid.columns = (g.terminals.erase Symbol.endMarker).toList ++ [Symbol.endMarker]
  ascending : grid.columns.dropLast.Pairwise (fun a b => compare a b = .lt)
  nodup : grid.columns.Nodup
  heads : grid.rows.map GridRow.head = g.heads
  complete : ∀ row ∈ grid.rows, row.cells.length = grid.columns.length
  cell : ∀ row ∈ grid.rows, ∀ a r, (a, r) ∈ row.labelled grid.columns →
    r.head = row.head ∧ (r.alternatives = [] ↔ t.get? row.head a = none) ∧
      ∀ p, p.head = row.head ∧ r.alternatives = [p.body] ↔ t.get? row.head a = some p
  entry : ∀ c p, (c, p) ∈ t.entries → ∃ row ∈ grid.rows, row.head = c.head ∧
    (c.lookahead, ⟨c.head, [p.body]⟩) ∈ row.labelled grid.columns
  filled : grid.filled = t.size

end Grid

namespace Grammar

theorem mem_terminals (g : Grammar) (a : Symbol) :
    a ∈ g.terminals ↔ a ∈ g.bodySymbols ∧ a ≠ Symbol.epsilon ∧ g.isTerminal a = true := by
  simp [terminals, Symbol.isEpsilon]

theorem columnTerminals_eq (g : Grammar) :
    g.columnTerminals = (g.terminals.erase Symbol.endMarker).toList := by
  rw [columnTerminals, Sorting.sortUnique_eq]
  apply congrArg OrderedSet.toList
  apply OrderedSet.ext_mem
  intro a
  rw [OrderedSet.mem_ofList, OrderedSet.mem_erase, mem_terminals]
  simp only [List.mem_filter, Symbol.isEpsilon, Symbol.isEndMarker, Bool.and_eq_true,
    Bool.not_eq_true', decide_eq_false_iff_not]
  tauto

private theorem mem_terminals_of_predicted (g : Grammar) (p : Production) (hp : p ∈ g.productions)
    (a : Symbol) (h : a ∈ g.analysis.predicted p) : a ∈ g.terminals ∨ a = Symbol.endMarker := by
  have hknown : a ∈ g.bodySymbols ∨ a = Symbol.endMarker := by
    obtain ⟨hne, hfirst | ⟨-, hfollow⟩⟩ := (g.analysis.mem_predicted p a).mp h
    · obtain ⟨-, before, x, after, hbody, -, hx⟩ :=
        g.firstSound.mem_firstOfBody p.body a hfirst hne
      rcases hx with rfl | hx
      · exact Or.inl (g.mem_bodySymbols p hp x (by simp [hbody]))
      · exact Or.inl (hx.mem_bodySymbols g a _ x)
    · exact g.followSound.known p.head a hfollow
  have hne := ((g.analysis.mem_predicted p a).mp h).1
  rcases g.lookahead_of_predicted p a h with hterm | hend
  · exact hknown.imp_left (fun hbody => (g.mem_terminals a).mpr ⟨hbody, hne, hterm⟩)
  · exact Or.inr hend

section Columns

variable (g : Grammar) (t : Table)

theorem columns_grid : (t.grid g).columns =
    (g.terminals.erase Symbol.endMarker).toList ++ [Symbol.endMarker] := by
  rw [← g.columnTerminals_eq]
  rfl

theorem mem_columns_grid (a : Symbol) :
    a ∈ (t.grid g).columns ↔ a ∈ g.terminals ∨ a = Symbol.endMarker := by
  rw [g.columns_grid t, List.mem_append, List.mem_singleton, OrderedSet.mem_toList,
    OrderedSet.mem_erase]
  tauto

private theorem nodup_columns_grid : (t.grid g).columns.Nodup := by
  rw [g.columns_grid t]
  refine List.nodup_append.mpr ⟨OrderedSet.nodup_toList _, List.pairwise_singleton _ _, ?_⟩
  intro a ha b hb
  rw [List.mem_singleton] at hb
  exact hb ▸ ((OrderedSet.mem_erase a _ _).mp ha).2

private theorem mem_labelled_grid (head a : Symbol) (r : Rule) :
    (a, r) ∈ GridRow.labelled (t.grid g).columns
        ⟨head, (t.grid g).columns.map (t.gridCell head)⟩ ↔
      a ∈ (t.grid g).columns ∧ r = t.gridCell head a := by
  rw [GridRow.labelled, ← List.map_prod_left_eq_zip]
  constructor
  · intro hmem
    obtain ⟨b, hb, hpair⟩ := List.mem_map.mp hmem
    cases hpair
    exact ⟨hb, rfl⟩
  · rintro ⟨ha, rfl⟩
    exact List.mem_map.mpr ⟨a, ha, rfl⟩

end Columns

section Cells

variable (g : Grammar) (t : Table) (ht : g.table = .ok t)

include ht

private theorem positioned_of_get? (head a : Symbol) (p : Production) (h : t.get? head a = some p) :
    head ∈ g.heads ∧ a ∈ (t.grid g).columns := by
  obtain ⟨hp, rfl, hpredicted⟩ := (g.get?_tableWith_iff g.analysis t ht head a p).mp h
  exact ⟨g.head_mem_heads p hp,
    (g.mem_columns_grid t a).mpr (g.mem_terminals_of_predicted p hp a hpredicted)⟩

private theorem gridCell_shows (head a : Symbol) :
    (t.gridCell head a).head = head ∧
      ((t.gridCell head a).alternatives = [] ↔ t.get? head a = none) ∧
      ∀ p, p.head = head ∧ (t.gridCell head a).alternatives = [p.body] ↔
        t.get? head a = some p := by
  unfold Table.gridCell
  cases hcell : t.get? head a with
  | none => simp
  | some q =>
    have hhead := g.head_of_get? g.analysis t ht head a q hcell
    refine ⟨rfl, by simp, fun p => ⟨?_, ?_⟩⟩
    · rintro ⟨hp, hbody⟩
      have hsame : q.body = p.body := (List.cons.inj hbody).1
      cases p
      cases q
      simp_all
    · rintro heq
      cases heq
      exact ⟨hhead, rfl⟩

private theorem filled_places :
    ((g.heads ×ˢ (t.grid g).columns).filter (fun c => (t.get? c.1 c.2).isSome)).Perm
      (t.cells.keys.map (fun c => (c.head, c.lookahead))) := by
  apply (List.perm_ext_iff_of_nodup ?_ ?_).mpr
  · rintro ⟨head, a⟩
    have hkey : (head, a) ∈ t.cells.keys.map (fun c => (c.head, c.lookahead)) ↔
        (t.get? head a).isSome = true := by
      rw [Table.get?, ← OrderedMap.mem_keys_iff, List.mem_map]
      constructor
      · rintro ⟨⟨head, a⟩, hc, heq⟩
        cases heq
        exact hc
      · exact fun hc => ⟨⟨head, a⟩, hc, rfl⟩
    rw [hkey, List.mem_filter, List.mem_product]
    refine ⟨And.right, fun hfilled => ⟨?_, hfilled⟩⟩
    obtain ⟨p, hp⟩ := Option.isSome_iff_exists.mp hfilled
    exact g.positioned_of_get? t ht head a p hp
  · exact (List.Nodup.product g.heads_nodup (g.nodup_columns_grid t)).filter _
  · refine List.Nodup.map ?_ t.cells.nodup_keys
    rintro ⟨head, a⟩ ⟨head', a'⟩ heq
    cases heq
    rfl

private theorem filled_grid : (t.grid g).filled = t.size := by
  have hcells : (t.grid g).rows.flatMap GridRow.cells =
      (g.heads ×ˢ (t.grid g).columns).map (fun c => t.gridCell c.1 c.2) := by
    change (g.heads.map _).flatMap GridRow.cells =
      (g.heads.flatMap (fun h => (t.grid g).columns.map (Prod.mk h))).map _
    rw [List.flatMap_map, List.map_flatMap]
    simp only [List.map_map]
    rfl
  have hshown : (fun c : Symbol × Symbol => decide ((t.gridCell c.1 c.2).alternatives ≠ [])) =
      fun c => (t.get? c.1 c.2).isSome := by
    funext c
    have hempty := (g.gridCell_shows t ht c.1 c.2).2.1
    cases hcell : t.get? c.1 c.2 <;> simp [hempty, hcell]
  calc (t.grid g).filled
      = ((g.heads ×ˢ (t.grid g).columns).filter (fun c => (t.get? c.1 c.2).isSome)).length := by
        rw [Grid.filled, hcells, List.countP_map, List.countP_eq_length_filter, ← hshown]
        rfl
    _ = (t.cells.keys.map (fun c => (c.head, c.lookahead))).length :=
        (g.filled_places t ht).length_eq
    _ = t.size := by
        rw [List.length_map, OrderedMap.keys, List.length_map]
        rfl

end Cells

/-- The grid shows all of the table, and the labels that are set upright are those of the
terminals. -/
theorem grid_shows_table (g : Grammar) :
    (∀ t, g.table = .ok t → (t.grid g).Shows g t) ∧
      g.terminalLabels = OrderedSet.ofList (g.terminals.map Symbol.label) := by
  refine ⟨fun t ht => ⟨g.columns_grid t, ?_, g.nodup_columns_grid t, ?_, ?_, ?_, ?_,
    g.filled_grid t ht⟩, ?_⟩
  · rw [g.columns_grid t, List.dropLast_concat]
    exact (g.terminals.erase Symbol.endMarker).ascending
  · exact (List.map_map ..).trans (List.map_id g.heads)
  · intro row hrow
    obtain ⟨head, -, rfl⟩ := List.mem_map.mp hrow
    exact List.length_map _
  · intro row hrow a r hcell
    obtain ⟨head, -, rfl⟩ := List.mem_map.mp hrow
    obtain ⟨-, rfl⟩ := (g.mem_labelled_grid t head a r).mp hcell
    exact g.gridCell_shows t ht head a
  · intro c p hentry
    have hcell : t.get? c.head c.lookahead = some p := (t.cells.get?_eq_some_iff c p).mpr hentry
    obtain ⟨hhead, hcolumn⟩ := g.positioned_of_get? t ht c.head c.lookahead p hcell
    refine ⟨_, List.mem_map.mpr ⟨c.head, hhead, rfl⟩, rfl, ?_⟩
    refine (g.mem_labelled_grid t c.head c.lookahead _).mpr ⟨hcolumn, ?_⟩
    rw [Table.gridCell, hcell]
  · apply OrderedSet.ext_mem
    intro label
    simp only [terminalLabels, OrderedSet.mem_ofList, OrderedSet.map, List.mem_map,
      List.mem_filter, OrderedSet.mem_toList, mem_terminals, Symbol.isEpsilon, Bool.and_eq_true,
      Bool.not_eq_true', decide_eq_false_iff_not, ne_eq]

/-- A grammar with `$` for a head, which also stands in a body. -/
def endHeaded : Grammar :=
  Grammar.ofRules [(⟨"S"⟩, [[⟨"b"⟩, Symbol.endMarker, ⟨"c"⟩]]),
    (Symbol.endMarker, [[⟨"a"⟩], [Symbol.epsilon]])]

def endHeadedTable : Table := endHeaded.table.toOption.getD Table.empty

theorem grid_shows_table_endHeaded :
    endHeaded.table = .ok endHeadedTable ∧
    (endHeadedTable.grid endHeaded).Shows endHeaded endHeadedTable ∧
    (endHeadedTable.grid endHeaded).columns = [⟨"a"⟩, ⟨"b"⟩, ⟨"c"⟩, Symbol.endMarker] ∧
    (endHeadedTable.grid endHeaded).filled = 3 := by
  have htable : endHeaded.table = .ok endHeadedTable := by decide +kernel
  have hshows := (grid_shows_table endHeaded).1 endHeadedTable htable
  refine ⟨htable, hshows, ?_, ?_⟩
  · rw [hshows.columns]
    decide +kernel
  · rw [hshows.filled]
    decide +kernel

end Grammar

end Predictive
