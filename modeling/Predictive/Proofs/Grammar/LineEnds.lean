import Predictive.Grammar.Source
import Predictive.Proofs.Text.Pieces
/-!
# The ends of lines do not matter

A blank behind a line changes nothing in its reading, and neither does an empty last line. So a text
is read in the same way after its lines have been put together again with line feeds between them.
-/
namespace Predictive

namespace Text

section Concat

variable (text : Text) (c : Char)

private theorem splitOn_concat (x : Char) (h : c ≠ x) :
    ∃ pieces last, text.splitOn x = pieces ++ [last] ∧
      (text ++ [c]).splitOn x = pieces ++ [last ++ [c]] := by
  induction text with
  | nil => exact ⟨[], [], List.splitOn_nil x, List.splitOn_eq_singleton (by simpa using h.symm)⟩
  | cons d text ih =>
    obtain ⟨pieces, last, hsplit, hconcat⟩ := ih
    rw [List.cons_append, List.splitOn_cons_eq_if_modifyHead, hsplit,
      List.splitOn_cons_eq_if_modifyHead, hconcat]
    split
    · exact ⟨[] :: pieces, last, rfl, rfl⟩
    · cases pieces with
      | nil => exact ⟨[], d :: last, rfl, rfl⟩
      | cons piece pieces => exact ⟨(d :: piece) :: pieces, last, rfl, rfl⟩

private theorem splitArrow_concat (h : c ≠ '>') :
    ∃ pieces last, splitArrow text = pieces ++ [last] ∧
      splitArrow (text ++ [c]) = pieces ++ [last ++ [c]] := by
  induction text using splitArrow.induct with
  | case1 => exact ⟨[], [], rfl, splitArrow_of_arrowless [c] (List.isChain_singleton c)⟩
  | case2 text ih =>
    obtain ⟨pieces, last, hsplit, hconcat⟩ := ih
    refine ⟨[] :: pieces, last, by rw [splitArrow, hsplit, List.cons_append], ?_⟩
    rw [List.cons_append, List.cons_append, splitArrow, hconcat, List.cons_append]
  | case3 d text _ hnil _ => exact absurd hnil (splitArrow_ne_nil text)
  | case4 d text hd _ _ _ ih =>
    obtain ⟨pieces, last, hsplit, hconcat⟩ := ih
    have hd' (rest : Text) (hdash : d = '-') (htext : text ++ [c] = '>' :: rest) : False := by
      cases text with
      | nil => exact h (List.cons.inj htext).1
      | cons e text => exact hd text hdash (by rw [(List.cons.inj htext).1])
    rw [List.cons_append, splitArrow.eq_3 d text hd, splitArrow.eq_3 d _ hd', hsplit, hconcat]
    cases pieces with
    | nil => exact ⟨[], d :: last, rfl, rfl⟩
    | cons piece pieces => exact ⟨(d :: piece) :: pieces, last, rfl, rfl⟩

private theorem trim_append_blank (h : isBlank c = true) : trim (text ++ [c]) = trim text := by
  rw [trim_eq_rdropWhile, trim_eq_rdropWhile, List.dropWhile_append]
  split
  · next hnil =>
    rw [List.isEmpty_iff.mp hnil, List.dropWhile_cons_of_pos h]
    rfl
  · rw [List.rdropWhile_concat_pos _ _ _ h]

end Concat

private theorem not_mem_closeLines (x : Char) (pieces : List Text) (h : ∀ piece ∈ pieces, x ∉ piece) :
    ∀ line ∈ closeLines pieces, x ∉ line := by
  induction pieces using closeLines.induct with
  | case1 => simp [closeLines]
  | case2 => simp [closeLines]
  | case3 last hlast =>
    rw [closeLines, if_neg hlast]
    exact h
  | case4 piece next rest ih =>
    obtain ⟨hpiece, hrest⟩ := List.forall_mem_cons.mp h
    rw [closeLines]
    refine List.forall_mem_cons.mpr ⟨?_, ih hrest⟩
    unfold stripReturn
    split
    · exact fun hmem => hpiece ((List.dropLast_sublist piece).subset hmem)
    · exact hpiece

end Text

namespace Grammar

private theorem readAlternatives_append_blank (text : Text) (c : Char) (h : isBlank c = true) :
    readAlternatives (text ++ [c]) = readAlternatives text := by
  have hbar : c ≠ '|' := by
    rintro rfl
    exact absurd h (by decide)
  obtain ⟨pieces, last, hsplit, hconcat⟩ := Text.splitOn_concat text c '|' hbar
  have hwords : Text.words (last ++ [c]) = Text.words last :=
    Text.words_append_blanks last [c] (by simpa using h)
  simp only [readAlternatives, hsplit, hconcat, List.map_append, List.map_cons, hwords]

private theorem readLine_append_blank (previous : Option Symbol) (line : Text) (c : Char)
    (h : isBlank c = true) : readLine previous (line ++ [c]) = readLine previous line := by
  have hangle : c ≠ '>' := by
    rintro rfl
    exact absurd h (by decide)
  obtain ⟨pieces, last, hsplit, hconcat⟩ := Text.splitArrow_concat line c hangle
  have hblank : (line ++ [c]).all isBlank = line.all isBlank := by simp [h]
  rw [readLine, readLine, hblank, hsplit, hconcat]
  split
  · rfl
  · match pieces with
    | [] => simp only [List.nil_append, Text.trim_append_blank last c h]
    | [left] =>
      simp only [List.cons_append, List.nil_append, readAlternatives_append_blank last c h]
    | [_, _] => rfl
    | _ :: _ :: _ :: _ => rfl

private theorem readLine_stripReturn (previous : Option Symbol) (line : Text) :
    readLine previous (Text.stripReturn line) = readLine previous line := by
  unfold Text.stripReturn
  split
  · next hlast =>
    obtain ⟨front, rfl⟩ := List.getLast?_eq_some_iff.mp hlast
    rw [List.dropLast_concat, readLine_append_blank previous front '\r' (by decide)]
  · rfl

/-- Lines are read as the pieces between line feeds. -/
private theorem readLines_closeLines (g : Grammar) (previous : Option Symbol) (number : Nat)
    (pieces : List Text) :
    readLines g previous number (Text.closeLines pieces) = readLines g previous number pieces := by
  induction pieces using Text.closeLines.induct generalizing g previous number with
  | case1 => rfl
  | case2 => rfl
  | case3 last hlast => rw [Text.closeLines, if_neg hlast]
  | case4 piece next rest ih =>
    rw [Text.closeLines, readLines, readLines, readLine_stripReturn]
    split
    · rfl
    · exact ih g previous (number + 1)
    · next head alternatives _ => exact ih (g.extend head alternatives) (some head) (number + 1)

/-- Reading a text again from its lines changes nothing. -/
theorem read_intercalate_lines (source : String) :
    read ("\n".intercalate ((Text.lines source.toList).map String.ofList)) = read source := by
  have hfeed : ∀ l ∈ Text.lines source.toList, '\n' ∉ l :=
    Text.not_mem_closeLines '\n' _ (fun piece h => (Text.mem_splitOn '\n' _ piece h).2)
  have htext : ("\n".intercalate ((Text.lines source.toList).map String.ofList)).toList =
      ['\n'].intercalate (Text.lines source.toList) := by
    rw [String.toList_intercalate, List.map_map]
    simp [Function.comp_def]
  rw [read, htext, Text.lines_intercalate_eq_closeLines _ hfeed, readLines_closeLines]
  rfl

end Grammar

end Predictive
