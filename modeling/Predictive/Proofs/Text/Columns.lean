import Mathlib.Algebra.GroupWithZero.Nat
import Predictive.Proofs.Text.Pieces
import Predictive.Text.Column
/-!
# Aligned cells

The width of a column counts bytes and the blanks in front of a cell count characters. A cell has no
more characters than bytes, so no cell exceeds its column, and behind its blanks each cell has as
many characters as its column is wide.
-/
namespace Predictive

theorem Text.length_intercalate (separator : Text) (pieces : List Text) :
    (separator.intercalate pieces).length =
      (pieces.map List.length).sum + separator.length * (pieces.length - 1) := by
  induction pieces with
  | nil => rfl
  | cons piece pieces ih =>
    cases pieces with
    | nil => simp
    | cons next rest =>
      rw [List.intercalate_cons_cons, List.length_append, List.length_append, ih]
      simp only [List.map_cons, List.sum_cons, List.length_cons, Nat.add_sub_cancel, Nat.mul_add,
        Nat.mul_one]
      omega

namespace Column

private theorem length_le_utf8ByteSize_ofList (text : Text) :
    text.length ≤ (String.ofList text).utf8ByteSize := by
  induction text with
  | nil => exact Nat.zero_le _
  | cons c text ih =>
    have hsplit : String.ofList (c :: text) = String.singleton c ++ String.ofList text := by
      rw [String.singleton_eq_ofList, ← String.ofList_append, List.singleton_append]
    rw [hsplit, String.utf8ByteSize_append, String.utf8ByteSize_singleton, List.length_cons,
      Nat.add_comm]
    exact Nat.add_le_add c.utf8Size_pos ih

private theorem length_le_utf8ByteSize (s : String) : s.length ≤ s.utf8ByteSize := by
  have hbytes := length_le_utf8ByteSize_ofList s.toList
  rwa [String.ofList_toList, String.length_toList] at hbytes

theorem toList_alignRight (width : Nat) (cell : String) :
    (alignRight width cell).toList = List.replicate (width - cell.length) ' ' ++ cell.toList := by
  rw [alignRight, String.toList_append, Text.toList_pushn]
  rfl

theorem length_alignRight (width : Nat) (cell : String) (h : cell.length ≤ width) :
    (alignRight width cell).length = width := by
  rw [← String.length_toList, toList_alignRight, List.length_append, List.length_replicate,
    String.length_toList]
  omega

theorem length_le_width (cells : List String) (cell : String) (h : cell ∈ cells) :
    cell.length ≤ width cells := by
  have hsize : cell.utf8ByteSize ≤ (cells.map String.utf8ByteSize).max?.getD 0 :=
    List.le_max?_getD_of_mem (List.mem_map_of_mem h)
  rw [width, List.foldl_max]
  exact (length_le_utf8ByteSize cell).trans (hsize.trans (Nat.le_max_right ..))

end Column

end Predictive
