import Predictive.Proofs.Text.Pieces
/-!
# Lines of bytes

The byte of a line feed is part of no other character. So the pieces of a text between its line
feeds, in bytes, are the pieces of its bytes between the bytes of line feeds, and bytes stand for a
text just if all these pieces do.
-/
namespace Predictive

namespace Text

/-- The bytes of a text in UTF-8. -/
def bytes (text : Text) : List UInt8 := text.flatMap String.utf8EncodeChar

private theorem toByteArray_bytes (text : Text) : (bytes text).toByteArray = text.utf8Encode := rfl

private theorem eq_newline_of_mem_utf8EncodeChar (c : Char) (h : 10 ∈ String.utf8EncodeChar c) :
    c = '\n' := by
  have hbyte (n : Nat) (hn : 10 = UInt8.ofNat n) : n % 256 = 10 := by
    simpa using (congrArg UInt8.toNat hn).symm
  simp only [String.utf8EncodeChar] at h
  split at h
  · have hcode := hbyte _ (List.mem_singleton.mp h)
    apply Char.ext
    apply UInt32.toNat_inj.mp
    simp only [Char.reduceVal, UInt32.reduceToNat]
    omega
  · -- All bytes of a longer sequence are at least 0x80.
    exfalso
    split at h
    · simp only [List.mem_cons, List.not_mem_nil, or_false] at h
      rcases h with h | h <;> have hcode := hbyte _ h <;> omega
    · split at h <;> simp only [List.mem_cons, List.not_mem_nil, or_false] at h
      · rcases h with h | h | h <;> have hcode := hbyte _ h <;> omega
      · rcases h with h | h | h | h <;> have hcode := hbyte _ h <;> omega

private theorem newline_not_mem_bytes (text : Text) (h : '\n' ∉ text) : 10 ∉ bytes text := by
  intro hmem
  obtain ⟨c, hc, hbyte⟩ := List.mem_flatMap.mp hmem
  exact h (eq_newline_of_mem_utf8EncodeChar c hbyte ▸ hc)

private theorem bytes_intercalate (pieces : List Text) :
    bytes (['\n'].intercalate pieces) = [10].intercalate (pieces.map bytes) := by
  induction pieces with
  | nil => rfl
  | cons piece pieces ih =>
    cases pieces with
    | nil => simp
    | cons next rest =>
      rw [List.intercalate_cons_cons, List.map_cons, List.map_cons, List.intercalate_cons_cons,
        ← List.map_cons, ← ih]
      simp only [bytes, List.flatMap_append]
      rfl

theorem splitOn_bytes (text : Text) : (bytes text).splitOn 10 = (text.splitOn '\n').map bytes := by
  have hpieces : ∀ piece ∈ (text.splitOn '\n').map bytes, 10 ∉ piece := by
    intro piece hpiece
    obtain ⟨line, hline, rfl⟩ := List.mem_map.mp hpiece
    exact newline_not_mem_bytes line (mem_splitOn '\n' text line hline).2
  have hne : (text.splitOn '\n').map bytes ≠ [] :=
    fun hnil => List.splitOn_ne_nil '\n' text (List.map_eq_nil_iff.mp hnil)
  calc (bytes text).splitOn 10
      = (bytes (['\n'].intercalate (text.splitOn '\n'))).splitOn 10 := by
        rw [List.intercalate_splitOn]
    _ = ([10].intercalate ((text.splitOn '\n').map bytes)).splitOn 10 := by rw [bytes_intercalate]
    _ = (text.splitOn '\n').map bytes := List.splitOn_intercalate 10 hpieces hne

theorem eq_bytes_of_pieces (bs : List UInt8) (pieces : List Text)
    (h : bs.splitOn 10 = pieces.map bytes) : bs = bytes (['\n'].intercalate pieces) := by
  rw [bytes_intercalate, ← h, List.intercalate_splitOn]

theorem fromUTF8?_bytes (text : Text) :
    String.fromUTF8? (bytes text).toByteArray = some (String.ofList text) := by
  have hvalid : (bytes text).toByteArray.IsValidUTF8 := .intro text rfl
  rw [String.fromUTF8?, dif_pos hvalid]
  apply congrArg some
  apply String.toByteArray_inj.mp
  rw [String.toByteArray_ofList]
  rfl

theorem eq_bytes_of_fromUTF8? (bs : List UInt8) (s : String)
    (h : String.fromUTF8? bs.toByteArray = some s) : bs = bytes s.toList := by
  unfold String.fromUTF8? at h
  split at h
  · injection h with h
    subst h
    apply List.toByteArray_inj.mp
    rw [toByteArray_bytes, String.utf8Encode_toList]
    rfl
  · cases h

end Text

end Predictive
