/-!
# Blank characters and the words between them

A character is blank if it has the Unicode property White_Space. Words are the maximal runs without
blanks.
-/
namespace Predictive

abbrev Text := List Char

/-- The ranges of code points with the property White_Space. -/
def blankRanges : List (Nat × Nat) :=
  [(0x9, 0xD), (0x20, 0x20), (0x85, 0x85), (0xA0, 0xA0), (0x1680, 0x1680), (0x2000, 0x200A),
    (0x2028, 0x2029), (0x202F, 0x202F), (0x205F, 0x205F), (0x3000, 0x3000)]

def isBlank (c : Char) : Bool :=
  blankRanges.any (fun r => r.1 ≤ c.toNat && c.toNat ≤ r.2)

namespace Text

/-- The text without the blanks at its two ends. -/
def trim (text : Text) : Text :=
  ((text.dropWhile isBlank).reverse.dropWhile isBlank).reverse

def words (text : Text) : List Text :=
  (text.splitOnP isBlank).filter (fun word => word ≠ [])

theorem words_append_blank (before after : Text) (c : Char) (h : isBlank c = true) :
    words (before ++ c :: after) = words before ++ words after := by
  rw [words, words, words, List.splitOnP_append_cons before after h, List.filter_append]

theorem words_of_solid (text : Text) (hne : text ≠ []) (h : ∀ c ∈ text, isBlank c = false) :
    words text = [text] := by
  rw [words, List.splitOnP_eq_singleton h]
  simp [hne]

end Text

end Predictive
