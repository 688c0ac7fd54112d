import Predictive.Text.Ranges
/-!
# Byte sequences of characters

The characters of a range are written in UTF-8 by few patterns of bytes, each of which has a range
of bytes in every place. `byteRanges` lists them in ascending order.
-/
namespace Predictive

/-- The bytes of a code point. -/
def utf8Bytes (n : Nat) : List Nat :=
  if n < 0x80 then [n]
  else if n < 0x800 then [0xC0 + n / 64, 0x80 + n % 64]
  else if n < 0x10000 then [0xE0 + n / 4096, 0x80 + n / 64 % 64, 0x80 + n % 64]
  else [0xF0 + n / 262144, 0x80 + n / 4096 % 64, 0x80 + n / 64 % 64, 0x80 + n % 64]

/-- Splits a range so that the code points of a piece either share all but their last bytes or run
through all values of these. The sizes are the numbers of code points that share all but their last
byte, their last two, and so on. -/
def splitBlocks : List Nat → Nat → Nat → Ranges
  | [], low, high => [(low, high)]
  | size :: sizes, low, high =>
    if low / size = high / size then [(low, high)]
    else
      let first := if low % size = 0 then low / size else low / size + 1
      let last := if high % size = size - 1 then high / size + 1 else high / size
      (if low % size = 0 then [] else [(low, first * size - 1)]) ++
        (if first < last then splitBlocks sizes (first * size) (last * size - 1) else []) ++
        if high % size = size - 1 then [] else [(last * size, high)]

/-- The code points of two, three and four bytes without the surrogates. -/
def longClasses : Ranges :=
  [(0x80, 0x7FF), (0x800, 0xD7FF), (0xE000, 0xFFFF), (0x10000, 0x10FFFF)]

/-- The part of a range that lies in a class of code points, in the pieces that the sizes give. -/
def piecesWithin (sizes : List Nat) (r s : Nat × Nat) : Ranges :=
  let low := Nat.max r.1 s.1
  let high := Nat.min r.2 s.2
  if low ≤ high then splitBlocks sizes low high else []

/-- The patterns of bytes for the characters of a range. A single byte has no blocks. -/
def byteRanges (r : Nat × Nat) : List Ranges :=
  (piecesWithin [] r (0, 0x7F) ++
      longClasses.flatMap (piecesWithin [64, 4096, 262144] r)).map
    (fun piece => (utf8Bytes piece.1).zip (utf8Bytes piece.2))

end Predictive
