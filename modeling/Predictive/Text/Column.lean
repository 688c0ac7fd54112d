/-!
# Columns of plain text

The width of a column is the greatest number of bytes that a cell takes in UTF-8, while the blanks
on the left of a cell are counted in characters. A cell therefore never exceeds its column, since a
character takes at least one byte.

It is assumed that a width may be any number. A formatter that keeps the widths it is given in 16 bits
does not lay out columns of more than 65535 bytes.
-/
namespace Predictive

namespace Column

/-- The byte count of the widest cell. -/
def width (cells : List String) : Nat := (cells.map String.utf8ByteSize).foldl max 0

/-- The cell behind as many spaces as it lacks characters to the given width, however large that
is. -/
def alignRight (width : Nat) (cell : String) : String :=
  "".pushn ' ' (width - cell.length) ++ cell

end Column

end Predictive
