import Predictive.Text.Blank
/-!
# Lines of a text

A line ends at a line feed, and a carriage return just before the line feed belongs to the line
end. What follows the last line feed is a line only if it is not empty.
-/
namespace Predictive

namespace Text

def stripReturn (line : Text) : Text :=
  if line.getLast? = some '\r' then line.dropLast else line

/-- Turns the pieces between line feeds into lines. -/
def closeLines : List Text → List Text
  | [] => []
  | [last] => if last = [] then [] else [last]
  | piece :: next :: rest => stripReturn piece :: closeLines (next :: rest)

def lines (text : Text) : List Text := closeLines (text.splitOn '\n')

/-- The pieces between the arrows `->`, of which no two overlap. -/
def splitArrow : Text → List Text
  | [] => [[]]
  | '-' :: '>' :: text => [] :: splitArrow text
  | c :: text =>
    match splitArrow text with
    | [] => [[c]]
    | piece :: pieces => (c :: piece) :: pieces

end Text

end Predictive
