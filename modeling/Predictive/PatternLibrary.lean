import Predictive.Text.Blank
/-!
# Libraries of patterns

How a text is read as a pattern and how a pattern is searched for is left to a library. All that is
seen of it are its answers.
-/
namespace Predictive

/-- A match: the text before it and the text that it covers. -/
structure Match where
  before : Text
  covered : Text
deriving DecidableEq

/-- A library reads a text as a pattern, which gives the search for that pattern, or refuses it.
Further it writes the pattern that stands for a text as it is. -/
structure PatternLibrary where
  compile : Text → Option (Text → Option Match)
  escape : Text → Text

namespace PatternLibrary

/-- The text that a pattern is read from: the given pattern at the start of the text. -/
def anchored (pattern : Text) : Text := "^(?:".toList ++ pattern ++ ")".toList

/-- The pattern of a word with a word boundary on either side. -/
def keywordPattern (lib : PatternLibrary) (word : Text) : Text :=
  "\\b".toList ++ lib.escape word ++ "\\b".toList

end PatternLibrary

end Predictive
