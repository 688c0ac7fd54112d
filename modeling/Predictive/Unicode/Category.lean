import Predictive.Unicode.Controls
import Predictive.Unicode.Letters
import Predictive.Unicode.Marks
import Predictive.Unicode.NamedSet
import Predictive.Unicode.Numbers
import Predictive.Unicode.Punctuation
import Predictive.Unicode.Symbols
/-!
# General categories

Every code point has exactly one of the thirty categories; the others are unions of these. The
surrogates are no characters, so their category has no name here.
-/
namespace Predictive.Unicode

def casedLetters : Ranges := Ranges.unions [uppercaseLetters, lowercaseLetters, titlecaseLetters]

def letters : Ranges := Ranges.unions [casedLetters, modifierLetters, otherLetters]

def marks : Ranges := Ranges.unions [nonspacingMarks, spacingMarks, enclosingMarks]

def numbers : Ranges := Ranges.unions [decimalNumbers, letterNumbers, otherNumbers]

def quotePunctuation : Ranges := Ranges.union initialQuotes finalQuotes

def punctuation : Ranges :=
  Ranges.unions [connectors, dashPunctuation, openPunctuation, closePunctuation, quotePunctuation,
    otherPunctuation]

def symbols : Ranges :=
  Ranges.unions [mathSymbols, currencySymbols, modifierSymbols, otherSymbols]

def separators : Ranges := Ranges.unions [spaceSeparators, lineSeparators, paragraphSeparators]

/-- The code points that are assigned to characters, surrogates or private use. -/
def assigned : Ranges :=
  Ranges.unions [letters, marks, numbers, punctuation, symbols, separators, controls, formats,
    surrogates, privateUse]

def unassigned : Ranges := Ranges.gaps assigned

def others : Ranges := Ranges.unions [controls, formats, surrogates, privateUse, unassigned]

def categories : List NamedSet :=
  [⟨["any"], Ranges.all⟩,
    ⟨["assigned"], Ranges.compl unassigned⟩,
    ⟨["ascii"], [(0, 0x7F)]⟩,
    ⟨["l", "letter"], letters⟩,
    ⟨["lc", "casedletter"], casedLetters⟩,
    ⟨["lu", "uppercaseletter"], uppercaseLetters⟩,
    ⟨["ll", "lowercaseletter"], lowercaseLetters⟩,
    ⟨["lt", "titlecaseletter"], titlecaseLetters⟩,
    ⟨["lm", "modifierletter"], modifierLetters⟩,
    ⟨["lo", "otherletter"], otherLetters⟩,
    ⟨["m", "mark", "combiningmark"], marks⟩,
    ⟨["mn", "nonspacingmark"], nonspacingMarks⟩,
    ⟨["mc", "spacingmark"], spacingMarks⟩,
    ⟨["me", "enclosingmark"], enclosingMarks⟩,
    ⟨["n", "number"], numbers⟩,
    ⟨["nd", "decimalnumber", "digit"], decimalNumbers⟩,
    ⟨["nl", "letternumber"], letterNumbers⟩,
    ⟨["no", "othernumber"], otherNumbers⟩,
    ⟨["p", "punctuation", "punct"], punctuation⟩,
    ⟨["pc", "connectorpunctuation"], connectors⟩,
    ⟨["pd", "dashpunctuation"], dashPunctuation⟩,
    ⟨["ps", "openpunctuation"], openPunctuation⟩,
    ⟨["pe", "closepunctuation"], closePunctuation⟩,
    ⟨["pi", "initialpunctuation"], initialQuotes⟩,
    ⟨["pf", "finalpunctuation"], finalQuotes⟩,
    ⟨["po", "otherpunctuation"], otherPunctuation⟩,
    ⟨["s", "symbol"], symbols⟩,
    ⟨["sm", "mathsymbol"], mathSymbols⟩,
    ⟨["sc", "currencysymbol"], currencySymbols⟩,
    ⟨["sk", "modifiersymbol"], modifierSymbols⟩,
    ⟨["so", "othersymbol"], otherSymbols⟩,
    ⟨["z", "separator"], separators⟩,
    ⟨["zs", "spaceseparator"], spaceSeparators⟩,
    ⟨["zl", "lineseparator"], lineSeparators⟩,
    ⟨["zp", "paragraphseparator"], paragraphSeparators⟩,
    ⟨["c", "isc", "other"], others⟩,
    ⟨["cc", "control", "cntrl"], controls⟩,
    ⟨["cf", "format"], formats⟩,
    ⟨["cn", "unassigned"], unassigned⟩,
    ⟨["co", "privateuse"], privateUse⟩]

end Predictive.Unicode
