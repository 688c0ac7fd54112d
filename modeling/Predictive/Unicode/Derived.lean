import Predictive.Unicode.CaseChange
import Predictive.Unicode.Category
import Predictive.Unicode.Contributory
import Predictive.Unicode.Traits
/-!
# Derived properties

Properties that are put together from general categories and from listed characters.
-/
namespace Predictive.Unicode

def lowercase : Ranges := Ranges.union lowercaseLetters otherLowercase

def uppercase : Ranges := Ranges.union uppercaseLetters otherUppercase

def cased : Ranges := Ranges.unions [lowercase, uppercase, titlecaseLetters]

def alphabetic : Ranges :=
  Ranges.unions [cased, modifierLetters, otherLetters, letterNumbers, otherAlphabetic]

def math : Ranges := Ranges.union mathSymbols otherMath

def ideographic : Ranges := Ranges.union unifiedIdeographs otherIdeographic

def graphemeExtend : Ranges := Ranges.unions [nonspacingMarks, enclosingMarks, otherGraphemeExtend]

def graphemeBase : Ranges :=
  Ranges.gaps (Ranges.unions [others, lineSeparators, paragraphSeparators, graphemeExtend])

def idStart : Ranges :=
  Ranges.union otherIdStart
    (Ranges.diff (Ranges.union letters letterNumbers) (Ranges.union patternSyntax patternBlanks))

def idContinue : Ranges :=
  Ranges.unions [idStart, nonspacingMarks, spacingMarks, decimalNumbers, connectors,
    otherIdContinue]

/-- The characters whose compatible normal form may not continue an identifier. -/
def unstableContinue : Ranges :=
  [(0x37A, 0x37A), (0x309B, 0x309C), (0xFC5E, 0xFC63), (0xFDFA, 0xFDFB), (0xFE70, 0xFE70),
    (0xFE72, 0xFE72), (0xFE74, 0xFE74), (0xFE76, 0xFE76), (0xFE78, 0xFE78), (0xFE7A, 0xFE7A),
    (0xFE7C, 0xFE7C), (0xFE7E, 0xFE7E)]

/-- The characters whose compatible normal form may not start an identifier. -/
def unstableStart : Ranges :=
  Ranges.union unstableContinue [(0xE33, 0xE33), (0xEB3, 0xEB3), (0xFF9E, 0xFF9F)]

def defaultIgnorable : Ranges :=
  Ranges.union otherDefaultIgnorable
    (Ranges.diff (Ranges.union formats variationSelectors)
      (Ranges.unions [prependedMarks, [(0xFFF9, 0xFFFB)], [(0x13430, 0x13440)]]))

/-- The signs within words that are ignored when the case of neighbours is looked at. -/
def middleOfWord : Ranges :=
  [(0x27, 0x27), (0x2E, 0x2E), (0x3A, 0x3A), (0xB7, 0xB7), (0x387, 0x387), (0x55F, 0x55F),
    (0x5F4, 0x5F4), (0x2018, 0x2019), (0x2024, 0x2024), (0x2027, 0x2027), (0xFE13, 0xFE13),
    (0xFE52, 0xFE52), (0xFE55, 0xFE55), (0xFF07, 0xFF07), (0xFF0E, 0xFF0E), (0xFF1A, 0xFF1A)]

def caseIgnorable : Ranges :=
  Ranges.unions [nonspacingMarks, enclosingMarks, formats, modifierLetters, modifierSymbols,
    middleOfWord]

def changesWhenLowercased : Ranges :=
  Ranges.diff (Ranges.union uppercase titlecaseLetters) fixedUppercase

def changesWhenUppercased : Ranges :=
  Ranges.union (Ranges.diff lowercaseLetters fixedLowercase) otherUppercasing

def changesWhenTitlecased : Ranges :=
  Ranges.union (Ranges.diff changesWhenUppercased fixedTitlecase) otherTitlecasing

def changesWhenCasefolded : Ranges :=
  Ranges.union (Ranges.diff changesWhenLowercased fixedCasefolding) otherCasefolding

def changesWhenCasemapped : Ranges :=
  Ranges.unions [changesWhenLowercased, changesWhenUppercased, changesWhenTitlecased]

/-- The characters that words are made of: letters, marks, decimal digits, connectors such as the
underscore, and the two join controls. -/
def wordCharacters : Ranges :=
  Ranges.unions [alphabetic, marks, decimalNumbers, connectors, joinControls]

end Predictive.Unicode
