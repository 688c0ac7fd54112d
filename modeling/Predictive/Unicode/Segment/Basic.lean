import Predictive.Unicode.Emoji
import Predictive.Unicode.Property
import Predictive.Unicode.Script.Lookup
import Predictive.Unicode.Segment.Exceptions
/-!
# Classes for text segmentation

The classes by which text is split into grapheme clusters, words and sentences. A character that is
in none of the classes has no special part there.
-/
namespace Predictive.Unicode

/-- The two ends of a line break. -/
def lineBreaks : Ranges := [(0xA, 0xA), (0xD, 0xD)]

/-- The joiners, which bind characters to each other or keep them apart. -/
def joiners : Ranges := [(0x200C, 0x200D)]

def clusterExtend : Ranges := Ranges.union graphemeExtend emojiModifiers

def clusterControls : Ranges :=
  Ranges.diff
    (Ranges.unions [lineSeparators, paragraphSeparators, controls, formats,
      Ranges.inter unassigned defaultIgnorable])
    (Ranges.unions [lineBreaks, joiners, prependedMarks, [(0xE0020, 0xE007F)]])

/-- The syllables without a final consonant, one in every 28. -/
def openSyllables : Ranges :=
  (List.range 399).map (fun n => (0xAC00 + 28 * n, 0xAC00 + 28 * n))

def clusterClasses : List NamedSet :=
  [⟨["control", "cn"], clusterControls⟩,
    ⟨["cr"], [(0xD, 0xD)]⟩,
    ⟨["lf"], [(0xA, 0xA)]⟩,
    ⟨["extend", "ex"], clusterExtend⟩,
    ⟨["prepend", "pp"], Ranges.union prependedMarks precedingConsonants⟩,
    ⟨["spacingmark", "sm"],
      Ranges.union attachedVowels
        (Ranges.diff spacingMarks
          (Ranges.unions [clusterExtend, detachedMarks, kiratRaiVowels]))⟩,
    ⟨["l"], leadingHangul⟩,
    ⟨["v"], Ranges.union vowelHangul kiratRaiVowels⟩,
    ⟨["t"], trailingHangul⟩,
    ⟨["lv"], openSyllables⟩,
    ⟨["lvt"], Ranges.diff [(0xAC00, 0xD7A3)] openSyllables⟩,
    ⟨["zwj"], [(0x200D, 0x200D)]⟩,
    ⟨["regionalindicator", "ri"], regionalIndicators⟩]

def wordExtend : Ranges := Ranges.unions [graphemeExtend, spacingMarks, emojiModifiers]

def membersOfScript (name : String) : Ranges := (charactersOfScript name).getD []

def wordKatakana : Ranges := Ranges.union (membersOfScript "katakana") otherKatakana

def hebrewLetters : Ranges := Ranges.inter (membersOfScript "hebrew") otherLetters

def wordLetters : Ranges :=
  Ranges.diff (Ranges.union alphabetic otherWordLetters)
    (Ranges.unions [ideographic, wordKatakana, complexScriptLetters, membersOfScript "hiragana",
      wordExtend, hebrewLetters])

def wordClasses : List NamedSet :=
  [⟨["cr"], [(0xD, 0xD)]⟩,
    ⟨["lf"], [(0xA, 0xA)]⟩,
    ⟨["newline", "nl"], [(0xB, 0xC), (0x85, 0x85), (0x2028, 0x2029)]⟩,
    ⟨["extend"], wordExtend⟩,
    ⟨["zwj"], [(0x200D, 0x200D)]⟩,
    ⟨["regionalindicator", "ri"], regionalIndicators⟩,
    ⟨["format", "fo"], Ranges.diff formats (Ranges.union wordExtend [(0x200B, 0x200D)])⟩,
    ⟨["katakana", "ka"], wordKatakana⟩,
    ⟨["hebrewletter", "hl"], hebrewLetters⟩,
    ⟨["aletter", "le"], wordLetters⟩,
    ⟨["singlequote", "sq"], [(0x27, 0x27)]⟩,
    ⟨["doublequote", "dq"], [(0x22, 0x22)]⟩,
    ⟨["midnumlet", "mb"], middleBoth⟩,
    ⟨["midletter", "ml"], middleLetters⟩,
    ⟨["midnum", "mn"], middleNumbers⟩,
    ⟨["numeric", "nu"], Ranges.union decimalNumbers [(0x66B, 0x66B)]⟩,
    ⟨["extendnumlet", "ex"], extendBoth⟩,
    ⟨["wsegspace"], wordSpaces⟩]

def sentenceBreaks : Ranges := [(0x85, 0x85), (0x2028, 0x2029)]

def sentenceSpaces : Ranges :=
  Ranges.diff blankRanges (Ranges.union sentenceBreaks lineBreaks)

def sentenceExtend : Ranges := Ranges.unions [graphemeExtend, spacingMarks, [(0x200D, 0x200D)]]

/-- The Georgian letters are kept out of the cases, since a sentence does not start with a capital
there. -/
def sentenceLower : Ranges :=
  Ranges.diff lowercase (Ranges.unions [graphemeExtend, [(0x10D0, 0x10FA)], [(0x10FD, 0x10FF)]])

def sentenceUpper : Ranges :=
  Ranges.diff (Ranges.union uppercase titlecaseLetters) [(0x1C90, 0x1CBA), (0x1CBD, 0x1CBF)]

def sentenceClasses : List NamedSet :=
  [⟨["cr"], [(0xD, 0xD)]⟩,
    ⟨["lf"], [(0xA, 0xA)]⟩,
    ⟨["extend", "ex"], sentenceExtend⟩,
    ⟨["sep", "se"], sentenceBreaks⟩,
    ⟨["format", "fo"], Ranges.diff formats (Ranges.union sentenceExtend joiners)⟩,
    ⟨["sp"], sentenceSpaces⟩,
    ⟨["lower", "lo"], sentenceLower⟩,
    ⟨["upper", "up"], sentenceUpper⟩,
    ⟨["oletter", "le"],
      Ranges.diff (Ranges.unions [alphabetic, [(0xA0, 0xA0)], [(0x5F3, 0x5F3)]])
        (Ranges.unions [sentenceLower, sentenceUpper, sentenceExtend])⟩,
    ⟨["numeric", "nu"], Ranges.union decimalNumbers [(0x66B, 0x66C)]⟩,
    ⟨["aterm", "at"], fullStops⟩,
    ⟨["scontinue", "sc"], sentenceContinuations⟩,
    ⟨["sterm", "st"], Ranges.diff sentenceTerminals fullStops⟩,
    ⟨["close", "cl"],
      Ranges.diff
        (Ranges.unions [openPunctuation, closePunctuation, quotePunctuation, ambiguousQuotes])
        (Ranges.unions [fullStops, sentenceTerminals, [(0x5F3, 0x5F3)]])⟩]

end Predictive.Unicode
