import Predictive.Unicode.Derived
import Predictive.Unicode.Emoji
/-!
# Properties that a character has or has not

The names of the binary properties, in their loose form.
-/
namespace Predictive.Unicode

def properties : List NamedSet :=
  [⟨["asciihexdigit", "ahex"], Ranges.inter hexDigits [(0, 0x7F)]⟩,
    ⟨["alphabetic", "alpha"], alphabetic⟩,
    ⟨["bidicontrol", "bidic"], bidiControls⟩,
    ⟨["caseignorable", "ci"], caseIgnorable⟩,
    ⟨["cased"], cased⟩,
    ⟨["changeswhencasefolded", "cwcf"], changesWhenCasefolded⟩,
    ⟨["changeswhencasemapped", "cwcm"], changesWhenCasemapped⟩,
    ⟨["changeswhenlowercased", "cwl"], changesWhenLowercased⟩,
    ⟨["changeswhentitlecased", "cwt"], changesWhenTitlecased⟩,
    ⟨["changeswhenuppercased", "cwu"], changesWhenUppercased⟩,
    ⟨["dash"], dashes⟩,
    ⟨["defaultignorablecodepoint", "di"], defaultIgnorable⟩,
    ⟨["deprecated", "dep"], deprecated⟩,
    ⟨["diacritic", "dia"], diacritics⟩,
    ⟨["emoji"], emoji⟩,
    ⟨["emojicomponent", "ecomp"], emojiComponents⟩,
    ⟨["emojimodifier", "emod"], emojiModifiers⟩,
    ⟨["emojimodifierbase", "ebase"], emojiModifierBases⟩,
    ⟨["emojipresentation", "epres"], emojiPresentation⟩,
    ⟨["extendedpictographic", "extpict"], pictographic⟩,
    ⟨["extender", "ext"], extenders⟩,
    ⟨["graphemebase", "grbase"], graphemeBase⟩,
    ⟨["graphemeextend", "grext"], graphemeExtend⟩,
    ⟨["graphemelink", "grlink"], graphemeLinks⟩,
    ⟨["hexdigit", "hex"], hexDigits⟩,
    ⟨["hyphen"], hyphens⟩,
    ⟨["idsbinaryoperator", "idsb"], binaryDescriptions⟩,
    ⟨["idstrinaryoperator", "idst"], ternaryDescriptions⟩,
    ⟨["idsunaryoperator", "idsu"], unaryDescriptions⟩,
    ⟨["idcompatmathcontinue"], mathCompatContinue⟩,
    ⟨["idcompatmathstart"], mathCompatStart⟩,
    ⟨["idcontinue", "idc"], idContinue⟩,
    ⟨["idstart", "ids"], idStart⟩,
    ⟨["ideographic", "ideo"], ideographic⟩,
    ⟨["joincontrol", "joinc"], joinControls⟩,
    ⟨["logicalorderexception", "loe"], logicalOrderExceptions⟩,
    ⟨["lowercase", "lower"], lowercase⟩,
    ⟨["math"], math⟩,
    ⟨["modifiercombiningmark", "mcm"], modifierCombiningMarks⟩,
    ⟨["noncharactercodepoint", "nchar"], noncharacters⟩,
    ⟨["otheralphabetic", "oalpha"], otherAlphabetic⟩,
    ⟨["otherdefaultignorablecodepoint", "odi"], otherDefaultIgnorable⟩,
    ⟨["othergraphemeextend", "ogrext"], otherGraphemeExtend⟩,
    ⟨["otheridcontinue", "oidc"], otherIdContinue⟩,
    ⟨["otheridstart", "oids"], otherIdStart⟩,
    ⟨["otherlowercase", "olower"], otherLowercase⟩,
    ⟨["othermath", "omath"], otherMath⟩,
    ⟨["otheruppercase", "oupper"], otherUppercase⟩,
    ⟨["patternsyntax", "patsyn"], patternSyntax⟩,
    ⟨["patternwhitespace", "patws"], patternBlanks⟩,
    ⟨["prependedconcatenationmark", "pcm"], prependedMarks⟩,
    ⟨["quotationmark", "qmark"], quotationMarks⟩,
    ⟨["radical"], radicals⟩,
    ⟨["regionalindicator", "ri"], regionalIndicators⟩,
    ⟨["sentenceterminal", "sterm"], sentenceTerminals⟩,
    ⟨["softdotted", "sd"], softDotted⟩,
    ⟨["terminalpunctuation", "term"], terminalPunctuation⟩,
    ⟨["unifiedideograph", "uideo"], unifiedIdeographs⟩,
    ⟨["uppercase", "upper"], uppercase⟩,
    ⟨["variationselector", "vs"], variationSelectors⟩,
    ⟨["whitespace", "wspace", "space"], blankRanges⟩,
    ⟨["xidcontinue", "xidc"], Ranges.diff idContinue unstableContinue⟩,
    ⟨["xidstart", "xids"], Ranges.diff idStart unstableStart⟩]

end Predictive.Unicode
