import Predictive.Unicode.Script.Basic
/-!
# Scripts from M to Z

The scripts whose short names start with the letters from M to Z, as of Unicode 16.0.
-/
namespace Predictive.Unicode

def scriptsFromM : List Script :=
  [⟨⟨["mahj", "mahajani"], [(0x11150, 0x11176)]⟩, [(0xB7, 0xB7), (0x964, 0x96F), (0xA830, 0xA839)]⟩,
    ⟨⟨["maka", "makasar"], [(0x11EE0, 0x11EF8)]⟩, []⟩,
    ⟨⟨["mand", "mandaic"], [(0x840, 0x85B), (0x85E, 0x85E)]⟩, [(0x640, 0x640)]⟩,
    ⟨⟨["mani", "manichaean"], [(0x10AC0, 0x10AE6), (0x10AEB, 0x10AF6)]⟩, [(0x640, 0x640)]⟩,
    ⟨⟨["marc", "marchen"], [(0x11C70, 0x11C8F), (0x11C92, 0x11CA7), (0x11CA9, 0x11CB6)]⟩, []⟩,
    ⟨⟨["medf", "medefaidrin"], [(0x16E40, 0x16E9A)]⟩, []⟩,
    ⟨⟨["mend", "mendekikakui"], [(0x1E800, 0x1E8C4), (0x1E8C7, 0x1E8D6)]⟩, []⟩,
    ⟨⟨["merc", "meroiticcursive"], [(0x109A0, 0x109B7), (0x109BC, 0x109CF), (0x109D2, 0x109FF)]⟩,
      []⟩,
    ⟨⟨["mero", "meroitichieroglyphs"], [(0x10980, 0x1099F)]⟩, [(0x205D, 0x205D)]⟩,
    ⟨⟨["mlym", "malayalam"], [(0xD00, 0xD0C), (0xD0E, 0xD10), (0xD12, 0xD44), (0xD46, 0xD48),
      (0xD4A, 0xD4F), (0xD54, 0xD63), (0xD66, 0xD7F)]⟩, [(0x951, 0x952), (0x964, 0x965),
      (0x1CDA, 0x1CDA), (0x1CF2, 0x1CF2), (0xA830, 0xA832)]⟩,
    ⟨⟨["modi"], [(0x11600, 0x11644), (0x11650, 0x11659)]⟩, [(0xA830, 0xA839)]⟩,
    ⟨⟨["mong", "mongolian"], [(0x1800, 0x1801), (0x1804, 0x1804), (0x1806, 0x1819),
      (0x1820, 0x1878), (0x1880, 0x18AA), (0x11660, 0x1166C)]⟩, [(0x1802, 0x1803), (0x1805, 0x1805),
      (0x202F, 0x202F), (0x3001, 0x3002), (0x3008, 0x300B)]⟩,
    ⟨⟨["mroo", "mro"], [(0x16A40, 0x16A5E), (0x16A60, 0x16A69), (0x16A6E, 0x16A6F)]⟩, []⟩,
    ⟨⟨["mtei", "meeteimayek"], [(0xAAE0, 0xAAF6), (0xABC0, 0xABED), (0xABF0, 0xABF9)]⟩, []⟩,
    ⟨⟨["mult", "multani"], [(0x11280, 0x11286), (0x11288, 0x11288), (0x1128A, 0x1128D),
      (0x1128F, 0x1129D), (0x1129F, 0x112A9)]⟩, [(0xA66, 0xA6F)]⟩,
    ⟨⟨["mymr", "myanmar"], [(0x1000, 0x109F), (0xA9E0, 0xA9FE), (0xAA60, 0xAA7F),
      (0x116D0, 0x116E3)]⟩, [(0xA92E, 0xA92E)]⟩,
    ⟨⟨["nagm", "nagmundari"], [(0x1E4D0, 0x1E4F9)]⟩, []⟩,
    ⟨⟨["nand", "nandinagari"], [(0x119A0, 0x119A7), (0x119AA, 0x119D7), (0x119DA, 0x119E4)]⟩,
      [(0x951, 0x951), (0x964, 0x965), (0xCE6, 0xCEF), (0x1CE9, 0x1CE9), (0x1CF2, 0x1CF2),
      (0x1CFA, 0x1CFA), (0xA830, 0xA835)]⟩,
    ⟨⟨["narb", "oldnortharabian"], [(0x10A80, 0x10A9F)]⟩, []⟩,
    ⟨⟨["nbat", "nabataean"], [(0x10880, 0x1089E), (0x108A7, 0x108AF)]⟩, []⟩,
    ⟨⟨["newa"], [(0x11400, 0x1145B), (0x1145D, 0x11461)]⟩, [(0x951, 0x952), (0x1CD5, 0x1CD5),
      (0x1CD7, 0x1CD8), (0x1CE2, 0x1CE2), (0x1CE9, 0x1CE9), (0x1CEB, 0x1CEB), (0x1CED, 0x1CED)]⟩,
    ⟨⟨["nkoo", "nko"], [(0x7C0, 0x7FA), (0x7FD, 0x7FF)]⟩, [(0x60C, 0x60C), (0x61B, 0x61B),
      (0x61F, 0x61F), (0xFD3E, 0xFD3F)]⟩,
    ⟨⟨["nshu", "nushu"], [(0x16FE1, 0x16FE1), (0x1B170, 0x1B2FB)]⟩, []⟩,
    ⟨⟨["ogam", "ogham"], [(0x1680, 0x169C)]⟩, []⟩,
    ⟨⟨["olck", "olchiki"], [(0x1C50, 0x1C7F)]⟩, []⟩,
    ⟨⟨["onao", "olonal"], [(0x1E5D0, 0x1E5FA), (0x1E5FF, 0x1E5FF)]⟩, [(0x964, 0x965)]⟩,
    ⟨⟨["orkh", "oldturkic"], [(0x10C00, 0x10C48)]⟩, [(0x205A, 0x205A), (0x2E30, 0x2E30)]⟩,
    ⟨⟨["orya", "oriya"], [(0xB01, 0xB03), (0xB05, 0xB0C), (0xB0F, 0xB10), (0xB13, 0xB28),
      (0xB2A, 0xB30), (0xB32, 0xB33), (0xB35, 0xB39), (0xB3C, 0xB44), (0xB47, 0xB48),
      (0xB4B, 0xB4D), (0xB55, 0xB57), (0xB5C, 0xB5D), (0xB5F, 0xB63), (0xB66, 0xB77)]⟩,
      [(0x951, 0x952), (0x964, 0x965), (0x1CDA, 0x1CDA), (0x1CF2, 0x1CF2)]⟩,
    ⟨⟨["osge", "osage"], [(0x104B0, 0x104D3), (0x104D8, 0x104FB)]⟩, [(0x301, 0x301), (0x304, 0x304),
      (0x30B, 0x30B), (0x358, 0x358)]⟩,
    ⟨⟨["osma", "osmanya"], [(0x10480, 0x1049D), (0x104A0, 0x104A9)]⟩, []⟩,
    ⟨⟨["ougr", "olduyghur"], [(0x10F70, 0x10F89)]⟩, [(0x640, 0x640), (0x10AF2, 0x10AF2)]⟩,
    ⟨⟨["palm", "palmyrene"], [(0x10860, 0x1087F)]⟩, []⟩,
    ⟨⟨["pauc", "paucinhau"], [(0x11AC0, 0x11AF8)]⟩, []⟩,
    ⟨⟨["perm", "oldpermic"], [(0x10350, 0x1037A)]⟩, [(0xB7, 0xB7), (0x300, 0x300), (0x306, 0x308),
      (0x313, 0x313), (0x483, 0x483)]⟩,
    ⟨⟨["phag", "phagspa"], [(0xA840, 0xA877)]⟩, [(0x1802, 0x1803), (0x1805, 0x1805),
      (0x202F, 0x202F), (0x3002, 0x3002)]⟩,
    ⟨⟨["phli", "inscriptionalpahlavi"], [(0x10B60, 0x10B72), (0x10B78, 0x10B7F)]⟩, []⟩,
    ⟨⟨["phlp", "psalterpahlavi"], [(0x10B80, 0x10B91), (0x10B99, 0x10B9C), (0x10BA9, 0x10BAF)]⟩,
      [(0x640, 0x640)]⟩,
    ⟨⟨["phnx", "phoenician"], [(0x10900, 0x1091B), (0x1091F, 0x1091F)]⟩, []⟩,
    ⟨⟨["plrd", "miao"], [(0x16F00, 0x16F4A), (0x16F4F, 0x16F87), (0x16F8F, 0x16F9F)]⟩, []⟩,
    ⟨⟨["prti", "inscriptionalparthian"], [(0x10B40, 0x10B55), (0x10B58, 0x10B5F)]⟩, []⟩,
    ⟨⟨["rjng", "rejang"], [(0xA930, 0xA953), (0xA95F, 0xA95F)]⟩, []⟩,
    ⟨⟨["rohg", "hanifirohingya"], [(0x10D00, 0x10D27), (0x10D30, 0x10D39)]⟩, [(0x60C, 0x60C),
      (0x61B, 0x61B), (0x61F, 0x61F), (0x640, 0x640), (0x6D4, 0x6D4)]⟩,
    ⟨⟨["runr", "runic"], [(0x16A0, 0x16EA), (0x16EE, 0x16F8)]⟩, [(0x16EB, 0x16ED)]⟩,
    ⟨⟨["samr", "samaritan"], [(0x800, 0x82D), (0x830, 0x83E)]⟩, [(0x2E31, 0x2E31)]⟩,
    ⟨⟨["sarb", "oldsoutharabian"], [(0x10A60, 0x10A7F)]⟩, []⟩,
    ⟨⟨["saur", "saurashtra"], [(0xA880, 0xA8C5), (0xA8CE, 0xA8D9)]⟩, []⟩,
    ⟨⟨["sgnw", "signwriting"], [(0x1D800, 0x1DA8B), (0x1DA9B, 0x1DA9F), (0x1DAA1, 0x1DAAF)]⟩, []⟩,
    ⟨⟨["shaw", "shavian"], [(0x10450, 0x1047F)]⟩, [(0xB7, 0xB7)]⟩,
    ⟨⟨["shrd", "sharada"], [(0x11180, 0x111DF)]⟩, [(0x951, 0x951), (0x1CD7, 0x1CD7),
      (0x1CD9, 0x1CD9), (0x1CDC, 0x1CDD), (0x1CE0, 0x1CE0), (0x1CEA, 0x1CEA), (0x1CED, 0x1CED),
      (0xA830, 0xA835), (0xA838, 0xA838)]⟩,
    ⟨⟨["sidd", "siddham"], [(0x11580, 0x115B5), (0x115B8, 0x115DD)]⟩, []⟩,
    ⟨⟨["sind", "khudawadi"], [(0x112B0, 0x112EA), (0x112F0, 0x112F9)]⟩, [(0x964, 0x965),
      (0xA830, 0xA839)]⟩,
    ⟨⟨["sinh", "sinhala"], [(0xD81, 0xD83), (0xD85, 0xD96), (0xD9A, 0xDB1), (0xDB3, 0xDBB),
      (0xDBD, 0xDBD), (0xDC0, 0xDC6), (0xDCA, 0xDCA), (0xDCF, 0xDD4), (0xDD6, 0xDD6),
      (0xDD8, 0xDDF), (0xDE6, 0xDEF), (0xDF2, 0xDF4), (0x111E1, 0x111F4)]⟩, [(0x964, 0x965),
      (0x1CF2, 0x1CF2)]⟩,
    ⟨⟨["sogd", "sogdian"], [(0x10F30, 0x10F59)]⟩, [(0x640, 0x640)]⟩,
    ⟨⟨["sogo", "oldsogdian"], [(0x10F00, 0x10F27)]⟩, []⟩,
    ⟨⟨["sora", "sorasompeng"], [(0x110D0, 0x110E8), (0x110F0, 0x110F9)]⟩, []⟩,
    ⟨⟨["soyo", "soyombo"], [(0x11A50, 0x11AA2)]⟩, []⟩,
    ⟨⟨["sund", "sundanese"], [(0x1B80, 0x1BBF), (0x1CC0, 0x1CC7)]⟩, []⟩,
    ⟨⟨["sunu", "sunuwar"], [(0x11BC0, 0x11BE1), (0x11BF0, 0x11BF9)]⟩, [(0x300, 0x301),
      (0x303, 0x303), (0x30D, 0x30D), (0x310, 0x310), (0x32D, 0x32D), (0x331, 0x331)]⟩,
    ⟨⟨["sylo", "sylotinagri"], [(0xA800, 0xA82C)]⟩, [(0x964, 0x965), (0x9E6, 0x9EF)]⟩,
    ⟨⟨["syrc", "syriac"], [(0x700, 0x70D), (0x70F, 0x74A), (0x74D, 0x74F), (0x860, 0x86A)]⟩,
      [(0x303, 0x304), (0x307, 0x308), (0x30A, 0x30A), (0x323, 0x325), (0x32D, 0x32E),
      (0x330, 0x331), (0x60C, 0x60C), (0x61B, 0x61C), (0x61F, 0x61F), (0x640, 0x640),
      (0x64B, 0x655), (0x670, 0x670), (0x1DF8, 0x1DF8), (0x1DFA, 0x1DFA)]⟩,
    ⟨⟨["tagb", "tagbanwa"], [(0x1760, 0x176C), (0x176E, 0x1770), (0x1772, 0x1773)]⟩,
      [(0x1735, 0x1736)]⟩,
    ⟨⟨["takr", "takri"], [(0x11680, 0x116B9), (0x116C0, 0x116C9)]⟩, [(0x964, 0x965),
      (0xA830, 0xA839)]⟩,
    ⟨⟨["tale", "taile"], [(0x1950, 0x196D), (0x1970, 0x1974)]⟩, [(0x300, 0x301), (0x307, 0x308),
      (0x30C, 0x30C), (0x1040, 0x1049)]⟩,
    ⟨⟨["talu", "newtailue"], [(0x1980, 0x19AB), (0x19B0, 0x19C9), (0x19D0, 0x19DA),
      (0x19DE, 0x19DF)]⟩, []⟩,
    ⟨⟨["taml", "tamil"], [(0xB82, 0xB83), (0xB85, 0xB8A), (0xB8E, 0xB90), (0xB92, 0xB95),
      (0xB99, 0xB9A), (0xB9C, 0xB9C), (0xB9E, 0xB9F), (0xBA3, 0xBA4), (0xBA8, 0xBAA),
      (0xBAE, 0xBB9), (0xBBE, 0xBC2), (0xBC6, 0xBC8), (0xBCA, 0xBCD), (0xBD0, 0xBD0),
      (0xBD7, 0xBD7), (0xBE6, 0xBFA), (0x11FC0, 0x11FF1), (0x11FFF, 0x11FFF)]⟩, [(0x951, 0x952),
      (0x964, 0x965), (0x1CDA, 0x1CDA), (0xA8F3, 0xA8F3), (0x11301, 0x11301), (0x11303, 0x11303),
      (0x1133B, 0x1133C)]⟩,
    ⟨⟨["tang", "tangut"], [(0x16FE0, 0x16FE0), (0x17000, 0x187F7), (0x18800, 0x18AFF),
      (0x18D00, 0x18D08)]⟩, [(0x2FF0, 0x2FFF), (0x31EF, 0x31EF)]⟩,
    ⟨⟨["tavt", "taiviet"], [(0xAA80, 0xAAC2), (0xAADB, 0xAADF)]⟩, []⟩,
    ⟨⟨["telu", "telugu"], [(0xC00, 0xC0C), (0xC0E, 0xC10), (0xC12, 0xC28), (0xC2A, 0xC39),
      (0xC3C, 0xC44), (0xC46, 0xC48), (0xC4A, 0xC4D), (0xC55, 0xC56), (0xC58, 0xC5A),
      (0xC5D, 0xC5D), (0xC60, 0xC63), (0xC66, 0xC6F), (0xC77, 0xC7F)]⟩, [(0x951, 0x952),
      (0x964, 0x965), (0x1CD5, 0x1CD6), (0x1CD8, 0x1CD8), (0x1CDA, 0x1CDA), (0x1CF2, 0x1CF2)]⟩,
    ⟨⟨["tfng", "tifinagh"], [(0x2D30, 0x2D67), (0x2D6F, 0x2D70), (0x2D7F, 0x2D7F)]⟩,
      [(0x302, 0x302), (0x304, 0x304), (0x306, 0x309), (0x323, 0x323)]⟩,
    ⟨⟨["tglg", "tagalog"], [(0x1700, 0x1715), (0x171F, 0x171F)]⟩, [(0x1735, 0x1736)]⟩,
    ⟨⟨["thaa", "thaana"], [(0x780, 0x7B1)]⟩, [(0x60C, 0x60C), (0x61B, 0x61C), (0x61F, 0x61F),
      (0x660, 0x669), (0xFDF2, 0xFDF2), (0xFDFD, 0xFDFD)]⟩,
    ⟨⟨["thai"], [(0xE01, 0xE3A), (0xE40, 0xE5B)]⟩, [(0x2BC, 0x2BC), (0x2D7, 0x2D7), (0x303, 0x303),
      (0x331, 0x331)]⟩,
    ⟨⟨["tibt", "tibetan"], [(0xF00, 0xF47), (0xF49, 0xF6C), (0xF71, 0xF97), (0xF99, 0xFBC),
      (0xFBE, 0xFCC), (0xFCE, 0xFD4), (0xFD9, 0xFDA)]⟩, [(0x3008, 0x300B)]⟩,
    ⟨⟨["tirh", "tirhuta"], [(0x11480, 0x114C7), (0x114D0, 0x114D9)]⟩, [(0x951, 0x952),
      (0x964, 0x965), (0x1CD5, 0x1CD5), (0x1CE2, 0x1CE2), (0x1CF2, 0x1CF2), (0xA830, 0xA839)]⟩,
    ⟨⟨["tnsa", "tangsa"], [(0x16A70, 0x16ABE), (0x16AC0, 0x16AC9)]⟩, []⟩,
    ⟨⟨["todr", "todhri"], [(0x105C0, 0x105F3)]⟩, [(0x301, 0x301), (0x304, 0x304), (0x307, 0x307),
      (0x311, 0x311), (0x313, 0x313), (0x35E, 0x35E)]⟩,
    ⟨⟨["toto"], [(0x1E290, 0x1E2AE)]⟩, [(0x2BC, 0x2BC)]⟩,
    ⟨⟨["tutg", "tulutigalari"], [(0x11380, 0x11389), (0x1138B, 0x1138B), (0x1138E, 0x1138E),
      (0x11390, 0x113B5), (0x113B7, 0x113C0), (0x113C2, 0x113C2), (0x113C5, 0x113C5),
      (0x113C7, 0x113CA), (0x113CC, 0x113D5), (0x113D7, 0x113D8), (0x113E1, 0x113E2)]⟩,
      [(0xCE6, 0xCEF), (0x1CF2, 0x1CF2), (0x1CF4, 0x1CF4), (0xA830, 0xA835), (0xA8F1, 0xA8F1)]⟩,
    ⟨⟨["ugar", "ugaritic"], [(0x10380, 0x1039D), (0x1039F, 0x1039F)]⟩, []⟩,
    ⟨⟨["vaii", "vai"], [(0xA500, 0xA62B)]⟩, []⟩,
    ⟨⟨["vith", "vithkuqi"], [(0x10570, 0x1057A), (0x1057C, 0x1058A), (0x1058C, 0x10592),
      (0x10594, 0x10595), (0x10597, 0x105A1), (0x105A3, 0x105B1), (0x105B3, 0x105B9),
      (0x105BB, 0x105BC)]⟩, []⟩,
    ⟨⟨["wara", "warangciti"], [(0x118A0, 0x118F2), (0x118FF, 0x118FF)]⟩, []⟩,
    ⟨⟨["wcho", "wancho"], [(0x1E2C0, 0x1E2F9), (0x1E2FF, 0x1E2FF)]⟩, []⟩,
    ⟨⟨["xpeo", "oldpersian"], [(0x103A0, 0x103C3), (0x103C8, 0x103D5)]⟩, []⟩,
    ⟨⟨["xsux", "cuneiform"], [(0x12000, 0x12399), (0x12400, 0x1246E), (0x12470, 0x12474),
      (0x12480, 0x12543)]⟩, []⟩,
    ⟨⟨["yezi", "yezidi"], [(0x10E80, 0x10EA9), (0x10EAB, 0x10EAD), (0x10EB0, 0x10EB1)]⟩,
      [(0x60C, 0x60C), (0x61B, 0x61B), (0x61F, 0x61F), (0x660, 0x669)]⟩,
    ⟨⟨["yiii", "yi"], [(0xA000, 0xA48C), (0xA490, 0xA4C6)]⟩, [(0x3001, 0x3002), (0x3008, 0x3011),
      (0x3014, 0x301B), (0x30FB, 0x30FB), (0xFF61, 0xFF65)]⟩,
    ⟨⟨["zanb", "zanabazarsquare"], [(0x11A00, 0x11A47)]⟩, []⟩,
    ⟨⟨["zinh", "inherited", "qaai"], [(0x300, 0x36F), (0x485, 0x486), (0x64B, 0x655),
      (0x670, 0x670), (0x951, 0x954), (0x1AB0, 0x1ACE), (0x1CD0, 0x1CD2), (0x1CD4, 0x1CE0),
      (0x1CE2, 0x1CE8), (0x1CED, 0x1CED), (0x1CF4, 0x1CF4), (0x1CF8, 0x1CF9), (0x1DC0, 0x1DFF),
      (0x200C, 0x200D), (0x20D0, 0x20F0), (0x302A, 0x302D), (0x3099, 0x309A), (0xFE00, 0xFE0F),
      (0xFE20, 0xFE2D), (0x101FD, 0x101FD), (0x102E0, 0x102E0), (0x1133B, 0x1133B),
      (0x1CF00, 0x1CF2D), (0x1CF30, 0x1CF46), (0x1D167, 0x1D169), (0x1D17B, 0x1D182),
      (0x1D185, 0x1D18B), (0x1D1AA, 0x1D1AD), (0xE0100, 0xE01EF)]⟩, []⟩,
    ⟨⟨["zyyy", "common"], [(0x0, 0x40), (0x5B, 0x60), (0x7B, 0xA9), (0xAB, 0xB9), (0xBB, 0xBF),
      (0xD7, 0xD7), (0xF7, 0xF7), (0x2B9, 0x2DF), (0x2E5, 0x2E9), (0x2EC, 0x2FF), (0x374, 0x374),
      (0x37E, 0x37E), (0x385, 0x385), (0x387, 0x387), (0x605, 0x605), (0x60C, 0x60C),
      (0x61B, 0x61B), (0x61F, 0x61F), (0x640, 0x640), (0x6DD, 0x6DD), (0x8E2, 0x8E2),
      (0x964, 0x965), (0xE3F, 0xE3F), (0xFD5, 0xFD8), (0x10FB, 0x10FB), (0x16EB, 0x16ED),
      (0x1735, 0x1736), (0x1802, 0x1803), (0x1805, 0x1805), (0x1CD3, 0x1CD3), (0x1CE1, 0x1CE1),
      (0x1CE9, 0x1CEC), (0x1CEE, 0x1CF3), (0x1CF5, 0x1CF7), (0x1CFA, 0x1CFA), (0x2000, 0x200B),
      (0x200E, 0x2064), (0x2066, 0x2070), (0x2074, 0x207E), (0x2080, 0x208E), (0x20A0, 0x20C0),
      (0x2100, 0x2125), (0x2127, 0x2129), (0x212C, 0x2131), (0x2133, 0x214D), (0x214F, 0x215F),
      (0x2189, 0x218B), (0x2190, 0x2429), (0x2440, 0x244A), (0x2460, 0x27FF), (0x2900, 0x2B73),
      (0x2B76, 0x2B95), (0x2B97, 0x2BFF), (0x2E00, 0x2E5D), (0x2FF0, 0x3004), (0x3006, 0x3006),
      (0x3008, 0x3020), (0x3030, 0x3037), (0x303C, 0x303F), (0x309B, 0x309C), (0x30A0, 0x30A0),
      (0x30FB, 0x30FC), (0x3190, 0x319F), (0x31C0, 0x31E5), (0x31EF, 0x31EF), (0x3220, 0x325F),
      (0x327F, 0x32CF), (0x32FF, 0x32FF), (0x3358, 0x33FF), (0x4DC0, 0x4DFF), (0xA700, 0xA721),
      (0xA788, 0xA78A), (0xA830, 0xA839), (0xA92E, 0xA92E), (0xA9CF, 0xA9CF), (0xAB5B, 0xAB5B),
      (0xAB6A, 0xAB6B), (0xFD3E, 0xFD3F), (0xFE10, 0xFE19), (0xFE30, 0xFE52), (0xFE54, 0xFE66),
      (0xFE68, 0xFE6B), (0xFEFF, 0xFEFF), (0xFF01, 0xFF20), (0xFF3B, 0xFF40), (0xFF5B, 0xFF65),
      (0xFF70, 0xFF70), (0xFF9E, 0xFF9F), (0xFFE0, 0xFFE6), (0xFFE8, 0xFFEE), (0xFFF9, 0xFFFD),
      (0x10100, 0x10102), (0x10107, 0x10133), (0x10137, 0x1013F), (0x10190, 0x1019C),
      (0x101D0, 0x101FC), (0x102E1, 0x102FB), (0x1BCA0, 0x1BCA3), (0x1CC00, 0x1CCF9),
      (0x1CD00, 0x1CEB3), (0x1CF50, 0x1CFC3), (0x1D000, 0x1D0F5), (0x1D100, 0x1D126),
      (0x1D129, 0x1D166), (0x1D16A, 0x1D17A), (0x1D183, 0x1D184), (0x1D18C, 0x1D1A9),
      (0x1D1AE, 0x1D1EA), (0x1D2C0, 0x1D2D3), (0x1D2E0, 0x1D2F3), (0x1D300, 0x1D356),
      (0x1D360, 0x1D378), (0x1D400, 0x1D454), (0x1D456, 0x1D49C), (0x1D49E, 0x1D49F),
      (0x1D4A2, 0x1D4A2), (0x1D4A5, 0x1D4A6), (0x1D4A9, 0x1D4AC), (0x1D4AE, 0x1D4B9),
      (0x1D4BB, 0x1D4BB), (0x1D4BD, 0x1D4C3), (0x1D4C5, 0x1D505), (0x1D507, 0x1D50A),
      (0x1D50D, 0x1D514), (0x1D516, 0x1D51C), (0x1D51E, 0x1D539), (0x1D53B, 0x1D53E),
      (0x1D540, 0x1D544), (0x1D546, 0x1D546), (0x1D54A, 0x1D550), (0x1D552, 0x1D6A5),
      (0x1D6A8, 0x1D7CB), (0x1D7CE, 0x1D7FF), (0x1EC71, 0x1ECB4), (0x1ED01, 0x1ED3D),
      (0x1F000, 0x1F02B), (0x1F030, 0x1F093), (0x1F0A0, 0x1F0AE), (0x1F0B1, 0x1F0BF),
      (0x1F0C1, 0x1F0CF), (0x1F0D1, 0x1F0F5), (0x1F100, 0x1F1AD), (0x1F1E6, 0x1F1FF),
      (0x1F201, 0x1F202), (0x1F210, 0x1F23B), (0x1F240, 0x1F248), (0x1F250, 0x1F251),
      (0x1F260, 0x1F265), (0x1F300, 0x1F6D7), (0x1F6DC, 0x1F6EC), (0x1F6F0, 0x1F6FC),
      (0x1F700, 0x1F776), (0x1F77B, 0x1F7D9), (0x1F7E0, 0x1F7EB), (0x1F7F0, 0x1F7F0),
      (0x1F800, 0x1F80B), (0x1F810, 0x1F847), (0x1F850, 0x1F859), (0x1F860, 0x1F887),
      (0x1F890, 0x1F8AD), (0x1F8B0, 0x1F8BB), (0x1F8C0, 0x1F8C1), (0x1F900, 0x1FA53),
      (0x1FA60, 0x1FA6D), (0x1FA70, 0x1FA7C), (0x1FA80, 0x1FA89), (0x1FA8F, 0x1FAC6),
      (0x1FACE, 0x1FADC), (0x1FADF, 0x1FAE9), (0x1FAF0, 0x1FAF8), (0x1FB00, 0x1FB92),
      (0x1FB94, 0x1FBF9), (0xE0001, 0xE0001), (0xE0020, 0xE007F)]⟩, []⟩]

end Predictive.Unicode
