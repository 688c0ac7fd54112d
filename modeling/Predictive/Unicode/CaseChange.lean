import Predictive.Text.Ranges
/-!
# Characters without a counterpart in another case

What the properties of case mapping add to and leave out of the cased categories, as of Unicode
16.0.
-/
namespace Predictive.Unicode

/-- The capitals that have no small counterpart. -/
def fixedUppercase : Ranges :=
  [(0x3D2, 0x3D4), (0x2102, 0x2102), (0x2107, 0x2107), (0x210B, 0x210D), (0x2110, 0x2112),
    (0x2115, 0x2115), (0x2119, 0x211D), (0x2124, 0x2124), (0x2128, 0x2128), (0x212C, 0x212D),
    (0x2130, 0x2131), (0x2133, 0x2133), (0x213E, 0x213F), (0x2145, 0x2145), (0x1D400, 0x1D419),
    (0x1D434, 0x1D44D), (0x1D468, 0x1D481), (0x1D49C, 0x1D49C), (0x1D49E, 0x1D49F),
    (0x1D4A2, 0x1D4A2), (0x1D4A5, 0x1D4A6), (0x1D4A9, 0x1D4AC), (0x1D4AE, 0x1D4B5),
    (0x1D4D0, 0x1D4E9), (0x1D504, 0x1D505), (0x1D507, 0x1D50A), (0x1D50D, 0x1D514),
    (0x1D516, 0x1D51C), (0x1D538, 0x1D539), (0x1D53B, 0x1D53E), (0x1D540, 0x1D544),
    (0x1D546, 0x1D546), (0x1D54A, 0x1D550), (0x1D56C, 0x1D585), (0x1D5A0, 0x1D5B9),
    (0x1D5D4, 0x1D5ED), (0x1D608, 0x1D621), (0x1D63C, 0x1D655), (0x1D670, 0x1D689),
    (0x1D6A8, 0x1D6C0), (0x1D6E2, 0x1D6FA), (0x1D71C, 0x1D734), (0x1D756, 0x1D76E),
    (0x1D790, 0x1D7A8), (0x1D7CA, 0x1D7CA), (0x1F130, 0x1F149), (0x1F150, 0x1F169),
    (0x1F170, 0x1F189)]

/-- The small letters that have no capital counterpart. -/
def fixedLowercase : Ranges :=
  [(0x138, 0x138), (0x18D, 0x18D), (0x1AA, 0x1AB), (0x1BA, 0x1BA), (0x1BE, 0x1BE), (0x221, 0x221),
    (0x234, 0x239), (0x255, 0x255), (0x258, 0x258), (0x25A, 0x25A), (0x25D, 0x25F), (0x262, 0x262),
    (0x267, 0x267), (0x26D, 0x26E), (0x270, 0x270), (0x273, 0x274), (0x276, 0x27C), (0x27E, 0x27F),
    (0x281, 0x281), (0x284, 0x286), (0x28D, 0x291), (0x293, 0x293), (0x295, 0x29C), (0x29F, 0x2AF),
    (0x3FC, 0x3FC), (0x560, 0x560), (0x588, 0x588), (0x1D00, 0x1D2B), (0x1D6B, 0x1D77),
    (0x1D7A, 0x1D7C), (0x1D7E, 0x1D8D), (0x1D8F, 0x1D9A), (0x1E9C, 0x1E9D), (0x1E9F, 0x1E9F),
    (0x210A, 0x210A), (0x210E, 0x210F), (0x2113, 0x2113), (0x212F, 0x212F), (0x2134, 0x2134),
    (0x2139, 0x2139), (0x213C, 0x213D), (0x2146, 0x2149), (0x2C71, 0x2C71), (0x2C74, 0x2C74),
    (0x2C77, 0x2C7B), (0x2CE4, 0x2CE4), (0xA730, 0xA731), (0xA771, 0xA778), (0xA78E, 0xA78E),
    (0xA795, 0xA795), (0xA7AF, 0xA7AF), (0xA7D3, 0xA7D3), (0xA7D5, 0xA7D5), (0xA7FA, 0xA7FA),
    (0xAB30, 0xAB52), (0xAB54, 0xAB5A), (0xAB60, 0xAB68), (0x1D41A, 0x1D433), (0x1D44E, 0x1D454),
    (0x1D456, 0x1D467), (0x1D482, 0x1D49B), (0x1D4B6, 0x1D4B9), (0x1D4BB, 0x1D4BB),
    (0x1D4BD, 0x1D4C3), (0x1D4C5, 0x1D4CF), (0x1D4EA, 0x1D503), (0x1D51E, 0x1D537),
    (0x1D552, 0x1D56B), (0x1D586, 0x1D59F), (0x1D5BA, 0x1D5D3), (0x1D5EE, 0x1D607),
    (0x1D622, 0x1D63B), (0x1D656, 0x1D66F), (0x1D68A, 0x1D6A5), (0x1D6C2, 0x1D6DA),
    (0x1D6DC, 0x1D6E1), (0x1D6FC, 0x1D714), (0x1D716, 0x1D71B), (0x1D736, 0x1D74E),
    (0x1D750, 0x1D755), (0x1D770, 0x1D788), (0x1D78A, 0x1D78F), (0x1D7AA, 0x1D7C2),
    (0x1D7C4, 0x1D7C9), (0x1D7CB, 0x1D7CB), (0x1DF00, 0x1DF09), (0x1DF0B, 0x1DF1E),
    (0x1DF25, 0x1DF2A)]

/-- The characters that uppercasing changes although they are no small letters. -/
def otherUppercasing : Ranges :=
  [(0x1C5, 0x1C5), (0x1C8, 0x1C8), (0x1CB, 0x1CB), (0x1F2, 0x1F2), (0x345, 0x345), (0x1F88, 0x1F8F),
    (0x1F98, 0x1F9F), (0x1FA8, 0x1FAF), (0x1FBC, 0x1FBC), (0x1FCC, 0x1FCC), (0x1FFC, 0x1FFC),
    (0x2170, 0x217F), (0x24D0, 0x24E9)]

/-- The characters that uppercasing changes and titlecasing does not. -/
def fixedTitlecase : Ranges :=
  [(0x1C5, 0x1C5), (0x1C8, 0x1C8), (0x1CB, 0x1CB), (0x1F2, 0x1F2), (0x10D0, 0x10FA),
    (0x10FD, 0x10FF), (0x1F88, 0x1F8F), (0x1F98, 0x1F9F), (0x1FA8, 0x1FAF), (0x1FBC, 0x1FBC),
    (0x1FCC, 0x1FCC), (0x1FFC, 0x1FFC)]

/-- The characters that titlecasing changes and uppercasing does not. -/
def otherTitlecasing : Ranges := [(0x1C4, 0x1C4), (0x1C7, 0x1C7), (0x1CA, 0x1CA), (0x1F1, 0x1F1)]

/-- The characters that case folding changes and lowercasing does not. -/
def otherCasefolding : Ranges :=
  [(0xB5, 0xB5), (0xDF, 0xDF), (0x149, 0x149), (0x17F, 0x17F), (0x345, 0x345), (0x3C2, 0x3C2),
    (0x3D0, 0x3D1), (0x3D5, 0x3D6), (0x3F0, 0x3F1), (0x3F5, 0x3F5), (0x587, 0x587),
    (0x13F8, 0x13FD), (0x1C80, 0x1C88), (0x1E9A, 0x1E9B), (0x1F80, 0x1F87), (0x1F90, 0x1F97),
    (0x1FA0, 0x1FA7), (0x1FB2, 0x1FB4), (0x1FB7, 0x1FB7), (0x1FC2, 0x1FC4), (0x1FC7, 0x1FC7),
    (0x1FF2, 0x1FF4), (0x1FF7, 0x1FF7), (0xAB70, 0xABBF), (0xFB00, 0xFB06), (0xFB13, 0xFB17)]

/-- The characters that lowercasing changes and case folding does not. -/
def fixedCasefolding : Ranges := [(0x13A0, 0x13F5)]

end Predictive.Unicode
