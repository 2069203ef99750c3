import Formulary.Text.Basic

/-!
# Letters and digits by use

The characters that a change of case changes, the ideographs and what describes them, the digits of
other bases, and the signs of mathematics that are no mathematical symbols.
-/
namespace Formulary.Text.Property

/-! ### Changes of case -/

def lowercasedRuns : List CodeRun :=
  [(0x41, 0x5A, 1), (0xC0, 0xD6, 1), (0xD8, 0xDE, 1), (0x100, 0x136, 2), (0x139, 0x147, 2),
   (0x14A, 0x176, 2), (0x178, 0x179, 1), (0x17B, 0x17D, 2), (0x181, 0x182, 1), (0x184, 0x184, 1),
   (0x186, 0x187, 1), (0x189, 0x18B, 1), (0x18E, 0x191, 1), (0x193, 0x194, 1), (0x196, 0x198, 1),
   (0x19C, 0x19D, 1), (0x19F, 0x1A0, 1), (0x1A2, 0x1A4, 2), (0x1A6, 0x1A7, 1), (0x1A9, 0x1A9, 1),
   (0x1AC, 0x1AC, 1), (0x1AE, 0x1AF, 1), (0x1B1, 0x1B3, 1), (0x1B5, 0x1B5, 1), (0x1B7, 0x1B8, 1),
   (0x1BC, 0x1BC, 1), (0x1C4, 0x1C5, 1), (0x1C7, 0x1C8, 1), (0x1CA, 0x1CB, 1), (0x1CD, 0x1DB, 2),
   (0x1DE, 0x1EE, 2), (0x1F1, 0x1F2, 1), (0x1F4, 0x1F4, 1), (0x1F6, 0x1F8, 1), (0x1FA, 0x232, 2),
   (0x23A, 0x23B, 1), (0x23D, 0x23E, 1), (0x241, 0x241, 1), (0x243, 0x246, 1), (0x248, 0x24E, 2),
   (0x370, 0x372, 2), (0x376, 0x376, 1), (0x37F, 0x37F, 1), (0x386, 0x386, 1), (0x388, 0x38A, 1),
   (0x38C, 0x38C, 1), (0x38E, 0x38F, 1), (0x391, 0x3A1, 1), (0x3A3, 0x3AB, 1), (0x3CF, 0x3CF, 1),
   (0x3D8, 0x3EE, 2), (0x3F4, 0x3F4, 1), (0x3F7, 0x3F7, 1), (0x3F9, 0x3FA, 1), (0x3FD, 0x42F, 1),
   (0x460, 0x480, 2), (0x48A, 0x4BE, 2), (0x4C0, 0x4C1, 1), (0x4C3, 0x4CD, 2), (0x4D0, 0x52E, 2),
   (0x531, 0x556, 1), (0x10A0, 0x10C5, 1), (0x10C7, 0x10C7, 1), (0x10CD, 0x10CD, 1),
   (0x13A0, 0x13F5, 1), (0x1C89, 0x1C89, 1), (0x1C90, 0x1CBA, 1), (0x1CBD, 0x1CBF, 1),
   (0x1E00, 0x1E94, 2), (0x1E9E, 0x1EFE, 2), (0x1F08, 0x1F0F, 1), (0x1F18, 0x1F1D, 1),
   (0x1F28, 0x1F2F, 1), (0x1F38, 0x1F3F, 1), (0x1F48, 0x1F4D, 1), (0x1F59, 0x1F5F, 2),
   (0x1F68, 0x1F6F, 1), (0x1F88, 0x1F8F, 1), (0x1F98, 0x1F9F, 1), (0x1FA8, 0x1FAF, 1),
   (0x1FB8, 0x1FBC, 1), (0x1FC8, 0x1FCC, 1), (0x1FD8, 0x1FDB, 1), (0x1FE8, 0x1FEC, 1),
   (0x1FF8, 0x1FFC, 1), (0x2126, 0x2126, 1), (0x212A, 0x212B, 1), (0x2132, 0x2132, 1),
   (0x2160, 0x216F, 1), (0x2183, 0x2183, 1), (0x24B6, 0x24CF, 1), (0x2C00, 0x2C2F, 1),
   (0x2C60, 0x2C60, 1), (0x2C62, 0x2C64, 1), (0x2C67, 0x2C6B, 2), (0x2C6D, 0x2C70, 1),
   (0x2C72, 0x2C72, 1), (0x2C75, 0x2C75, 1), (0x2C7E, 0x2C80, 1), (0x2C82, 0x2CE2, 2),
   (0x2CEB, 0x2CED, 2), (0x2CF2, 0x2CF2, 1), (0xA640, 0xA66C, 2), (0xA680, 0xA69A, 2),
   (0xA722, 0xA72E, 2), (0xA732, 0xA76E, 2), (0xA779, 0xA77B, 2), (0xA77D, 0xA77E, 1),
   (0xA780, 0xA786, 2), (0xA78B, 0xA78D, 2), (0xA790, 0xA792, 2), (0xA796, 0xA7A8, 2),
   (0xA7AA, 0xA7AE, 1), (0xA7B0, 0xA7B4, 1), (0xA7B6, 0xA7C2, 2), (0xA7C4, 0xA7C7, 1),
   (0xA7C9, 0xA7C9, 1), (0xA7CB, 0xA7CC, 1), (0xA7D0, 0xA7D0, 1), (0xA7D6, 0xA7DC, 2),
   (0xA7F5, 0xA7F5, 1), (0xFF21, 0xFF3A, 1), (0x10400, 0x10427, 1), (0x104B0, 0x104D3, 1),
   (0x10570, 0x1057A, 1), (0x1057C, 0x1058A, 1), (0x1058C, 0x10592, 1), (0x10594, 0x10595, 1),
   (0x10C80, 0x10CB2, 1), (0x10D50, 0x10D65, 1), (0x118A0, 0x118BF, 1), (0x16E40, 0x16E5F, 1),
   (0x1E900, 0x1E921, 1)]

def uppercasedRuns : List CodeRun :=
  [(0x61, 0x7A, 1), (0xB5, 0xB5, 1), (0xDF, 0xF6, 1), (0xF8, 0xFF, 1), (0x101, 0x137, 2),
   (0x13A, 0x146, 2), (0x148, 0x149, 1), (0x14B, 0x177, 2), (0x17A, 0x17C, 2), (0x17E, 0x180, 1),
   (0x183, 0x185, 2), (0x188, 0x188, 1), (0x18C, 0x18C, 1), (0x192, 0x192, 1), (0x195, 0x195, 1),
   (0x199, 0x19B, 1), (0x19E, 0x19E, 1), (0x1A1, 0x1A5, 2), (0x1A8, 0x1A8, 1), (0x1AD, 0x1AD, 1),
   (0x1B0, 0x1B0, 1), (0x1B4, 0x1B6, 2), (0x1B9, 0x1B9, 1), (0x1BD, 0x1BF, 2), (0x1C5, 0x1C6, 1),
   (0x1C8, 0x1C9, 1), (0x1CB, 0x1CC, 1), (0x1CE, 0x1DA, 2), (0x1DC, 0x1DD, 1), (0x1DF, 0x1ED, 2),
   (0x1EF, 0x1F0, 1), (0x1F2, 0x1F3, 1), (0x1F5, 0x1F5, 1), (0x1F9, 0x21F, 2), (0x223, 0x233, 2),
   (0x23C, 0x23C, 1), (0x23F, 0x240, 1), (0x242, 0x242, 1), (0x247, 0x24D, 2), (0x24F, 0x254, 1),
   (0x256, 0x257, 1), (0x259, 0x259, 1), (0x25B, 0x25C, 1), (0x260, 0x261, 1), (0x263, 0x266, 1),
   (0x268, 0x26C, 1), (0x26F, 0x26F, 1), (0x271, 0x272, 1), (0x275, 0x275, 1), (0x27D, 0x27D, 1),
   (0x280, 0x280, 1), (0x282, 0x283, 1), (0x287, 0x28C, 1), (0x292, 0x292, 1), (0x29D, 0x29E, 1),
   (0x345, 0x345, 1), (0x371, 0x373, 2), (0x377, 0x377, 1), (0x37B, 0x37D, 1), (0x390, 0x390, 1),
   (0x3AC, 0x3CE, 1), (0x3D0, 0x3D1, 1), (0x3D5, 0x3D7, 1), (0x3D9, 0x3ED, 2), (0x3EF, 0x3F3, 1),
   (0x3F5, 0x3F5, 1), (0x3F8, 0x3F8, 1), (0x3FB, 0x3FB, 1), (0x430, 0x45F, 1), (0x461, 0x481, 2),
   (0x48B, 0x4BF, 2), (0x4C2, 0x4CC, 2), (0x4CE, 0x4CF, 1), (0x4D1, 0x52F, 2), (0x561, 0x587, 1),
   (0x10D0, 0x10FA, 1), (0x10FD, 0x10FF, 1), (0x13F8, 0x13FD, 1), (0x1C80, 0x1C88, 1),
   (0x1C8A, 0x1C8A, 1), (0x1D79, 0x1D79, 1), (0x1D7D, 0x1D7D, 1), (0x1D8E, 0x1D8E, 1),
   (0x1E01, 0x1E93, 2), (0x1E95, 0x1E9B, 1), (0x1EA1, 0x1EFD, 2), (0x1EFF, 0x1F07, 1),
   (0x1F10, 0x1F15, 1), (0x1F20, 0x1F27, 1), (0x1F30, 0x1F37, 1), (0x1F40, 0x1F45, 1),
   (0x1F50, 0x1F57, 1), (0x1F60, 0x1F67, 1), (0x1F70, 0x1F7D, 1), (0x1F80, 0x1FB4, 1),
   (0x1FB6, 0x1FB7, 1), (0x1FBC, 0x1FBE, 2), (0x1FC2, 0x1FC4, 1), (0x1FC6, 0x1FC7, 1),
   (0x1FCC, 0x1FCC, 1), (0x1FD0, 0x1FD3, 1), (0x1FD6, 0x1FD7, 1), (0x1FE0, 0x1FE7, 1),
   (0x1FF2, 0x1FF4, 1), (0x1FF6, 0x1FF7, 1), (0x1FFC, 0x1FFC, 1), (0x214E, 0x214E, 1),
   (0x2170, 0x217F, 1), (0x2184, 0x2184, 1), (0x24D0, 0x24E9, 1), (0x2C30, 0x2C5F, 1),
   (0x2C61, 0x2C61, 1), (0x2C65, 0x2C66, 1), (0x2C68, 0x2C6C, 2), (0x2C73, 0x2C73, 1),
   (0x2C76, 0x2C76, 1), (0x2C81, 0x2CE3, 2), (0x2CEC, 0x2CEE, 2), (0x2CF3, 0x2CF3, 1),
   (0x2D00, 0x2D25, 1), (0x2D27, 0x2D27, 1), (0x2D2D, 0x2D2D, 1), (0xA641, 0xA66D, 2),
   (0xA681, 0xA69B, 2), (0xA723, 0xA72F, 2), (0xA733, 0xA76F, 2), (0xA77A, 0xA77C, 2),
   (0xA77F, 0xA787, 2), (0xA78C, 0xA78C, 1), (0xA791, 0xA791, 1), (0xA793, 0xA794, 1),
   (0xA797, 0xA7A9, 2), (0xA7B5, 0xA7C3, 2), (0xA7C8, 0xA7CA, 2), (0xA7CD, 0xA7CD, 1),
   (0xA7D1, 0xA7D1, 1), (0xA7D7, 0xA7DB, 2), (0xA7F6, 0xA7F6, 1), (0xAB53, 0xAB53, 1),
   (0xAB70, 0xABBF, 1), (0xFB00, 0xFB06, 1), (0xFB13, 0xFB17, 1), (0xFF41, 0xFF5A, 1),
   (0x10428, 0x1044F, 1), (0x104D8, 0x104FB, 1), (0x10597, 0x105A1, 1), (0x105A3, 0x105B1, 1),
   (0x105B3, 0x105B9, 1), (0x105BB, 0x105BC, 1), (0x10CC0, 0x10CF2, 1), (0x10D70, 0x10D85, 1),
   (0x118C0, 0x118DF, 1), (0x16E60, 0x16E7F, 1), (0x1E922, 0x1E943, 1)]

def titlecasedRuns : List CodeRun :=
  [(0x61, 0x7A, 1), (0xB5, 0xB5, 1), (0xDF, 0xF6, 1), (0xF8, 0xFF, 1), (0x101, 0x137, 2),
   (0x13A, 0x146, 2), (0x148, 0x149, 1), (0x14B, 0x177, 2), (0x17A, 0x17C, 2), (0x17E, 0x180, 1),
   (0x183, 0x185, 2), (0x188, 0x188, 1), (0x18C, 0x18C, 1), (0x192, 0x192, 1), (0x195, 0x195, 1),
   (0x199, 0x19B, 1), (0x19E, 0x19E, 1), (0x1A1, 0x1A5, 2), (0x1A8, 0x1A8, 1), (0x1AD, 0x1AD, 1),
   (0x1B0, 0x1B0, 1), (0x1B4, 0x1B6, 2), (0x1B9, 0x1B9, 1), (0x1BD, 0x1BF, 2), (0x1C4, 0x1C4, 1),
   (0x1C6, 0x1C7, 1), (0x1C9, 0x1CA, 1), (0x1CC, 0x1DA, 2), (0x1DC, 0x1DD, 1), (0x1DF, 0x1ED, 2),
   (0x1EF, 0x1F1, 1), (0x1F3, 0x1F5, 2), (0x1F9, 0x21F, 2), (0x223, 0x233, 2), (0x23C, 0x23C, 1),
   (0x23F, 0x240, 1), (0x242, 0x242, 1), (0x247, 0x24D, 2), (0x24F, 0x254, 1), (0x256, 0x257, 1),
   (0x259, 0x259, 1), (0x25B, 0x25C, 1), (0x260, 0x261, 1), (0x263, 0x266, 1), (0x268, 0x26C, 1),
   (0x26F, 0x26F, 1), (0x271, 0x272, 1), (0x275, 0x275, 1), (0x27D, 0x27D, 1), (0x280, 0x280, 1),
   (0x282, 0x283, 1), (0x287, 0x28C, 1), (0x292, 0x292, 1), (0x29D, 0x29E, 1), (0x345, 0x345, 1),
   (0x371, 0x373, 2), (0x377, 0x377, 1), (0x37B, 0x37D, 1), (0x390, 0x390, 1), (0x3AC, 0x3CE, 1),
   (0x3D0, 0x3D1, 1), (0x3D5, 0x3D7, 1), (0x3D9, 0x3ED, 2), (0x3EF, 0x3F3, 1), (0x3F5, 0x3F5, 1),
   (0x3F8, 0x3F8, 1), (0x3FB, 0x3FB, 1), (0x430, 0x45F, 1), (0x461, 0x481, 2), (0x48B, 0x4BF, 2),
   (0x4C2, 0x4CC, 2), (0x4CE, 0x4CF, 1), (0x4D1, 0x52F, 2), (0x561, 0x587, 1),
   (0x13F8, 0x13FD, 1), (0x1C80, 0x1C88, 1), (0x1C8A, 0x1C8A, 1), (0x1D79, 0x1D79, 1),
   (0x1D7D, 0x1D7D, 1), (0x1D8E, 0x1D8E, 1), (0x1E01, 0x1E93, 2), (0x1E95, 0x1E9B, 1),
   (0x1EA1, 0x1EFD, 2), (0x1EFF, 0x1F07, 1), (0x1F10, 0x1F15, 1), (0x1F20, 0x1F27, 1),
   (0x1F30, 0x1F37, 1), (0x1F40, 0x1F45, 1), (0x1F50, 0x1F57, 1), (0x1F60, 0x1F67, 1),
   (0x1F70, 0x1F7D, 1), (0x1F80, 0x1F87, 1), (0x1F90, 0x1F97, 1), (0x1FA0, 0x1FA7, 1),
   (0x1FB0, 0x1FB4, 1), (0x1FB6, 0x1FB7, 1), (0x1FBE, 0x1FBE, 1), (0x1FC2, 0x1FC4, 1),
   (0x1FC6, 0x1FC7, 1), (0x1FD0, 0x1FD3, 1), (0x1FD6, 0x1FD7, 1), (0x1FE0, 0x1FE7, 1),
   (0x1FF2, 0x1FF4, 1), (0x1FF6, 0x1FF7, 1), (0x214E, 0x214E, 1), (0x2170, 0x217F, 1),
   (0x2184, 0x2184, 1), (0x24D0, 0x24E9, 1), (0x2C30, 0x2C5F, 1), (0x2C61, 0x2C61, 1),
   (0x2C65, 0x2C66, 1), (0x2C68, 0x2C6C, 2), (0x2C73, 0x2C73, 1), (0x2C76, 0x2C76, 1),
   (0x2C81, 0x2CE3, 2), (0x2CEC, 0x2CEE, 2), (0x2CF3, 0x2CF3, 1), (0x2D00, 0x2D25, 1),
   (0x2D27, 0x2D27, 1), (0x2D2D, 0x2D2D, 1), (0xA641, 0xA66D, 2), (0xA681, 0xA69B, 2),
   (0xA723, 0xA72F, 2), (0xA733, 0xA76F, 2), (0xA77A, 0xA77C, 2), (0xA77F, 0xA787, 2),
   (0xA78C, 0xA78C, 1), (0xA791, 0xA791, 1), (0xA793, 0xA794, 1), (0xA797, 0xA7A9, 2),
   (0xA7B5, 0xA7C3, 2), (0xA7C8, 0xA7CA, 2), (0xA7CD, 0xA7CD, 1), (0xA7D1, 0xA7D1, 1),
   (0xA7D7, 0xA7DB, 2), (0xA7F6, 0xA7F6, 1), (0xAB53, 0xAB53, 1), (0xAB70, 0xABBF, 1),
   (0xFB00, 0xFB06, 1), (0xFB13, 0xFB17, 1), (0xFF41, 0xFF5A, 1), (0x10428, 0x1044F, 1),
   (0x104D8, 0x104FB, 1), (0x10597, 0x105A1, 1), (0x105A3, 0x105B1, 1), (0x105B3, 0x105B9, 1),
   (0x105BB, 0x105BC, 1), (0x10CC0, 0x10CF2, 1), (0x10D70, 0x10D85, 1), (0x118C0, 0x118DF, 1),
   (0x16E60, 0x16E7F, 1), (0x1E922, 0x1E943, 1)]

def casefoldedRuns : List CodeRun :=
  [(0x41, 0x5A, 1), (0xB5, 0xB5, 1), (0xC0, 0xD6, 1), (0xD8, 0xDF, 1), (0x100, 0x136, 2),
   (0x139, 0x147, 2), (0x149, 0x14A, 1), (0x14C, 0x176, 2), (0x178, 0x179, 1), (0x17B, 0x17F, 2),
   (0x181, 0x182, 1), (0x184, 0x184, 1), (0x186, 0x187, 1), (0x189, 0x18B, 1), (0x18E, 0x191, 1),
   (0x193, 0x194, 1), (0x196, 0x198, 1), (0x19C, 0x19D, 1), (0x19F, 0x1A0, 1), (0x1A2, 0x1A4, 2),
   (0x1A6, 0x1A7, 1), (0x1A9, 0x1A9, 1), (0x1AC, 0x1AC, 1), (0x1AE, 0x1AF, 1), (0x1B1, 0x1B3, 1),
   (0x1B5, 0x1B5, 1), (0x1B7, 0x1B8, 1), (0x1BC, 0x1BC, 1), (0x1C4, 0x1C5, 1), (0x1C7, 0x1C8, 1),
   (0x1CA, 0x1CB, 1), (0x1CD, 0x1DB, 2), (0x1DE, 0x1EE, 2), (0x1F1, 0x1F2, 1), (0x1F4, 0x1F4, 1),
   (0x1F6, 0x1F8, 1), (0x1FA, 0x232, 2), (0x23A, 0x23B, 1), (0x23D, 0x23E, 1), (0x241, 0x241, 1),
   (0x243, 0x246, 1), (0x248, 0x24E, 2), (0x345, 0x345, 1), (0x370, 0x372, 2), (0x376, 0x376, 1),
   (0x37F, 0x37F, 1), (0x386, 0x386, 1), (0x388, 0x38A, 1), (0x38C, 0x38C, 1), (0x38E, 0x38F, 1),
   (0x391, 0x3A1, 1), (0x3A3, 0x3AB, 1), (0x3C2, 0x3C2, 1), (0x3CF, 0x3D1, 1), (0x3D5, 0x3D6, 1),
   (0x3D8, 0x3EE, 2), (0x3F0, 0x3F1, 1), (0x3F4, 0x3F5, 1), (0x3F7, 0x3F7, 1), (0x3F9, 0x3FA, 1),
   (0x3FD, 0x42F, 1), (0x460, 0x480, 2), (0x48A, 0x4BE, 2), (0x4C0, 0x4C1, 1), (0x4C3, 0x4CD, 2),
   (0x4D0, 0x52E, 2), (0x531, 0x556, 1), (0x587, 0x587, 1), (0x10A0, 0x10C5, 1),
   (0x10C7, 0x10C7, 1), (0x10CD, 0x10CD, 1), (0x13F8, 0x13FD, 1), (0x1C80, 0x1C89, 1),
   (0x1C90, 0x1CBA, 1), (0x1CBD, 0x1CBF, 1), (0x1E00, 0x1E94, 2), (0x1E9A, 0x1E9B, 1),
   (0x1E9E, 0x1EFE, 2), (0x1F08, 0x1F0F, 1), (0x1F18, 0x1F1D, 1), (0x1F28, 0x1F2F, 1),
   (0x1F38, 0x1F3F, 1), (0x1F48, 0x1F4D, 1), (0x1F59, 0x1F5F, 2), (0x1F68, 0x1F6F, 1),
   (0x1F80, 0x1FAF, 1), (0x1FB2, 0x1FB4, 1), (0x1FB7, 0x1FBC, 1), (0x1FC2, 0x1FC4, 1),
   (0x1FC7, 0x1FCC, 1), (0x1FD8, 0x1FDB, 1), (0x1FE8, 0x1FEC, 1), (0x1FF2, 0x1FF4, 1),
   (0x1FF7, 0x1FFC, 1), (0x2126, 0x2126, 1), (0x212A, 0x212B, 1), (0x2132, 0x2132, 1),
   (0x2160, 0x216F, 1), (0x2183, 0x2183, 1), (0x24B6, 0x24CF, 1), (0x2C00, 0x2C2F, 1),
   (0x2C60, 0x2C60, 1), (0x2C62, 0x2C64, 1), (0x2C67, 0x2C6B, 2), (0x2C6D, 0x2C70, 1),
   (0x2C72, 0x2C72, 1), (0x2C75, 0x2C75, 1), (0x2C7E, 0x2C80, 1), (0x2C82, 0x2CE2, 2),
   (0x2CEB, 0x2CED, 2), (0x2CF2, 0x2CF2, 1), (0xA640, 0xA66C, 2), (0xA680, 0xA69A, 2),
   (0xA722, 0xA72E, 2), (0xA732, 0xA76E, 2), (0xA779, 0xA77B, 2), (0xA77D, 0xA77E, 1),
   (0xA780, 0xA786, 2), (0xA78B, 0xA78D, 2), (0xA790, 0xA792, 2), (0xA796, 0xA7A8, 2),
   (0xA7AA, 0xA7AE, 1), (0xA7B0, 0xA7B4, 1), (0xA7B6, 0xA7C2, 2), (0xA7C4, 0xA7C7, 1),
   (0xA7C9, 0xA7C9, 1), (0xA7CB, 0xA7CC, 1), (0xA7D0, 0xA7D0, 1), (0xA7D6, 0xA7DC, 2),
   (0xA7F5, 0xA7F5, 1), (0xAB70, 0xABBF, 1), (0xFB00, 0xFB06, 1), (0xFB13, 0xFB17, 1),
   (0xFF21, 0xFF3A, 1), (0x10400, 0x10427, 1), (0x104B0, 0x104D3, 1), (0x10570, 0x1057A, 1),
   (0x1057C, 0x1058A, 1), (0x1058C, 0x10592, 1), (0x10594, 0x10595, 1), (0x10C80, 0x10CB2, 1),
   (0x10D50, 0x10D65, 1), (0x118A0, 0x118BF, 1), (0x16E40, 0x16E5F, 1), (0x1E900, 0x1E921, 1)]

/-! ### Ideographs -/

def ideographicRuns : List CodeRun :=
  [(0x3006, 0x3007, 1), (0x3021, 0x3029, 1), (0x3038, 0x303A, 1), (0x3400, 0x4DBF, 1),
   (0x4E00, 0x9FFF, 1), (0xF900, 0xFA6D, 1), (0xFA70, 0xFAD9, 1), (0x16FE4, 0x16FE4, 1),
   (0x17000, 0x187F7, 1), (0x18800, 0x18CD5, 1), (0x18CFF, 0x18D08, 1), (0x1B170, 0x1B2FB, 1),
   (0x20000, 0x2A6DF, 1), (0x2A700, 0x2B739, 1), (0x2B740, 0x2B81D, 1), (0x2B820, 0x2CEA1, 1),
   (0x2CEB0, 0x2EBE0, 1), (0x2EBF0, 0x2EE5D, 1), (0x2F800, 0x2FA1D, 1), (0x30000, 0x3134A, 1),
   (0x31350, 0x323AF, 1)]

def unifiedIdeographRuns : List CodeRun :=
  [(0x3400, 0x4DBF, 1), (0x4E00, 0x9FFF, 1), (0xFA0E, 0xFA0F, 1), (0xFA11, 0xFA11, 1),
   (0xFA13, 0xFA14, 1), (0xFA1F, 0xFA21, 2), (0xFA23, 0xFA24, 1), (0xFA27, 0xFA29, 1),
   (0x20000, 0x2A6DF, 1), (0x2A700, 0x2B739, 1), (0x2B740, 0x2B81D, 1), (0x2B820, 0x2CEA1, 1),
   (0x2CEB0, 0x2EBE0, 1), (0x2EBF0, 0x2EE5D, 1), (0x30000, 0x3134A, 1), (0x31350, 0x323AF, 1)]

def radicalRuns : List CodeRun :=
  [(0x2E80, 0x2E99, 1), (0x2E9B, 0x2EF3, 1), (0x2F00, 0x2FD5, 1)]

def unaryDescriptionRuns : List CodeRun :=
  [(0x2FFE, 0x2FFF, 1)]

def binaryDescriptionRuns : List CodeRun :=
  [(0x2FF0, 0x2FF1, 1), (0x2FF4, 0x2FFD, 1), (0x31EF, 0x31EF, 1)]

def trinaryDescriptionRuns : List CodeRun :=
  [(0x2FF2, 0x2FF3, 1)]

/-! ### Digits and mathematics -/

def asciiHexDigitRuns : List CodeRun :=
  [(0x30, 0x39, 1), (0x41, 0x46, 1), (0x61, 0x66, 1)]

def hexDigitRuns : List CodeRun :=
  [(0x30, 0x39, 1), (0x41, 0x46, 1), (0x61, 0x66, 1), (0xFF10, 0xFF19, 1), (0xFF21, 0xFF26, 1),
   (0xFF41, 0xFF46, 1)]

/-- Characters of mathematics that are no mathematical symbols. -/
def otherMathRuns : List CodeRun :=
  [(0x5E, 0x5E, 1), (0x3D0, 0x3D2, 1), (0x3D5, 0x3D5, 1), (0x3F0, 0x3F1, 1), (0x3F4, 0x3F5, 1),
   (0x2016, 0x2016, 1), (0x2032, 0x2034, 1), (0x2040, 0x2040, 1), (0x2061, 0x2064, 1),
   (0x207D, 0x207E, 1), (0x208D, 0x208E, 1), (0x20D0, 0x20DC, 1), (0x20E1, 0x20E1, 1),
   (0x20E5, 0x20E6, 1), (0x20EB, 0x20EF, 1), (0x2102, 0x2102, 1), (0x2107, 0x2107, 1),
   (0x210A, 0x2113, 1), (0x2115, 0x2115, 1), (0x2119, 0x211D, 1), (0x2124, 0x2124, 1),
   (0x2128, 0x2129, 1), (0x212C, 0x212D, 1), (0x212F, 0x2131, 1), (0x2133, 0x2138, 1),
   (0x213C, 0x213F, 1), (0x2145, 0x2149, 1), (0x2195, 0x2199, 1), (0x219C, 0x219F, 1),
   (0x21A1, 0x21A2, 1), (0x21A4, 0x21A5, 1), (0x21A7, 0x21A7, 1), (0x21A9, 0x21AD, 1),
   (0x21B0, 0x21B1, 1), (0x21B6, 0x21B7, 1), (0x21BC, 0x21CD, 1), (0x21D0, 0x21D1, 1),
   (0x21D3, 0x21D3, 1), (0x21D5, 0x21DB, 1), (0x21DD, 0x21DD, 1), (0x21E4, 0x21E5, 1),
   (0x2308, 0x230B, 1), (0x23B4, 0x23B5, 1), (0x23B7, 0x23B7, 1), (0x23D0, 0x23D0, 1),
   (0x23E2, 0x23E2, 1), (0x25A0, 0x25A1, 1), (0x25AE, 0x25B6, 1), (0x25BC, 0x25C0, 1),
   (0x25C6, 0x25C7, 1), (0x25CA, 0x25CB, 1), (0x25CF, 0x25D3, 1), (0x25E2, 0x25E4, 2),
   (0x25E7, 0x25EC, 1), (0x2605, 0x2606, 1), (0x2640, 0x2642, 2), (0x2660, 0x2663, 1),
   (0x266D, 0x266E, 1), (0x27C5, 0x27C6, 1), (0x27E6, 0x27EF, 1), (0x2983, 0x2998, 1),
   (0x29D8, 0x29DB, 1), (0x29FC, 0x29FD, 1), (0xFE61, 0xFE63, 2), (0xFE68, 0xFE68, 1),
   (0xFF3C, 0xFF3E, 2), (0x1D400, 0x1D454, 1), (0x1D456, 0x1D49C, 1), (0x1D49E, 0x1D49F, 1),
   (0x1D4A2, 0x1D4A2, 1), (0x1D4A5, 0x1D4A6, 1), (0x1D4A9, 0x1D4AC, 1), (0x1D4AE, 0x1D4B9, 1),
   (0x1D4BB, 0x1D4BB, 1), (0x1D4BD, 0x1D4C3, 1), (0x1D4C5, 0x1D505, 1), (0x1D507, 0x1D50A, 1),
   (0x1D50D, 0x1D514, 1), (0x1D516, 0x1D51C, 1), (0x1D51E, 0x1D539, 1), (0x1D53B, 0x1D53E, 1),
   (0x1D540, 0x1D544, 1), (0x1D546, 0x1D546, 1), (0x1D54A, 0x1D550, 1), (0x1D552, 0x1D6A5, 1),
   (0x1D6A8, 0x1D6C0, 1), (0x1D6C2, 0x1D6DA, 1), (0x1D6DC, 0x1D6FA, 1), (0x1D6FC, 0x1D714, 1),
   (0x1D716, 0x1D734, 1), (0x1D736, 0x1D74E, 1), (0x1D750, 0x1D76E, 1), (0x1D770, 0x1D788, 1),
   (0x1D78A, 0x1D7A8, 1), (0x1D7AA, 0x1D7C2, 1), (0x1D7C4, 0x1D7CB, 1), (0x1D7CE, 0x1D7FF, 1),
   (0x1EE00, 0x1EE03, 1), (0x1EE05, 0x1EE1F, 1), (0x1EE21, 0x1EE22, 1), (0x1EE24, 0x1EE24, 1),
   (0x1EE27, 0x1EE27, 1), (0x1EE29, 0x1EE32, 1), (0x1EE34, 0x1EE37, 1), (0x1EE39, 0x1EE3B, 2),
   (0x1EE42, 0x1EE42, 1), (0x1EE47, 0x1EE4B, 2), (0x1EE4D, 0x1EE4F, 1), (0x1EE51, 0x1EE52, 1),
   (0x1EE54, 0x1EE54, 1), (0x1EE57, 0x1EE5F, 2), (0x1EE61, 0x1EE62, 1), (0x1EE64, 0x1EE64, 1),
   (0x1EE67, 0x1EE6A, 1), (0x1EE6C, 0x1EE72, 1), (0x1EE74, 0x1EE77, 1), (0x1EE79, 0x1EE7C, 1),
   (0x1EE7E, 0x1EE7E, 1), (0x1EE80, 0x1EE89, 1), (0x1EE8B, 0x1EE9B, 1), (0x1EEA1, 0x1EEA3, 1),
   (0x1EEA5, 0x1EEA9, 1), (0x1EEAB, 0x1EEBB, 1)]

def compatMathStartRuns : List CodeRun :=
  [(0x2202, 0x2202, 1), (0x2207, 0x2207, 1), (0x221E, 0x221E, 1), (0x1D6C1, 0x1D6C1, 1),
   (0x1D6DB, 0x1D6DB, 1), (0x1D6FB, 0x1D6FB, 1), (0x1D715, 0x1D715, 1), (0x1D735, 0x1D735, 1),
   (0x1D74F, 0x1D74F, 1), (0x1D76F, 0x1D76F, 1), (0x1D789, 0x1D789, 1), (0x1D7A9, 0x1D7A9, 1),
   (0x1D7C3, 0x1D7C3, 1)]

def compatMathContinueRuns : List CodeRun :=
  [(0xB2, 0xB3, 1), (0xB9, 0xB9, 1), (0x2070, 0x2070, 1), (0x2074, 0x207E, 1),
   (0x2080, 0x208E, 1), (0x2202, 0x2202, 1), (0x2207, 0x2207, 1), (0x221E, 0x221E, 1),
   (0x1D6C1, 0x1D6C1, 1), (0x1D6DB, 0x1D6DB, 1), (0x1D6FB, 0x1D6FB, 1), (0x1D715, 0x1D715, 1),
   (0x1D735, 0x1D735, 1), (0x1D74F, 0x1D74F, 1), (0x1D76F, 0x1D76F, 1), (0x1D789, 0x1D789, 1),
   (0x1D7A9, 0x1D7A9, 1), (0x1D7C3, 0x1D7C3, 1)]

end Formulary.Text.Property
