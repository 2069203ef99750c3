import Formulary.Text.Basic

/-!
# Scripts of Europe, America, Africa and the Middle East

The characters of each script, as ascending runs of code points.
-/
namespace Formulary.Text.Script

/-! ### Europe -/

def armenian : List CodeRun :=
  [(0x531, 0x556, 1), (0x559, 0x58A, 1), (0x58D, 0x58F, 1), (0xFB13, 0xFB17, 1)]

def carian : List CodeRun :=
  [(0x102A0, 0x102D0, 1)]

def caucasianAlbanian : List CodeRun :=
  [(0x10530, 0x10563, 1), (0x1056F, 0x1056F, 1)]

def coptic : List CodeRun :=
  [(0x3E2, 0x3EF, 1), (0x2C80, 0x2CF3, 1), (0x2CF9, 0x2CFF, 1)]

def cypriot : List CodeRun :=
  [(0x10800, 0x10805, 1), (0x10808, 0x10808, 1), (0x1080A, 0x10835, 1), (0x10837, 0x10838, 1),
   (0x1083C, 0x1083C, 1), (0x1083F, 0x1083F, 1)]

def cyproMinoan : List CodeRun :=
  [(0x12F90, 0x12FF2, 1)]

def cyrillic : List CodeRun :=
  [(0x400, 0x484, 1), (0x487, 0x52F, 1), (0x1C80, 0x1C8A, 1), (0x1D2B, 0x1D2B, 1),
   (0x1D78, 0x1D78, 1), (0x2DE0, 0x2DFF, 1), (0xA640, 0xA69F, 1), (0xFE2E, 0xFE2F, 1),
   (0x1E030, 0x1E06D, 1), (0x1E08F, 0x1E08F, 1)]

def elbasan : List CodeRun :=
  [(0x10500, 0x10527, 1)]

def georgian : List CodeRun :=
  [(0x10A0, 0x10C5, 1), (0x10C7, 0x10C7, 1), (0x10CD, 0x10CD, 1), (0x10D0, 0x10FA, 1),
   (0x10FC, 0x10FF, 1), (0x1C90, 0x1CBA, 1), (0x1CBD, 0x1CBF, 1), (0x2D00, 0x2D25, 1),
   (0x2D27, 0x2D27, 1), (0x2D2D, 0x2D2D, 1)]

def glagolitic : List CodeRun :=
  [(0x2C00, 0x2C5F, 1), (0x1E000, 0x1E006, 1), (0x1E008, 0x1E018, 1), (0x1E01B, 0x1E021, 1),
   (0x1E023, 0x1E024, 1), (0x1E026, 0x1E02A, 1)]

def gothic : List CodeRun :=
  [(0x10330, 0x1034A, 1)]

def greek : List CodeRun :=
  [(0x370, 0x373, 1), (0x375, 0x377, 1), (0x37A, 0x37D, 1), (0x37F, 0x37F, 1), (0x384, 0x386, 2),
   (0x388, 0x38A, 1), (0x38C, 0x38C, 1), (0x38E, 0x3A1, 1), (0x3A3, 0x3E1, 1), (0x3F0, 0x3FF, 1),
   (0x1D26, 0x1D2A, 1), (0x1D5D, 0x1D61, 1), (0x1D66, 0x1D6A, 1), (0x1DBF, 0x1DBF, 1),
   (0x1F00, 0x1F15, 1), (0x1F18, 0x1F1D, 1), (0x1F20, 0x1F45, 1), (0x1F48, 0x1F4D, 1),
   (0x1F50, 0x1F57, 1), (0x1F59, 0x1F5D, 2), (0x1F5F, 0x1F7D, 1), (0x1F80, 0x1FB4, 1),
   (0x1FB6, 0x1FC4, 1), (0x1FC6, 0x1FD3, 1), (0x1FD6, 0x1FDB, 1), (0x1FDD, 0x1FEF, 1),
   (0x1FF2, 0x1FF4, 1), (0x1FF6, 0x1FFE, 1), (0x2126, 0x2126, 1), (0xAB65, 0xAB65, 1),
   (0x10140, 0x1018E, 1), (0x101A0, 0x101A0, 1), (0x1D200, 0x1D245, 1)]

def latin : List CodeRun :=
  [(0x41, 0x5A, 1), (0x61, 0x7A, 1), (0xAA, 0xAA, 1), (0xBA, 0xBA, 1), (0xC0, 0xD6, 1),
   (0xD8, 0xF6, 1), (0xF8, 0x2B8, 1), (0x2E0, 0x2E4, 1), (0x1D00, 0x1D25, 1), (0x1D2C, 0x1D5C, 1),
   (0x1D62, 0x1D65, 1), (0x1D6B, 0x1D77, 1), (0x1D79, 0x1DBE, 1), (0x1E00, 0x1EFF, 1),
   (0x2071, 0x2071, 1), (0x207F, 0x207F, 1), (0x2090, 0x209C, 1), (0x212A, 0x212B, 1),
   (0x2132, 0x2132, 1), (0x214E, 0x214E, 1), (0x2160, 0x2188, 1), (0x2C60, 0x2C7F, 1),
   (0xA722, 0xA787, 1), (0xA78B, 0xA7CD, 1), (0xA7D0, 0xA7D1, 1), (0xA7D3, 0xA7D3, 1),
   (0xA7D5, 0xA7DC, 1), (0xA7F2, 0xA7FF, 1), (0xAB30, 0xAB5A, 1), (0xAB5C, 0xAB64, 1),
   (0xAB66, 0xAB69, 1), (0xFB00, 0xFB06, 1), (0xFF21, 0xFF3A, 1), (0xFF41, 0xFF5A, 1),
   (0x10780, 0x10785, 1), (0x10787, 0x107B0, 1), (0x107B2, 0x107BA, 1), (0x1DF00, 0x1DF1E, 1),
   (0x1DF25, 0x1DF2A, 1)]

def linearA : List CodeRun :=
  [(0x10600, 0x10736, 1), (0x10740, 0x10755, 1), (0x10760, 0x10767, 1)]

def linearB : List CodeRun :=
  [(0x10000, 0x1000B, 1), (0x1000D, 0x10026, 1), (0x10028, 0x1003A, 1), (0x1003C, 0x1003D, 1),
   (0x1003F, 0x1004D, 1), (0x10050, 0x1005D, 1), (0x10080, 0x100FA, 1)]

def lycian : List CodeRun :=
  [(0x10280, 0x1029C, 1)]

def lydian : List CodeRun :=
  [(0x10920, 0x10939, 1), (0x1093F, 0x1093F, 1)]

def ogham : List CodeRun :=
  [(0x1680, 0x169C, 1)]

def oldHungarian : List CodeRun :=
  [(0x10C80, 0x10CB2, 1), (0x10CC0, 0x10CF2, 1), (0x10CFA, 0x10CFF, 1)]

def oldItalic : List CodeRun :=
  [(0x10300, 0x10323, 1), (0x1032D, 0x1032F, 1)]

def oldPermic : List CodeRun :=
  [(0x10350, 0x1037A, 1)]

def runic : List CodeRun :=
  [(0x16A0, 0x16EA, 1), (0x16EE, 0x16F8, 1)]

def shavian : List CodeRun :=
  [(0x10450, 0x1047F, 1)]

def todhri : List CodeRun :=
  [(0x105C0, 0x105F3, 1)]

def vithkuqi : List CodeRun :=
  [(0x10570, 0x1057A, 1), (0x1057C, 0x1058A, 1), (0x1058C, 0x10592, 1), (0x10594, 0x10595, 1),
   (0x10597, 0x105A1, 1), (0x105A3, 0x105B1, 1), (0x105B3, 0x105B9, 1), (0x105BB, 0x105BC, 1)]

/-! ### America -/

def canadianAboriginal : List CodeRun :=
  [(0x1400, 0x167F, 1), (0x18B0, 0x18F5, 1), (0x11AB0, 0x11ABF, 1)]

def cherokee : List CodeRun :=
  [(0x13A0, 0x13F5, 1), (0x13F8, 0x13FD, 1), (0xAB70, 0xABBF, 1)]

def deseret : List CodeRun :=
  [(0x10400, 0x1044F, 1)]

def osage : List CodeRun :=
  [(0x104B0, 0x104D3, 1), (0x104D8, 0x104FB, 1)]

/-! ### Africa -/

def adlam : List CodeRun :=
  [(0x1E900, 0x1E94B, 1), (0x1E950, 0x1E959, 1), (0x1E95E, 0x1E95F, 1)]

def bamum : List CodeRun :=
  [(0xA6A0, 0xA6F7, 1), (0x16800, 0x16A38, 1)]

def bassaVah : List CodeRun :=
  [(0x16AD0, 0x16AED, 1), (0x16AF0, 0x16AF5, 1)]

def egyptianHieroglyphs : List CodeRun :=
  [(0x13000, 0x13455, 1), (0x13460, 0x143FA, 1)]

def ethiopic : List CodeRun :=
  [(0x1200, 0x1248, 1), (0x124A, 0x124D, 1), (0x1250, 0x1256, 1), (0x1258, 0x1258, 1),
   (0x125A, 0x125D, 1), (0x1260, 0x1288, 1), (0x128A, 0x128D, 1), (0x1290, 0x12B0, 1),
   (0x12B2, 0x12B5, 1), (0x12B8, 0x12BE, 1), (0x12C0, 0x12C0, 1), (0x12C2, 0x12C5, 1),
   (0x12C8, 0x12D6, 1), (0x12D8, 0x1310, 1), (0x1312, 0x1315, 1), (0x1318, 0x135A, 1),
   (0x135D, 0x137C, 1), (0x1380, 0x1399, 1), (0x2D80, 0x2D96, 1), (0x2DA0, 0x2DA6, 1),
   (0x2DA8, 0x2DAE, 1), (0x2DB0, 0x2DB6, 1), (0x2DB8, 0x2DBE, 1), (0x2DC0, 0x2DC6, 1),
   (0x2DC8, 0x2DCE, 1), (0x2DD0, 0x2DD6, 1), (0x2DD8, 0x2DDE, 1), (0xAB01, 0xAB06, 1),
   (0xAB09, 0xAB0E, 1), (0xAB11, 0xAB16, 1), (0xAB20, 0xAB26, 1), (0xAB28, 0xAB2E, 1),
   (0x1E7E0, 0x1E7E6, 1), (0x1E7E8, 0x1E7EB, 1), (0x1E7ED, 0x1E7EE, 1), (0x1E7F0, 0x1E7FE, 1)]

def garay : List CodeRun :=
  [(0x10D40, 0x10D65, 1), (0x10D69, 0x10D85, 1), (0x10D8E, 0x10D8F, 1)]

def medefaidrin : List CodeRun :=
  [(0x16E40, 0x16E9A, 1)]

def mendeKikakui : List CodeRun :=
  [(0x1E800, 0x1E8C4, 1), (0x1E8C7, 0x1E8D6, 1)]

def meroiticCursive : List CodeRun :=
  [(0x109A0, 0x109B7, 1), (0x109BC, 0x109CF, 1), (0x109D2, 0x109FF, 1)]

def meroiticHieroglyphs : List CodeRun :=
  [(0x10980, 0x1099F, 1)]

def nko : List CodeRun :=
  [(0x7C0, 0x7FA, 1), (0x7FD, 0x7FF, 1)]

def osmanya : List CodeRun :=
  [(0x10480, 0x1049D, 1), (0x104A0, 0x104A9, 1)]

def tifinagh : List CodeRun :=
  [(0x2D30, 0x2D67, 1), (0x2D6F, 0x2D70, 1), (0x2D7F, 0x2D7F, 1)]

def vai : List CodeRun :=
  [(0xA500, 0xA62B, 1)]

/-! ### The Middle East -/

def anatolianHieroglyphs : List CodeRun :=
  [(0x14400, 0x14646, 1)]

def arabic : List CodeRun :=
  [(0x600, 0x604, 1), (0x606, 0x60B, 1), (0x60D, 0x61A, 1), (0x61C, 0x61E, 1), (0x620, 0x63F, 1),
   (0x641, 0x64A, 1), (0x656, 0x66F, 1), (0x671, 0x6DC, 1), (0x6DE, 0x6FF, 1), (0x750, 0x77F, 1),
   (0x870, 0x88E, 1), (0x890, 0x891, 1), (0x897, 0x8E1, 1), (0x8E3, 0x8FF, 1),
   (0xFB50, 0xFBC2, 1), (0xFBD3, 0xFD3D, 1), (0xFD40, 0xFD8F, 1), (0xFD92, 0xFDC7, 1),
   (0xFDCF, 0xFDCF, 1), (0xFDF0, 0xFDFF, 1), (0xFE70, 0xFE74, 1), (0xFE76, 0xFEFC, 1),
   (0x10E60, 0x10E7E, 1), (0x10EC2, 0x10EC4, 1), (0x10EFC, 0x10EFF, 1), (0x1EE00, 0x1EE03, 1),
   (0x1EE05, 0x1EE1F, 1), (0x1EE21, 0x1EE22, 1), (0x1EE24, 0x1EE24, 1), (0x1EE27, 0x1EE27, 1),
   (0x1EE29, 0x1EE32, 1), (0x1EE34, 0x1EE37, 1), (0x1EE39, 0x1EE3B, 2), (0x1EE42, 0x1EE42, 1),
   (0x1EE47, 0x1EE4B, 2), (0x1EE4D, 0x1EE4F, 1), (0x1EE51, 0x1EE52, 1), (0x1EE54, 0x1EE54, 1),
   (0x1EE57, 0x1EE5F, 2), (0x1EE61, 0x1EE62, 1), (0x1EE64, 0x1EE64, 1), (0x1EE67, 0x1EE6A, 1),
   (0x1EE6C, 0x1EE72, 1), (0x1EE74, 0x1EE77, 1), (0x1EE79, 0x1EE7C, 1), (0x1EE7E, 0x1EE7E, 1),
   (0x1EE80, 0x1EE89, 1), (0x1EE8B, 0x1EE9B, 1), (0x1EEA1, 0x1EEA3, 1), (0x1EEA5, 0x1EEA9, 1),
   (0x1EEAB, 0x1EEBB, 1), (0x1EEF0, 0x1EEF1, 1)]

def avestan : List CodeRun :=
  [(0x10B00, 0x10B35, 1), (0x10B39, 0x10B3F, 1)]

def chorasmian : List CodeRun :=
  [(0x10FB0, 0x10FCB, 1)]

def cuneiform : List CodeRun :=
  [(0x12000, 0x12399, 1), (0x12400, 0x1246E, 1), (0x12470, 0x12474, 1), (0x12480, 0x12543, 1)]

def elymaic : List CodeRun :=
  [(0x10FE0, 0x10FF6, 1)]

def hatran : List CodeRun :=
  [(0x108E0, 0x108F2, 1), (0x108F4, 0x108F5, 1), (0x108FB, 0x108FF, 1)]

def hebrew : List CodeRun :=
  [(0x591, 0x5C7, 1), (0x5D0, 0x5EA, 1), (0x5EF, 0x5F4, 1), (0xFB1D, 0xFB36, 1),
   (0xFB38, 0xFB3C, 1), (0xFB3E, 0xFB3E, 1), (0xFB40, 0xFB41, 1), (0xFB43, 0xFB44, 1),
   (0xFB46, 0xFB4F, 1)]

def imperialAramaic : List CodeRun :=
  [(0x10840, 0x10855, 1), (0x10857, 0x1085F, 1)]

def inscriptionalPahlavi : List CodeRun :=
  [(0x10B60, 0x10B72, 1), (0x10B78, 0x10B7F, 1)]

def inscriptionalParthian : List CodeRun :=
  [(0x10B40, 0x10B55, 1), (0x10B58, 0x10B5F, 1)]

def mandaic : List CodeRun :=
  [(0x840, 0x85B, 1), (0x85E, 0x85E, 1)]

def manichaean : List CodeRun :=
  [(0x10AC0, 0x10AE6, 1), (0x10AEB, 0x10AF6, 1)]

def nabataean : List CodeRun :=
  [(0x10880, 0x1089E, 1), (0x108A7, 0x108AF, 1)]

def oldNorthArabian : List CodeRun :=
  [(0x10A80, 0x10A9F, 1)]

def oldPersian : List CodeRun :=
  [(0x103A0, 0x103C3, 1), (0x103C8, 0x103D5, 1)]

def oldSogdian : List CodeRun :=
  [(0x10F00, 0x10F27, 1)]

def oldSouthArabian : List CodeRun :=
  [(0x10A60, 0x10A7F, 1)]

def oldTurkic : List CodeRun :=
  [(0x10C00, 0x10C48, 1)]

def oldUyghur : List CodeRun :=
  [(0x10F70, 0x10F89, 1)]

def palmyrene : List CodeRun :=
  [(0x10860, 0x1087F, 1)]

def phoenician : List CodeRun :=
  [(0x10900, 0x1091B, 1), (0x1091F, 0x1091F, 1)]

def psalterPahlavi : List CodeRun :=
  [(0x10B80, 0x10B91, 1), (0x10B99, 0x10B9C, 1), (0x10BA9, 0x10BAF, 1)]

def samaritan : List CodeRun :=
  [(0x800, 0x82D, 1), (0x830, 0x83E, 1)]

def sogdian : List CodeRun :=
  [(0x10F30, 0x10F59, 1)]

def syriac : List CodeRun :=
  [(0x700, 0x70D, 1), (0x70F, 0x74A, 1), (0x74D, 0x74F, 1), (0x860, 0x86A, 1)]

def thaana : List CodeRun :=
  [(0x780, 0x7B1, 1)]

def ugaritic : List CodeRun :=
  [(0x10380, 0x1039D, 1), (0x1039F, 0x1039F, 1)]

def yezidi : List CodeRun :=
  [(0x10E80, 0x10EA9, 1), (0x10EAB, 0x10EAD, 1), (0x10EB0, 0x10EB1, 1)]

end Formulary.Text.Script
