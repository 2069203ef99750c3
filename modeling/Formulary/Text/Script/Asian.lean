import Formulary.Text.Basic

/-!
# Scripts of Asia

The characters of each script, as ascending runs of code points.
-/
namespace Formulary.Text.Script

/-! ### Central Asia -/

def kharoshthi : List CodeRun :=
  [(0x10A00, 0x10A03, 1), (0x10A05, 0x10A06, 1), (0x10A0C, 0x10A13, 1), (0x10A15, 0x10A17, 1),
   (0x10A19, 0x10A35, 1), (0x10A38, 0x10A3A, 1), (0x10A3F, 0x10A48, 1), (0x10A50, 0x10A58, 1)]

def marchen : List CodeRun :=
  [(0x11C70, 0x11C8F, 1), (0x11C92, 0x11CA7, 1), (0x11CA9, 0x11CB6, 1)]

def mongolian : List CodeRun :=
  [(0x1800, 0x1801, 1), (0x1804, 0x1804, 1), (0x1806, 0x1819, 1), (0x1820, 0x1878, 1),
   (0x1880, 0x18AA, 1), (0x11660, 0x1166C, 1)]

def phagsPa : List CodeRun :=
  [(0xA840, 0xA877, 1)]

def soyombo : List CodeRun :=
  [(0x11A50, 0x11AA2, 1)]

def tibetan : List CodeRun :=
  [(0xF00, 0xF47, 1), (0xF49, 0xF6C, 1), (0xF71, 0xF97, 1), (0xF99, 0xFBC, 1), (0xFBE, 0xFCC, 1),
   (0xFCE, 0xFD4, 1), (0xFD9, 0xFDA, 1)]

def zanabazarSquare : List CodeRun :=
  [(0x11A00, 0x11A47, 1)]

/-! ### South Asia -/

def bengali : List CodeRun :=
  [(0x980, 0x983, 1), (0x985, 0x98C, 1), (0x98F, 0x990, 1), (0x993, 0x9A8, 1), (0x9AA, 0x9B0, 1),
   (0x9B2, 0x9B2, 1), (0x9B6, 0x9B9, 1), (0x9BC, 0x9C4, 1), (0x9C7, 0x9C8, 1), (0x9CB, 0x9CE, 1),
   (0x9D7, 0x9D7, 1), (0x9DC, 0x9DD, 1), (0x9DF, 0x9E3, 1), (0x9E6, 0x9FE, 1)]

def bhaiksuki : List CodeRun :=
  [(0x11C00, 0x11C08, 1), (0x11C0A, 0x11C36, 1), (0x11C38, 0x11C45, 1), (0x11C50, 0x11C6C, 1)]

def brahmi : List CodeRun :=
  [(0x11000, 0x1104D, 1), (0x11052, 0x11075, 1), (0x1107F, 0x1107F, 1)]

def chakma : List CodeRun :=
  [(0x11100, 0x11134, 1), (0x11136, 0x11147, 1)]

def devanagari : List CodeRun :=
  [(0x900, 0x950, 1), (0x955, 0x963, 1), (0x966, 0x97F, 1), (0xA8E0, 0xA8FF, 1),
   (0x11B00, 0x11B09, 1)]

def divesAkuru : List CodeRun :=
  [(0x11900, 0x11906, 1), (0x11909, 0x11909, 1), (0x1190C, 0x11913, 1), (0x11915, 0x11916, 1),
   (0x11918, 0x11935, 1), (0x11937, 0x11938, 1), (0x1193B, 0x11946, 1), (0x11950, 0x11959, 1)]

def dogra : List CodeRun :=
  [(0x11800, 0x1183B, 1)]

def grantha : List CodeRun :=
  [(0x11300, 0x11303, 1), (0x11305, 0x1130C, 1), (0x1130F, 0x11310, 1), (0x11313, 0x11328, 1),
   (0x1132A, 0x11330, 1), (0x11332, 0x11333, 1), (0x11335, 0x11339, 1), (0x1133C, 0x11344, 1),
   (0x11347, 0x11348, 1), (0x1134B, 0x1134D, 1), (0x11350, 0x11350, 1), (0x11357, 0x11357, 1),
   (0x1135D, 0x11363, 1), (0x11366, 0x1136C, 1), (0x11370, 0x11374, 1)]

def gujarati : List CodeRun :=
  [(0xA81, 0xA83, 1), (0xA85, 0xA8D, 1), (0xA8F, 0xA91, 1), (0xA93, 0xAA8, 1), (0xAAA, 0xAB0, 1),
   (0xAB2, 0xAB3, 1), (0xAB5, 0xAB9, 1), (0xABC, 0xAC5, 1), (0xAC7, 0xAC9, 1), (0xACB, 0xACD, 1),
   (0xAD0, 0xAD0, 1), (0xAE0, 0xAE3, 1), (0xAE6, 0xAF1, 1), (0xAF9, 0xAFF, 1)]

def gunjalaGondi : List CodeRun :=
  [(0x11D60, 0x11D65, 1), (0x11D67, 0x11D68, 1), (0x11D6A, 0x11D8E, 1), (0x11D90, 0x11D91, 1),
   (0x11D93, 0x11D98, 1), (0x11DA0, 0x11DA9, 1)]

def gurmukhi : List CodeRun :=
  [(0xA01, 0xA03, 1), (0xA05, 0xA0A, 1), (0xA0F, 0xA10, 1), (0xA13, 0xA28, 1), (0xA2A, 0xA30, 1),
   (0xA32, 0xA33, 1), (0xA35, 0xA36, 1), (0xA38, 0xA39, 1), (0xA3C, 0xA3C, 1), (0xA3E, 0xA42, 1),
   (0xA47, 0xA48, 1), (0xA4B, 0xA4D, 1), (0xA51, 0xA51, 1), (0xA59, 0xA5C, 1), (0xA5E, 0xA5E, 1),
   (0xA66, 0xA76, 1)]

def gurungKhema : List CodeRun :=
  [(0x16100, 0x16139, 1)]

def kaithi : List CodeRun :=
  [(0x11080, 0x110C2, 1), (0x110CD, 0x110CD, 1)]

def kannada : List CodeRun :=
  [(0xC80, 0xC8C, 1), (0xC8E, 0xC90, 1), (0xC92, 0xCA8, 1), (0xCAA, 0xCB3, 1), (0xCB5, 0xCB9, 1),
   (0xCBC, 0xCC4, 1), (0xCC6, 0xCC8, 1), (0xCCA, 0xCCD, 1), (0xCD5, 0xCD6, 1), (0xCDD, 0xCDE, 1),
   (0xCE0, 0xCE3, 1), (0xCE6, 0xCEF, 1), (0xCF1, 0xCF3, 1)]

def khojki : List CodeRun :=
  [(0x11200, 0x11211, 1), (0x11213, 0x11241, 1)]

def khudawadi : List CodeRun :=
  [(0x112B0, 0x112EA, 1), (0x112F0, 0x112F9, 1)]

def kiratRai : List CodeRun :=
  [(0x16D40, 0x16D79, 1)]

def lepcha : List CodeRun :=
  [(0x1C00, 0x1C37, 1), (0x1C3B, 0x1C49, 1), (0x1C4D, 0x1C4F, 1)]

def limbu : List CodeRun :=
  [(0x1900, 0x191E, 1), (0x1920, 0x192B, 1), (0x1930, 0x193B, 1), (0x1940, 0x1940, 1),
   (0x1944, 0x194F, 1)]

def mahajani : List CodeRun :=
  [(0x11150, 0x11176, 1)]

def malayalam : List CodeRun :=
  [(0xD00, 0xD0C, 1), (0xD0E, 0xD10, 1), (0xD12, 0xD44, 1), (0xD46, 0xD48, 1), (0xD4A, 0xD4F, 1),
   (0xD54, 0xD63, 1), (0xD66, 0xD7F, 1)]

def masaramGondi : List CodeRun :=
  [(0x11D00, 0x11D06, 1), (0x11D08, 0x11D09, 1), (0x11D0B, 0x11D36, 1), (0x11D3A, 0x11D3A, 1),
   (0x11D3C, 0x11D3D, 1), (0x11D3F, 0x11D47, 1), (0x11D50, 0x11D59, 1)]

def meeteiMayek : List CodeRun :=
  [(0xAAE0, 0xAAF6, 1), (0xABC0, 0xABED, 1), (0xABF0, 0xABF9, 1)]

def modi : List CodeRun :=
  [(0x11600, 0x11644, 1), (0x11650, 0x11659, 1)]

def mro : List CodeRun :=
  [(0x16A40, 0x16A5E, 1), (0x16A60, 0x16A69, 1), (0x16A6E, 0x16A6F, 1)]

def multani : List CodeRun :=
  [(0x11280, 0x11286, 1), (0x11288, 0x11288, 1), (0x1128A, 0x1128D, 1), (0x1128F, 0x1129D, 1),
   (0x1129F, 0x112A9, 1)]

def nagMundari : List CodeRun :=
  [(0x1E4D0, 0x1E4F9, 1)]

def nandinagari : List CodeRun :=
  [(0x119A0, 0x119A7, 1), (0x119AA, 0x119D7, 1), (0x119DA, 0x119E4, 1)]

def newa : List CodeRun :=
  [(0x11400, 0x1145B, 1), (0x1145D, 0x11461, 1)]

def olChiki : List CodeRun :=
  [(0x1C50, 0x1C7F, 1)]

def olOnal : List CodeRun :=
  [(0x1E5D0, 0x1E5FA, 1), (0x1E5FF, 0x1E5FF, 1)]

def oriya : List CodeRun :=
  [(0xB01, 0xB03, 1), (0xB05, 0xB0C, 1), (0xB0F, 0xB10, 1), (0xB13, 0xB28, 1), (0xB2A, 0xB30, 1),
   (0xB32, 0xB33, 1), (0xB35, 0xB39, 1), (0xB3C, 0xB44, 1), (0xB47, 0xB48, 1), (0xB4B, 0xB4D, 1),
   (0xB55, 0xB57, 1), (0xB5C, 0xB5D, 1), (0xB5F, 0xB63, 1), (0xB66, 0xB77, 1)]

def saurashtra : List CodeRun :=
  [(0xA880, 0xA8C5, 1), (0xA8CE, 0xA8D9, 1)]

def sharada : List CodeRun :=
  [(0x11180, 0x111DF, 1)]

def siddham : List CodeRun :=
  [(0x11580, 0x115B5, 1), (0x115B8, 0x115DD, 1)]

def sinhala : List CodeRun :=
  [(0xD81, 0xD83, 1), (0xD85, 0xD96, 1), (0xD9A, 0xDB1, 1), (0xDB3, 0xDBB, 1), (0xDBD, 0xDBD, 1),
   (0xDC0, 0xDC6, 1), (0xDCA, 0xDCA, 1), (0xDCF, 0xDD4, 1), (0xDD6, 0xDD6, 1), (0xDD8, 0xDDF, 1),
   (0xDE6, 0xDEF, 1), (0xDF2, 0xDF4, 1), (0x111E1, 0x111F4, 1)]

def soraSompeng : List CodeRun :=
  [(0x110D0, 0x110E8, 1), (0x110F0, 0x110F9, 1)]

def sunuwar : List CodeRun :=
  [(0x11BC0, 0x11BE1, 1), (0x11BF0, 0x11BF9, 1)]

def sylotiNagri : List CodeRun :=
  [(0xA800, 0xA82C, 1)]

def takri : List CodeRun :=
  [(0x11680, 0x116B9, 1), (0x116C0, 0x116C9, 1)]

def tamil : List CodeRun :=
  [(0xB82, 0xB83, 1), (0xB85, 0xB8A, 1), (0xB8E, 0xB90, 1), (0xB92, 0xB95, 1), (0xB99, 0xB9A, 1),
   (0xB9C, 0xB9C, 1), (0xB9E, 0xB9F, 1), (0xBA3, 0xBA4, 1), (0xBA8, 0xBAA, 1), (0xBAE, 0xBB9, 1),
   (0xBBE, 0xBC2, 1), (0xBC6, 0xBC8, 1), (0xBCA, 0xBCD, 1), (0xBD0, 0xBD0, 1), (0xBD7, 0xBD7, 1),
   (0xBE6, 0xBFA, 1), (0x11FC0, 0x11FF1, 1), (0x11FFF, 0x11FFF, 1)]

def tangsa : List CodeRun :=
  [(0x16A70, 0x16ABE, 1), (0x16AC0, 0x16AC9, 1)]

def telugu : List CodeRun :=
  [(0xC00, 0xC0C, 1), (0xC0E, 0xC10, 1), (0xC12, 0xC28, 1), (0xC2A, 0xC39, 1), (0xC3C, 0xC44, 1),
   (0xC46, 0xC48, 1), (0xC4A, 0xC4D, 1), (0xC55, 0xC56, 1), (0xC58, 0xC5A, 1), (0xC5D, 0xC5D, 1),
   (0xC60, 0xC63, 1), (0xC66, 0xC6F, 1), (0xC77, 0xC7F, 1)]

def tirhuta : List CodeRun :=
  [(0x11480, 0x114C7, 1), (0x114D0, 0x114D9, 1)]

def toto : List CodeRun :=
  [(0x1E290, 0x1E2AE, 1)]

def tuluTigalari : List CodeRun :=
  [(0x11380, 0x11389, 1), (0x1138B, 0x1138B, 1), (0x1138E, 0x1138E, 1), (0x11390, 0x113B5, 1),
   (0x113B7, 0x113C0, 1), (0x113C2, 0x113C2, 1), (0x113C5, 0x113C5, 1), (0x113C7, 0x113CA, 1),
   (0x113CC, 0x113D5, 1), (0x113D7, 0x113D8, 1), (0x113E1, 0x113E2, 1)]

def wancho : List CodeRun :=
  [(0x1E2C0, 0x1E2F9, 1), (0x1E2FF, 0x1E2FF, 1)]

def warangCiti : List CodeRun :=
  [(0x118A0, 0x118F2, 1), (0x118FF, 0x118FF, 1)]

/-! ### Southeast Asia -/

def ahom : List CodeRun :=
  [(0x11700, 0x1171A, 1), (0x1171D, 0x1172B, 1), (0x11730, 0x11746, 1)]

def balinese : List CodeRun :=
  [(0x1B00, 0x1B4C, 1), (0x1B4E, 0x1B7F, 1)]

def batak : List CodeRun :=
  [(0x1BC0, 0x1BF3, 1), (0x1BFC, 0x1BFF, 1)]

def buginese : List CodeRun :=
  [(0x1A00, 0x1A1B, 1), (0x1A1E, 0x1A1F, 1)]

def buhid : List CodeRun :=
  [(0x1740, 0x1753, 1)]

def cham : List CodeRun :=
  [(0xAA00, 0xAA36, 1), (0xAA40, 0xAA4D, 1), (0xAA50, 0xAA59, 1), (0xAA5C, 0xAA5F, 1)]

def hanifiRohingya : List CodeRun :=
  [(0x10D00, 0x10D27, 1), (0x10D30, 0x10D39, 1)]

def hanunoo : List CodeRun :=
  [(0x1720, 0x1734, 1)]

def javanese : List CodeRun :=
  [(0xA980, 0xA9CD, 1), (0xA9D0, 0xA9D9, 1), (0xA9DE, 0xA9DF, 1)]

def kawi : List CodeRun :=
  [(0x11F00, 0x11F10, 1), (0x11F12, 0x11F3A, 1), (0x11F3E, 0x11F5A, 1)]

def kayahLi : List CodeRun :=
  [(0xA900, 0xA92D, 1), (0xA92F, 0xA92F, 1)]

def khmer : List CodeRun :=
  [(0x1780, 0x17DD, 1), (0x17E0, 0x17E9, 1), (0x17F0, 0x17F9, 1), (0x19E0, 0x19FF, 1)]

def lao : List CodeRun :=
  [(0xE81, 0xE82, 1), (0xE84, 0xE84, 1), (0xE86, 0xE8A, 1), (0xE8C, 0xEA3, 1), (0xEA5, 0xEA5, 1),
   (0xEA7, 0xEBD, 1), (0xEC0, 0xEC4, 1), (0xEC6, 0xEC6, 1), (0xEC8, 0xECE, 1), (0xED0, 0xED9, 1),
   (0xEDC, 0xEDF, 1)]

def makasar : List CodeRun :=
  [(0x11EE0, 0x11EF8, 1)]

def myanmar : List CodeRun :=
  [(0x1000, 0x109F, 1), (0xA9E0, 0xA9FE, 1), (0xAA60, 0xAA7F, 1), (0x116D0, 0x116E3, 1)]

def newTaiLue : List CodeRun :=
  [(0x1980, 0x19AB, 1), (0x19B0, 0x19C9, 1), (0x19D0, 0x19DA, 1), (0x19DE, 0x19DF, 1)]

def nyiakengPuachueHmong : List CodeRun :=
  [(0x1E100, 0x1E12C, 1), (0x1E130, 0x1E13D, 1), (0x1E140, 0x1E149, 1), (0x1E14E, 0x1E14F, 1)]

def pahawhHmong : List CodeRun :=
  [(0x16B00, 0x16B45, 1), (0x16B50, 0x16B59, 1), (0x16B5B, 0x16B61, 1), (0x16B63, 0x16B77, 1),
   (0x16B7D, 0x16B8F, 1)]

def pauCinHau : List CodeRun :=
  [(0x11AC0, 0x11AF8, 1)]

def rejang : List CodeRun :=
  [(0xA930, 0xA953, 1), (0xA95F, 0xA95F, 1)]

def sundanese : List CodeRun :=
  [(0x1B80, 0x1BBF, 1), (0x1CC0, 0x1CC7, 1)]

def tagalog : List CodeRun :=
  [(0x1700, 0x1715, 1), (0x171F, 0x171F, 1)]

def tagbanwa : List CodeRun :=
  [(0x1760, 0x176C, 1), (0x176E, 0x1770, 1), (0x1772, 0x1773, 1)]

def taiLe : List CodeRun :=
  [(0x1950, 0x196D, 1), (0x1970, 0x1974, 1)]

def taiTham : List CodeRun :=
  [(0x1A20, 0x1A5E, 1), (0x1A60, 0x1A7C, 1), (0x1A7F, 0x1A89, 1), (0x1A90, 0x1A99, 1),
   (0x1AA0, 0x1AAD, 1)]

def taiViet : List CodeRun :=
  [(0xAA80, 0xAAC2, 1), (0xAADB, 0xAADF, 1)]

def thai : List CodeRun :=
  [(0xE01, 0xE3A, 1), (0xE40, 0xE5B, 1)]

/-! ### East Asia -/

def bopomofo : List CodeRun :=
  [(0x2EA, 0x2EB, 1), (0x3105, 0x312F, 1), (0x31A0, 0x31BF, 1)]

def han : List CodeRun :=
  [(0x2E80, 0x2E99, 1), (0x2E9B, 0x2EF3, 1), (0x2F00, 0x2FD5, 1), (0x3005, 0x3007, 2),
   (0x3021, 0x3029, 1), (0x3038, 0x303B, 1), (0x3400, 0x4DBF, 1), (0x4E00, 0x9FFF, 1),
   (0xF900, 0xFA6D, 1), (0xFA70, 0xFAD9, 1), (0x16FE2, 0x16FE3, 1), (0x16FF0, 0x16FF1, 1),
   (0x20000, 0x2A6DF, 1), (0x2A700, 0x2B739, 1), (0x2B740, 0x2B81D, 1), (0x2B820, 0x2CEA1, 1),
   (0x2CEB0, 0x2EBE0, 1), (0x2EBF0, 0x2EE5D, 1), (0x2F800, 0x2FA1D, 1), (0x30000, 0x3134A, 1),
   (0x31350, 0x323AF, 1)]

def hangul : List CodeRun :=
  [(0x1100, 0x11FF, 1), (0x302E, 0x302F, 1), (0x3131, 0x318E, 1), (0x3200, 0x321E, 1),
   (0x3260, 0x327E, 1), (0xA960, 0xA97C, 1), (0xAC00, 0xD7A3, 1), (0xD7B0, 0xD7C6, 1),
   (0xD7CB, 0xD7FB, 1), (0xFFA0, 0xFFBE, 1), (0xFFC2, 0xFFC7, 1), (0xFFCA, 0xFFCF, 1),
   (0xFFD2, 0xFFD7, 1), (0xFFDA, 0xFFDC, 1)]

def hiragana : List CodeRun :=
  [(0x3041, 0x3096, 1), (0x309D, 0x309F, 1), (0x1B001, 0x1B11F, 1), (0x1B132, 0x1B132, 1),
   (0x1B150, 0x1B152, 1), (0x1F200, 0x1F200, 1)]

def katakana : List CodeRun :=
  [(0x30A1, 0x30FA, 1), (0x30FD, 0x30FF, 1), (0x31F0, 0x31FF, 1), (0x32D0, 0x32FE, 1),
   (0x3300, 0x3357, 1), (0xFF66, 0xFF6F, 1), (0xFF71, 0xFF9D, 1), (0x1AFF0, 0x1AFF3, 1),
   (0x1AFF5, 0x1AFFB, 1), (0x1AFFD, 0x1AFFE, 1), (0x1B000, 0x1B000, 1), (0x1B120, 0x1B122, 1),
   (0x1B155, 0x1B155, 1), (0x1B164, 0x1B167, 1)]

def khitanSmallScript : List CodeRun :=
  [(0x16FE4, 0x16FE4, 1), (0x18B00, 0x18CD5, 1), (0x18CFF, 0x18CFF, 1)]

def lisu : List CodeRun :=
  [(0xA4D0, 0xA4FF, 1), (0x11FB0, 0x11FB0, 1)]

def miao : List CodeRun :=
  [(0x16F00, 0x16F4A, 1), (0x16F4F, 0x16F87, 1), (0x16F8F, 0x16F9F, 1)]

def nushu : List CodeRun :=
  [(0x16FE1, 0x16FE1, 1), (0x1B170, 0x1B2FB, 1)]

def tangut : List CodeRun :=
  [(0x16FE0, 0x16FE0, 1), (0x17000, 0x187F7, 1), (0x18800, 0x18AFF, 1), (0x18D00, 0x18D08, 1)]

def yi : List CodeRun :=
  [(0xA000, 0xA48C, 1), (0xA490, 0xA4C6, 1)]

end Formulary.Text.Script
