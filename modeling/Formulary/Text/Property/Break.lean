import Formulary.Text.Property
import Formulary.Text.Script

/-!
# Characters at breaks

How a character behaves where a text is cut into the signs that readers see, into words, and into
sentences. The kinds of each way of cutting are given by their names.

## Main definitions

* `graphemeBreak?`, `wordBreak?`, `sentenceBreak?` : the characters of a kind.
-/
namespace Formulary.Text.Property

def only (code : Nat) : CodeSet := [(code, code)]

def signExtend : CodeSet := graphemeExtend.union (.ofRuns emojiModifierRuns)

def signControl : CodeSet :=
  (CodeSet.unions [ofCategories [.lineSeparator, .paragraphSeparator, .control, .format],
    Category.unassigned.set.inter defaultIgnorable]).diff
    (.unions [only 0xA, only 0xD, only 0x200D, signExtend, .ofRuns prependedConcatenationMarkRuns])

def signPrependLetters : List CodeRun :=
  [(0xD4E, 0xD4E, 1), (0x111C2, 0x111C3, 1), (0x113D1, 0x113D1, 1), (0x1193F, 0x11941, 2),
   (0x11A3A, 0x11A3A, 1), (0x11A84, 0x11A89, 1), (0x11D46, 0x11D46, 1), (0x11F02, 0x11F02, 1)]

/-- Spacing marks that begin a sign of their own. -/
def loneSpacingMarks : List CodeRun :=
  [(0x102B, 0x102C, 1), (0x1038, 0x1038, 1), (0x1062, 0x1064, 1), (0x1067, 0x106D, 1),
   (0x1083, 0x1083, 1), (0x1087, 0x108C, 1), (0x108F, 0x108F, 1), (0x109A, 0x109C, 1),
   (0x1A61, 0x1A63, 2), (0x1A64, 0x1A64, 1), (0xAA7B, 0xAA7D, 2), (0x11720, 0x11721, 1)]

def signSpacingMark : CodeSet :=
  (CodeSet.unions [Category.spacingMark.set, only 0xE33, only 0xEB3]).diff
    (signExtend.union (.ofRuns loneSpacingMarks))

/-- The syllables of Hangul without a final consonant, of which each begins a row. -/
def openSyllables : List CodeRun := [(0xAC00, 0xD788, 28)]

def syllables : CodeSet := [(0xAC00, 0xD7A3)]

/-- The characters of a kind where a text is cut into signs. -/
def graphemeBreak? (kind : String) : Option CodeSet :=
  match kind with
  | "cr" => some (only 0xD)
  | "lf" => some (only 0xA)
  | "cn" | "control" => some signControl
  | "ex" | "extend" => some signExtend
  | "l" => some [(0x1100, 0x115F), (0xA960, 0xA97C)]
  | "v" => some [(0x1160, 0x11A7), (0xD7B0, 0xD7C6), (0x16D63, 0x16D63), (0x16D67, 0x16D6A)]
  | "t" => some [(0x11A8, 0x11FF), (0xD7CB, 0xD7FB)]
  | "lv" => some (.ofRuns openSyllables)
  | "lvt" => some (syllables.diff (.ofRuns openSyllables))
  | "pp" | "prepend" =>
    some ((CodeSet.ofRuns prependedConcatenationMarkRuns).union (.ofRuns signPrependLetters))
  | "ri" | "regionalindicator" => some (.ofRuns regionalIndicatorRuns)
  | "sm" | "spacingmark" => some signSpacingMark
  | "zwj" => some (only 0x200D)
  | _ => none

/-- Signs before numbers that count as their digits. -/
def numberSigns : CodeSet :=
  [(0x600, 0x605), (0x6DD, 0x6DD), (0x890, 0x891), (0x8E2, 0x8E2), (0x110BD, 0x110BD),
   (0x110CD, 0x110CD)]

/-- The letters of scripts that are written without blanks between words. -/
def unspacedLetters : List CodeRun :=
  [(0xE01, 0xE30, 1), (0xE32, 0xE33, 1), (0xE40, 0xE46, 1), (0xE81, 0xE82, 1), (0xE84, 0xE84, 1),
   (0xE86, 0xE8A, 1), (0xE8C, 0xEA3, 1), (0xEA5, 0xEA5, 1), (0xEA7, 0xEB0, 1), (0xEB2, 0xEB3, 1),
   (0xEBD, 0xEBD, 1), (0xEC0, 0xEC4, 1), (0xEC6, 0xEC6, 1), (0xEDC, 0xEDF, 1),
   (0x1000, 0x102A, 1), (0x103F, 0x103F, 1), (0x1050, 0x1055, 1), (0x105A, 0x105D, 1),
   (0x1061, 0x1061, 1), (0x1065, 0x1066, 1), (0x106E, 0x1070, 1), (0x1075, 0x1081, 1),
   (0x108E, 0x108E, 1), (0x1780, 0x17B3, 1), (0x17D7, 0x17D7, 1), (0x17DC, 0x17DC, 1),
   (0x1950, 0x196D, 1), (0x1970, 0x1974, 1), (0x1980, 0x19AB, 1), (0x19B0, 0x19C9, 1),
   (0x1A20, 0x1A54, 1), (0x1AA7, 0x1AA7, 1), (0xA9E0, 0xA9E4, 1), (0xA9E6, 0xA9EF, 1),
   (0xA9FA, 0xA9FE, 1), (0xAA60, 0xAA76, 1), (0xAA7A, 0xAA7A, 1), (0xAA7E, 0xAAAF, 1),
   (0xAAB1, 0xAAB1, 1), (0xAAB5, 0xAAB6, 1), (0xAAB9, 0xAABD, 1), (0xAAC0, 0xAAC2, 2),
   (0xAADB, 0xAADD, 1), (0x11700, 0x1171A, 1), (0x11740, 0x11746, 1)]

def wordLetterAdditions : List CodeRun :=
  [(0x2C2, 0x2C5, 1), (0x2D2, 0x2D7, 1), (0x2DE, 0x2DF, 1), (0x2E5, 0x2EB, 1), (0x2ED, 0x2ED, 1),
   (0x2EF, 0x2FF, 1), (0x55A, 0x55C, 1), (0x55E, 0x55E, 1), (0x58A, 0x58A, 1), (0x5F3, 0x5F3, 1),
   (0xA708, 0xA716, 1), (0xA720, 0xA721, 1), (0xA789, 0xA78A, 1), (0xAB5B, 0xAB5B, 1)]

def wordKatakana : CodeSet :=
  (CodeSet.ofRuns Script.katakana).union
    [(0x3031, 0x3035), (0x309B, 0x309C), (0x30A0, 0x30A0), (0x30FC, 0x30FC), (0xFF70, 0xFF70)]

def hebrewLetter : CodeSet := (CodeSet.ofRuns Script.hebrew).inter Category.otherLetter.set

def wordExtend : CodeSet := (signExtend.union Category.spacingMark.set).diff (only 0x200D)

/-- The letters of words, but for those that have a kind of their own. -/
def wordLetter : CodeSet :=
  (alphabetic.diff (.unions [.ofRuns ideographicRuns, wordKatakana, .ofRuns Script.hiragana,
    wordExtend, hebrewLetter, .ofRuns unspacedLetters])).union (.ofRuns wordLetterAdditions)

def plainFormat : CodeSet :=
  Category.format.set.diff (.unions [numberSigns, [(0x200C, 0x200D)], graphemeExtend])

/-- The digits of numbers, and the signs that count as such. -/
def numeric : CodeSet := .unions [Category.decimalNumber.set, numberSigns, only 0x66B]

/-- The characters of a kind where a text is cut into words. -/
def wordBreak? (kind : String) : Option CodeSet :=
  match kind with
  | "cr" => some (only 0xD)
  | "lf" => some (only 0xA)
  | "nl" | "newline" => some [(0xB, 0xC), (0x85, 0x85), (0x2028, 0x2029)]
  | "dq" | "doublequote" => some (only 0x22)
  | "sq" | "singlequote" => some (only 0x27)
  | "ex" | "extendnumlet" => some (Category.connectorPunctuation.set.union (only 0x202F))
  | "extend" => some wordExtend
  | "fo" | "format" => some (plainFormat.diff (only 0x200B))
  | "hl" | "hebrewletter" => some hebrewLetter
  | "ka" | "katakana" => some wordKatakana
  | "le" | "aletter" => some wordLetter
  | "mb" | "midnumlet" =>
    some [(0x2E, 0x2E), (0x2018, 0x2019), (0x2024, 0x2024), (0xFE52, 0xFE52), (0xFF07, 0xFF07),
      (0xFF0E, 0xFF0E)]
  | "ml" | "midletter" =>
    some [(0x3A, 0x3A), (0xB7, 0xB7), (0x387, 0x387), (0x55F, 0x55F), (0x5F4, 0x5F4),
      (0x2027, 0x2027), (0xFE13, 0xFE13), (0xFE55, 0xFE55), (0xFF1A, 0xFF1A)]
  | "mn" | "midnum" =>
    some [(0x2C, 0x2C), (0x3B, 0x3B), (0x37E, 0x37E), (0x589, 0x589), (0x60C, 0x60D),
      (0x66C, 0x66C), (0x7F8, 0x7F8), (0x2044, 0x2044), (0xFE10, 0xFE10), (0xFE14, 0xFE14),
      (0xFE50, 0xFE50), (0xFE54, 0xFE54), (0xFF0C, 0xFF0C), (0xFF1B, 0xFF1B)]
  | "nu" | "numeric" => some numeric
  | "ri" | "regionalindicator" => some (.ofRuns regionalIndicatorRuns)
  | "wsegspace" =>
    some [(0x20, 0x20), (0x1680, 0x1680), (0x2000, 0x2006), (0x2008, 0x200A), (0x205F, 0x205F),
      (0x3000, 0x3000)]
  | "zwj" => some (only 0x200D)
  | _ => none

def georgianLower : CodeSet := [(0x10D0, 0x10FA), (0x10FD, 0x10FF)]

/-- The letters of Georgian in upper case, which need not begin a sentence. -/
def georgianUpper : CodeSet := [(0x1C90, 0x1CBA), (0x1CBD, 0x1CBF)]

def sentenceExtend : CodeSet :=
  .unions [graphemeExtend, Category.spacingMark.set, only 0x200D]

def sentenceLower : CodeSet := lowercase.diff (graphemeExtend.union georgianLower)

def sentenceUpper : CodeSet := (uppercase.union Category.titlecaseLetter.set).diff georgianUpper

def fullStops : CodeSet := [(0x2E, 0x2E), (0x2024, 0x2024), (0xFE52, 0xFE52), (0xFF0E, 0xFF0E)]

def neutralQuotes : CodeSet :=
  [(0x22, 0x22), (0x27, 0x27), (0x275B, 0x2760), (0x2E00, 0x2E01), (0x2E06, 0x2E08),
   (0x2E0B, 0x2E0B), (0x1F676, 0x1F678)]

/-- Punctuation after which a sentence goes on. -/
def sentenceContinue : CodeSet :=
  [(0x2C, 0x2D), (0x3A, 0x3B), (0x37E, 0x37E), (0x55D, 0x55D), (0x60C, 0x60D), (0x7F8, 0x7F8),
   (0x1802, 0x1802), (0x1808, 0x1808), (0x2013, 0x2014), (0x3001, 0x3001), (0xFE10, 0xFE11),
   (0xFE13, 0xFE14), (0xFE31, 0xFE32), (0xFE50, 0xFE51), (0xFE54, 0xFE55), (0xFE58, 0xFE58),
   (0xFE63, 0xFE63), (0xFF0C, 0xFF0D), (0xFF1A, 0xFF1B), (0xFF64, 0xFF64)]

/-- The characters of a kind where a text is cut into sentences. -/
def sentenceBreak? (kind : String) : Option CodeSet :=
  match kind with
  | "cr" => some (only 0xD)
  | "lf" => some (only 0xA)
  | "se" | "sep" => some [(0x85, 0x85), (0x2028, 0x2029)]
  | "sp" =>
    some (whiteSpace.diff [(0xA, 0xA), (0xD, 0xD), (0x85, 0x85), (0x2028, 0x2029)])
  | "at" | "aterm" => some fullStops
  | "st" | "sterm" => some ((CodeSet.ofRuns sentenceTerminalRuns).diff fullStops)
  | "sc" | "scontinue" => some sentenceContinue
  | "cl" | "close" =>
    some ((ofCategories [.openPunctuation, .closePunctuation, .initialPunctuation,
      .finalPunctuation]).union neutralQuotes)
  | "ex" | "extend" => some sentenceExtend
  | "fo" | "format" => some plainFormat
  | "lo" | "lower" => some sentenceLower
  | "up" | "upper" => some sentenceUpper
  | "le" | "oletter" =>
    some ((CodeSet.unions [alphabetic, georgianLower, georgianUpper, only 0x5F3]).diff
      (.unions [sentenceLower, sentenceUpper, sentenceExtend]))
  | "nu" | "numeric" => some (numeric.union (only 0x66C))
  | _ => none

end Formulary.Text.Property
