import Formulary.Text.Category
import Formulary.Text.Basic

/-!
# Recent characters and quoted text

Names and patterns know the characters of one edition of the character database, while texts are
put into one case and shown in quotes by the edition after it. Messages show a text in quotes so that
every character of it can be told: those that do not print, and those that join the character before
them, are written by their numbers.

## Main definitions

* `isRecent`, `isRecentAlphabetic`, `isRecentNumber` : what is new in the later edition;
* `quoted` : a text in quotes.
-/
namespace Formulary.Text

/-! ### Recent characters -/

def recentCased : List CodeRun :=
  [(0xA7CE, 0xA7CF, 1), (0xA7D2, 0xA7D4, 2), (0x16EA0, 0x16EB8, 1), (0x16EBB, 0x16ED3, 1)]

def recentModifiers : List CodeRun :=
  [(0xA7F1, 0xA7F1, 1), (0x10EC5, 0x10EC5, 1), (0x11DD9, 0x11DD9, 1), (0x16FF2, 0x16FF3, 1),
   (0x1E6FF, 0x1E6FF, 1)]

def recentOtherLetters : List CodeRun :=
  [(0x88F, 0x88F, 1), (0xC5C, 0xC5C, 1), (0xCDC, 0xCDC, 1), (0x10940, 0x10959, 1),
   (0x10EC6, 0x10EC7, 1), (0x11DB0, 0x11DD8, 1), (0x11DDA, 0x11DDB, 1), (0x187F8, 0x187FF, 1),
   (0x18D09, 0x18D1E, 1), (0x18D80, 0x18DF2, 1), (0x1E6C0, 0x1E6DE, 1), (0x1E6E0, 0x1E6E2, 1),
   (0x1E6E4, 0x1E6E5, 1), (0x1E6E7, 0x1E6ED, 1), (0x1E6F0, 0x1E6F4, 1), (0x1E6FE, 0x1E6FE, 1),
   (0x2B73A, 0x2B73F, 1), (0x2CEA2, 0x2CEAD, 1), (0x323B0, 0x33479, 1)]

def recentMarks : List CodeRun :=
  [(0x1ACF, 0x1ADD, 1), (0x1AE0, 0x1AEB, 1), (0x10EFA, 0x10EFB, 1), (0x11B60, 0x11B60, 1),
   (0x11B62, 0x11B64, 1), (0x11B66, 0x11B66, 1), (0x1E6E3, 0x1E6E3, 1), (0x1E6E6, 0x1E6E6, 1),
   (0x1E6EE, 0x1E6EF, 1), (0x1E6F5, 0x1E6F5, 1)]

def recentVowelMarks : List CodeRun :=
  [(0x10EFA, 0x10EFB, 1), (0x11B60, 0x11B60, 1), (0x11B62, 0x11B64, 1), (0x11B66, 0x11B66, 1),
   (0x1E6E3, 0x1E6E3, 1), (0x1E6E6, 0x1E6E6, 1), (0x1E6EE, 0x1E6EF, 1), (0x1E6F5, 0x1E6F5, 1)]

/-- New marks that take space; all belong to alphabets. -/
def recentSpacingMarks : List CodeRun :=
  [(0x11B61, 0x11B61, 1), (0x11B65, 0x11B67, 2)]

def recentDigits : List CodeRun :=
  [(0x11DE0, 0x11DE9, 1)]

def recentLetterNumbers : List CodeRun :=
  [(0x16FF4, 0x16FF6, 1)]

def recentSymbols : List CodeRun :=
  [(0x20C1, 0x20C1, 1), (0x2B96, 0x2B96, 1), (0xFBC3, 0xFBD2, 1), (0xFD90, 0xFD91, 1),
   (0xFDC8, 0xFDCE, 1), (0x10ED0, 0x10ED8, 1), (0x1CCFA, 0x1CCFC, 1), (0x1CEBA, 0x1CED0, 1),
   (0x1CEE0, 0x1CEF0, 1), (0x1F6D8, 0x1F6D8, 1), (0x1F777, 0x1F77A, 1), (0x1F8D0, 0x1F8D8, 1),
   (0x1FA54, 0x1FA57, 1), (0x1FA8A, 0x1FA8A, 1), (0x1FA8E, 0x1FA8E, 1), (0x1FAC8, 0x1FAC8, 1),
   (0x1FACD, 0x1FACD, 1), (0x1FAEA, 0x1FAEA, 1), (0x1FAEF, 0x1FAEF, 1), (0x1FBFA, 0x1FBFA, 1)]

def isRecent (code : Nat) : Bool :=
  [recentCased, recentModifiers, recentOtherLetters, recentMarks, recentSpacingMarks,
    recentDigits, recentLetterNumbers, recentSymbols].any fun runs => CodeRun.covers runs code

def isRecentAlphabetic (c : Char) : Bool :=
  [recentCased, recentModifiers, recentOtherLetters, recentVowelMarks, recentSpacingMarks,
    recentLetterNumbers].any fun runs => CodeRun.covers runs c.toNat

def isRecentNumber (c : Char) : Bool :=
  [recentDigits, recentLetterNumbers].any fun runs => CodeRun.covers runs c.toNat

/-! ### Quotes -/

/-- Spacing marks and letters that join the character before them. -/
def joiningAdditions : List CodeRun :=
  [(0x9BE, 0x9BE, 1), (0x9D7, 0x9D7, 1), (0xB3E, 0xB3E, 1), (0xB57, 0xB57, 1),
   (0xBBE, 0xBBE, 1), (0xBD7, 0xBD7, 1), (0xCC0, 0xCC2, 2), (0xCC7, 0xCC8, 1),
   (0xCCA, 0xCCB, 1), (0xCD5, 0xCD6, 1), (0xD3E, 0xD3E, 1), (0xD57, 0xD57, 1),
   (0xDCF, 0xDCF, 1), (0xDDF, 0xDDF, 1), (0x1715, 0x1715, 1), (0x1734, 0x1734, 1),
   (0x1B35, 0x1B35, 1), (0x1B3B, 0x1B3D, 2), (0x1B43, 0x1B44, 1), (0x1BAA, 0x1BAA, 1),
   (0x1BF2, 0x1BF3, 1), (0x302E, 0x302F, 1), (0xA953, 0xA953, 1), (0xA9C0, 0xA9C0, 1),
   (0xFF9E, 0xFF9F, 1), (0x111C0, 0x111C0, 1), (0x11235, 0x11235, 1), (0x1133E, 0x1133E, 1),
   (0x1134D, 0x1134D, 1), (0x11357, 0x11357, 1), (0x113B8, 0x113B8, 1), (0x113C2, 0x113C2, 1),
   (0x113C5, 0x113C5, 1), (0x113C7, 0x113C9, 1), (0x113CF, 0x113CF, 1), (0x114B0, 0x114B0, 1),
   (0x114BD, 0x114BD, 1), (0x115AF, 0x115AF, 1), (0x116B6, 0x116B6, 1), (0x11930, 0x11930, 1),
   (0x1193D, 0x1193D, 1), (0x11F41, 0x11F41, 1), (0x16FF0, 0x16FF1, 1), (0x1D165, 0x1D166, 1),
   (0x1D16D, 0x1D172, 1)]

/-- A character that joins the one before it. -/
def joinsPrevious (c : Char) : Bool :=
  isOneOf [.nonspacingMark, .enclosingMark] c || CodeRun.covers joiningAdditions c.toNat
    || CodeRun.covers recentMarks c.toNat

/-- A character that leaves a mark of its own, or the ordinary blank. -/
def prints (c : Char) : Bool :=
  c == ' ' || !isOneOf (Category.separators ++ Category.others) c || isRecent c.toNat

def hexText (n : Nat) : List Char := Nat.toDigits 16 n

def quotedChar (c : Char) : List Char :=
  if c = '"' then ['\\', '"']
  else if c = '\\' then ['\\', '\\']
  else if c = '\x00' then ['\\', '0']
  else if c = '\t' then ['\\', 't']
  else if c = '\n' then ['\\', 'n']
  else if c = '\r' then ['\\', 'r']
  else if ' ' ≤ c ∧ c ≤ '~' then [c]
  else if prints c && !joinsPrevious c then [c]
  else ['\\', 'u', '{'] ++ hexText c.toNat ++ ['}']

def quoted (s : String) : String :=
  "\"" ++ String.ofList (s.toList.flatMap quotedChar) ++ "\""

end Formulary.Text
