import Formulary.Formula.Error
import Formulary.Text.Basic
import Formulary.Text.Alphabetic
import Formulary.Number.Numeral

/-!
# Lexing

The words of a formula, each with its place in bytes. Blank characters separate words and are
skipped. Reading stops at the first text that is no word.

## Main definitions

* `scanNumeral`, `scanText`, `scanName`, `scanMark?` : the kinds of words;
* `scan` : the word that a text begins with;
* `lex` : the words of a formula.
-/
namespace Formulary

def byteCount (s : List Char) : Nat := s.foldr (fun c count => c.utf8Size + count) 0

/-- A word that was read: its token, its characters, and the text after it. -/
structure Scanned where
  token : Token
  word : List Char
  rest : List Char

namespace Lexer

/-- The digits that a text begins with, and the rest. -/
def spanDigits (s : List Char) : List Char × List Char :=
  (s.takeWhile Char.isDigit, s.dropWhile Char.isDigit)

/-- The exponent that a text begins with, and the rest; `none` when its digits are missing. -/
def spanExponent? : List Char → Option (List Char × List Char)
  | [] => some ([], [])
  | e :: rest =>
    if e = 'e' ∨ e = 'E' then
      let (sign, digitsOn) := match rest with
        | c :: tail => if c = '+' ∨ c = '-' then ([c], tail) else ([], rest)
        | [] => ([], [])
      let (digits, rest) := spanDigits digitsOn
      if digits.isEmpty then none else some (e :: sign ++ digits, rest)
    else some ([], e :: rest)

def spanFraction : List Char → List Char × List Char
  | '.' :: rest => let (digits, rest) := spanDigits rest; ('.' :: digits, rest)
  | s => ([], s)

/-- A numeral: digits, a point with digits, an exponent. It starts at byte `start`. -/
def scanNumeral (start : Nat) (s : List Char) : Except FormulaError Scanned :=
  let (whole, rest) := spanDigits s
  let (fraction, rest) := spanFraction rest
  match spanExponent? rest with
  | none => .error (.malformed start .malformedExponent)
  | some (exponent, rest) =>
    let word := whole ++ fraction ++ exponent
    .ok ⟨.numeral (String.ofList word), word, rest⟩

/-- The character that stands after a backslash for another one. -/
def unescape? (c : Char) : Option Char :=
  if c = 'n' then some '\n'
  else if c = 't' then some '\t'
  else if c = 'r' then some '\r'
  else if c = '\\' ∨ c = '\'' ∨ c = '"' then some c
  else none

/-- The inside of a quoted text up to its closing quote: the contents, the characters read, and
the rest. The text starts at byte `start`, and its inside is read from byte `place`. -/
def scanQuoted (quote : Char) (start : Nat) :
    Nat → List Char → Except FormulaError (List Char × List Char × List Char)
  | _, [] => .error (.malformed start .unterminatedText)
  | place, c :: rest =>
    if c = quote then .ok ([], [c], rest)
    else if c = '\\' then
      match rest with
      | [] => .error (.malformed place .unterminatedText)
      | escaped :: rest =>
        match unescape? escaped with
        | none => .error (.malformed (place + 1) (.unknownEscape escaped))
        | some meant => do
          let (contents, word, rest) ← scanQuoted quote start (place + 1 + escaped.utf8Size) rest
          return (meant :: contents, c :: escaped :: word, rest)
    else do
      let (contents, word, rest) ← scanQuoted quote start (place + c.utf8Size) rest
      return (c :: contents, c :: word, rest)

def scanText (start : Nat) (quote : Char) (s : List Char) : Except FormulaError Scanned := do
  let (contents, word, rest) ← scanQuoted quote start (start + quote.utf8Size) s
  return ⟨.text (String.ofList contents), quote :: word, rest⟩

def beginsName (c : Char) : Bool := Text.beginsIdentifier c || c == '_' || c == '$'

def continuesName (c : Char) : Bool := Text.continuesIdentifier c || c == '$'

/-- The token of a word of name characters: three of them are constants. -/
def nameToken (word : List Char) : Token :=
  let name := String.ofList word
  if name = "true" then .bool true
  else if name = "false" then .bool false
  else if name = "null" then .null
  else .name name

def scanName (s : List Char) : Scanned :=
  let word := s.takeWhile continuesName
  ⟨nameToken word, word, s.dropWhile continuesName⟩

/-- The operator or punctuation that a text begins with, and how many characters it takes. The
longest one is meant. -/
def scanMark? : List Char → Option (Mark × Nat)
  | '+' :: _ => some (.plus, 1)
  | '-' :: _ => some (.minus, 1)
  | '*' :: '*' :: _ => some (.power, 2)
  | '*' :: _ => some (.star, 1)
  | '/' :: _ => some (.slash, 1)
  | '%' :: _ => some (.percent, 1)
  | '<' :: '=' :: _ => some (.lessEqual, 2)
  | '<' :: _ => some (.less, 1)
  | '>' :: '=' :: _ => some (.greaterEqual, 2)
  | '>' :: _ => some (.greater, 1)
  | '=' :: '=' :: '=' :: _ => some (.equal, 3)
  | '=' :: '=' :: _ => some (.equal, 2)
  | '!' :: '=' :: '=' :: _ => some (.notEqual, 3)
  | '!' :: '=' :: _ => some (.notEqual, 2)
  | '!' :: _ => some (.not, 1)
  | '&' :: '&' :: _ => some (.and, 2)
  | '|' :: '|' :: _ => some (.or, 2)
  | '?' :: '?' :: _ => some (.nullish, 2)
  | '?' :: _ => some (.question, 1)
  | ':' :: _ => some (.colon, 1)
  | '.' :: _ => some (.dot, 1)
  | ',' :: _ => some (.comma, 1)
  | '(' :: _ => some (.openParen, 1)
  | ')' :: _ => some (.closeParen, 1)
  | '[' :: _ => some (.openBracket, 1)
  | ']' :: _ => some (.closeBracket, 1)
  | '{' :: _ => some (.openBrace, 1)
  | '}' :: _ => some (.closeBrace, 1)
  | _ => none

/-- Whether a numeral begins here: with a digit, or with a point before one. -/
def beginsNumeral : List Char → Bool
  | '.' :: d :: _ => d.isDigit
  | c :: _ => c.isDigit
  | [] => false

/-- Why a character begins no word. -/
def strayCharacter (c : Char) : SyntaxFault :=
  if c = '=' then .assignment
  else if c = '&' then .singleAmpersand
  else if c = '|' then .singleBar
  else .unexpectedCharacter c

def scan (start : Nat) (c : Char) (s : List Char) : Except FormulaError Scanned :=
  if beginsNumeral (c :: s) then scanNumeral start (c :: s)
  else if c = '"' ∨ c = '\'' then scanText start c s
  else match scanMark? (c :: s) with
    | some (m, n) => .ok ⟨.mark m, (c :: s).take n, (c :: s).drop n⟩
    | none =>
      if beginsName c then .ok (scanName (c :: s))
      else .error (.malformed start (strayCharacter c))

/-- The words of a text of at most `fuel` characters, from byte `start` on. -/
def lexFrom : (fuel : Nat) → (start : Nat) → List Char → Except FormulaError (List Lexeme)
  | _, _, [] => .ok []
  | 0, _, _ => .ok []
  | fuel + 1, start, c :: s =>
    if Text.isBlank c then lexFrom fuel (start + c.utf8Size) s
    else do
      let scanned ← scan start c s
      let stop := start + byteCount scanned.word
      let lexemes ← lexFrom fuel stop scanned.rest
      return ⟨start, scanned.token, stop⟩ :: lexemes

end Lexer

def lex (text : String) : Except FormulaError (List Lexeme) :=
  Lexer.lexFrom text.length 0 text.toList

end Formulary
