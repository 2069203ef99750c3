import Formulary.Formula.Expr

/-!
# Tokens and errors of formulas

The words of a formula, and why a formula cannot be read or evaluated. Each error is a cause; its text
is made in one place.

## Main definitions

* `Token` : the words of a formula;
* `SyntaxFault` : why a text is no formula;
* `TypeFault` : why an operation does not apply to its operands;
* `FormulaError`, `FormulaError.message` : the errors and their texts.
-/
namespace Formulary

/-! ### Tokens -/

inductive Mark
  | plus | minus | star | power | slash | percent
  | less | lessEqual | greater | greaterEqual | equal | notEqual
  | and | or | not | nullish | question | colon | dot | comma
  | openParen | closeParen | openBracket | closeBracket | openBrace | closeBrace
deriving DecidableEq, Repr, Inhabited

def Mark.spelling : Mark → String
  | .plus => "+"
  | .minus => "-"
  | .star => "*"
  | .power => "**"
  | .slash => "/"
  | .percent => "%"
  | .less => "<"
  | .lessEqual => "<="
  | .greater => ">"
  | .greaterEqual => ">="
  | .equal => "=="
  | .notEqual => "!="
  | .and => "&&"
  | .or => "||"
  | .not => "!"
  | .nullish => "??"
  | .question => "?"
  | .colon => ":"
  | .dot => "."
  | .comma => ","
  | .openParen => "("
  | .closeParen => ")"
  | .openBracket => "["
  | .closeBracket => "]"
  | .openBrace => "\x7b"
  | .closeBrace => "\x7d"

inductive Token
  | numeral (text : String)
  | text (contents : String)
  | name (name : String)
  | bool (b : Bool)
  | null
  | mark (m : Mark)
deriving DecidableEq, Repr, Inhabited

def Token.describe : Token → String
  | .numeral digits => s!"number {digits}"
  | .text _ => "string literal"
  | .name n => s!"identifier '{n}'"
  | .bool true => "'true'"
  | .bool false => "'false'"
  | .null => "'null'"
  | .mark m => s!"'{m.spelling}'"

/-- A token with the bytes of the text that it takes up. -/
structure Lexeme where
  start : Nat
  token : Token
  stop : Nat
deriving DecidableEq, Repr, Inhabited

/-! ### Errors -/

inductive Expectation
  | expression | propertyName | colon | endOfFormula
  | mark (m : Mark)
deriving DecidableEq, Repr

def Expectation.describe : Expectation → String
  | .expression => "expression"
  | .propertyName => "property name"
  | .colon => "':'"
  | .endOfFormula => "end of formula"
  | .mark m => (Token.mark m).describe

/-- Why a text is no formula. -/
inductive SyntaxFault
  | empty
  | malformedExponent
  | unterminatedText
  | unknownEscape (c : Char)
  | assignment
  | singleAmpersand
  | singleBar
  | unexpectedCharacter (c : Char)
  | expected (what : Expectation) (found : Option Token)
  | notCallable
  | numberOutOfRange (numeral : String)
  | invalidNumber (numeral : String)
deriving DecidableEq, Repr

def SyntaxFault.message : SyntaxFault → String
  | .empty => "formula is empty"
  | .malformedExponent => "malformed exponent"
  | .unterminatedText => "unterminated string literal"
  | .unknownEscape c => s!"unknown escape sequence '\\{c}'"
  | .assignment => "assignment is not supported, use '==' to compare"
  | .singleAmpersand => "unexpected '&', use '&&'"
  | .singleBar => "unexpected '|', use '||'"
  | .unexpectedCharacter c => s!"unexpected character '{c}'"
  | .expected what found =>
    let actual := (found.map Token.describe).getD Expectation.endOfFormula.describe
    s!"expected {what.describe}, found {actual}"
  | .notCallable => "only builtin functions can be called"
  | .numberOutOfRange numeral => s!"number '{numeral}' is out of range"
  | .invalidNumber numeral => s!"invalid number '{numeral}'"

inductive Wanted
  | number | string | date | measurable | numeric
deriving DecidableEq, Repr

def Wanted.describe : Wanted → String
  | .number => "a number"
  | .string => "a string"
  | .date => "a date"
  | .measurable => "a string, array or object"
  | .numeric => "a number, boolean or string"

/-- Why an operation does not apply to its operands. -/
inductive TypeFault
  | noConstant (name : String)
  | noProperty (name : String) (of : Kind)
  | noIndex (base index : Kind)
  | unaryOperand (op : UnaryOp) (got : Kind)
  | operands (op : BinaryOp) (left right : Kind)
  | argument (function : Builtin) (wanted : Wanted) (got : Kind)
  | noNumber (text : String)
  | noDate (function : Builtin) (text : String)
  | emptyAverage
  | invertedBounds (low high : Float)
  | noCalendarDate (year month day : Float)
deriving DecidableEq

def TypeFault.message : TypeFault → String
  | .noConstant name => s!"Math.{name} is not a constant"
  | .noProperty name of => s!"cannot read property '{name}' of {of.name}"
  | .noIndex base index => s!"cannot index {base.name} with {index.name}"
  | .unaryOperand op got =>
    let symbol := if op = .negative then "-" else "+"
    s!"unary '{symbol}' expects a number, got {got.name}"
  | .operands op left right => s!"cannot apply '{op.symbol}' to {left.name} and {right.name}"
  | .argument function wanted got =>
    s!"{function.name} expects {wanted.describe}, got {got.name}"
  | .noNumber text => s!"num: '{text}' is not a number"
  | .noDate function text => s!"{function.name}: '{text}' is not a valid date"
  | .emptyAverage => "avg of an empty list"
  | .invertedBounds low high =>
    s!"clamp bounds are inverted ({Number.display low} > {Number.display high})"
  | .noCalendarDate year month day =>
    let shown := [year, month, day].map Number.display
    let date := String.intercalate "-" shown
    s!"date: {date} is not a calendar date"

inductive Arity
  | exactly (n : Nat)
  | either (m n : Nat)
  | atLeast (n : Nat)
deriving DecidableEq, Repr

def Arity.describe : Arity → String
  | .exactly n => Number.digitText n
  | .either m n => s!"{Number.digitText m} or {Number.digitText n}"
  | .atLeast n => s!"at least {Number.digitText n}"

def Arity.admits : Arity → Nat → Bool
  | .exactly n, count => count == n
  | .either m n, count => count == m || count == n
  | .atLeast n, count => n ≤ count

/-- What computed a number that is not finite. -/
inductive Origin
  | unary (op : UnaryOp)
  | binary (op : BinaryOp)
  | function (f : Builtin)
  | dateShift
deriving DecidableEq, Repr

def Origin.describe : Origin → String
  | .unary op => if op = .negative then "'-'" else "'+'"
  | .binary op => s!"'{op.symbol}'"
  | .function f => s!"{f.name}()"
  | .dateShift => Builtin.addDays.name

inductive FormulaError
  | malformed (offset : Nat) (fault : SyntaxFault)
  | tooLong (limit : Nat)
  | tooDeep (limit : Nat)
  | undefinedVariable (name : String)
  | unknownFunction (name : String)
  | arity (function : Builtin) (expected : Arity) (got : Nat)
  | type (fault : TypeFault)
  | nonFinite (origin : Origin)
  /-- The bounds of `clamp` have no order. The call does not return, so no message tells of it. -/
  | unorderedBounds
deriving DecidableEq

def FormulaError.message : FormulaError → String
  | .malformed offset fault =>
    s!"syntax error at offset {Number.digitText offset}: {fault.message}"
  | .tooLong limit => s!"formula is longer than {Number.digitText limit} bytes"
  | .tooDeep limit => s!"expression is nested deeper than {Number.digitText limit} levels"
  | .undefinedVariable name => s!"undefined variable '{name}'"
  | .unknownFunction name => s!"unknown function '{name}'"
  | .arity function expected got =>
    let count := Number.digitText got
    s!"function '{function.name}' expects {expected.describe} argument(s), got {count}"
  | .type fault => s!"type error: {fault.message}"
  | .nonFinite origin => s!"non-finite numeric result in {origin.describe}"
  | .unorderedBounds => ""

end Formulary
