import Formulary.Formula.Lexer
import Formulary.Formula.Expr

/-!
# Printing

The text of an expression. Single blanks stand between its words, and parentheses only around a
part that is looser than its place allows.

A number can be written by many numerals. The numerals are given with the expression, one for each
place where a number stands.

## Main definitions

* `Token.spelling` : how a word is written;
* `Expr.tightness` : the precedence of an expression;
* `Expr.tokens`, `Expr.print` : the words and the text of an expression;
* `Expr.Writable` : the expressions whose words can all be written.
-/
namespace Formulary

def escaped (c : Char) : List Char :=
  if c = '"' then ['\\', '"']
  else if c = '\\' then ['\\', '\\']
  else if c = '\n' then ['\\', 'n']
  else if c = '\t' then ['\\', 't']
  else if c = '\r' then ['\\', 'r']
  else [c]

def Token.spelling : Token → String
  | .numeral digits => digits
  | .text contents => String.ofList ('"' :: contents.toList.flatMap escaped ++ ['"'])
  | .name n => n
  | .bool true => "true"
  | .bool false => "false"
  | .null => "null"
  | .mark m => m.spelling

/-- Whether a text is a numeral, and nothing is left over. -/
def isNumeral (text : String) : Bool :=
  Lexer.beginsNumeral text.toList &&
    match Lexer.scanNumeral 0 text.toList with
    | .ok scanned => scanned.rest.isEmpty
    | .error _ => false

/-- Whether characters are those of a name. Three such words are constants. -/
def isNameWord : List Char → Bool
  | [] => false
  | c :: s => Lexer.beginsName c && s.all Lexer.continuesName

/-- Whether a text is a name, and none of those that are constants. -/
def isName (text : String) : Bool :=
  isNameWord text.toList && Lexer.nameToken text.toList == .name text

def UnaryOp.mark : UnaryOp → Mark
  | .negative => .minus
  | .positive => .plus
  | .not => .not

def BinaryOp.mark : BinaryOp → Mark
  | .add => .plus
  | .sub => .minus
  | .mul => .star
  | .div => .slash
  | .mod => .percent
  | .pow => .power
  | .less => .less
  | .lessEqual => .lessEqual
  | .greater => .greater
  | .greaterEqual => .greaterEqual
  | .equal => .equal
  | .notEqual => .notEqual
  | .and => .and
  | .or => .or
  | .nullish => .nullish

/-- The precedence of an operator between two operands, from the loosest level of operators, 1, to
the tightest, 7. The power is tighter than an operator in front of an operand, 8. -/
def BinaryOp.tightness : BinaryOp → Nat
  | .nullish => 1
  | .or => 2
  | .and => 3
  | .equal | .notEqual => 4
  | .less | .lessEqual | .greater | .greaterEqual => 5
  | .add | .sub => 6
  | .mul | .div | .mod => 7
  | .pow => 9

/-- How tight a left operand has to be. The power groups to the right, the others to the left. -/
def BinaryOp.leftTightness (op : BinaryOp) : Nat :=
  if op = .pow then 10 else op.tightness

/-- How tight a right operand has to be. The exponent of a power may have an operator in front. -/
def BinaryOp.rightTightness (op : BinaryOp) : Nat :=
  if op = .pow then 8 else op.tightness + 1

/-- The precedence of an expression, from the conditional, 0, to what stands for itself, 10. -/
def Expr.tightness : Expr → Nat
  | .conditional _ _ _ => 0
  | .binary op _ _ => op.tightness
  | .unary _ _ => 8
  | _ => 10

/-- The numerals of an expression, by the path from its root to the number. -/
abbrev Numerals := List Nat → Float → String

/-- The numerals of a part of an expression. -/
def Numerals.below (numerals : Numerals) (part : Nat) : Numerals :=
  fun path => numerals (part :: path)

/-- The word of a constant. Only the constants of formulas have one of their own. -/
def Value.token (numeral : Float → String) : Value → Token
  | .bool b => .bool b
  | .number x => .numeral (numeral x)
  | .text s => .text s
  | _ => .null

/-- Parentheses around a part that is looser than its place allows. -/
def enclosed (place tightness : Nat) (ts : List Token) : List Token :=
  if place ≤ tightness then ts else .mark .openParen :: (ts ++ [.mark .closeParen])

def commaSeparated (parts : List (List Token)) : List Token :=
  [Token.mark .comma].intercalate parts

namespace Expr

mutual

def tokens (numerals : Numerals) : Expr → List Token
  | .const value => [value.token (numerals [])]
  | .var name => [.name name]
  | .member base name =>
    enclosed 10 base.tightness (tokens (numerals.below 0) base) ++ [.mark .dot, .name name]
  | .index base position =>
    enclosed 10 base.tightness (tokens (numerals.below 0) base) ++
      .mark .openBracket :: (tokens (numerals.below 1) position ++ [.mark .closeBracket])
  | .unary op operand =>
    .mark op.mark :: enclosed 8 operand.tightness (tokens (numerals.below 0) operand)
  | .binary op left right =>
    enclosed op.leftTightness left.tightness (tokens (numerals.below 0) left) ++
      .mark op.mark ::
        enclosed op.rightTightness right.tightness (tokens (numerals.below 1) right)
  | .conditional condition yes no =>
    enclosed 1 condition.tightness (tokens (numerals.below 0) condition) ++
      .mark .question :: (tokens (numerals.below 1) yes ++
        .mark .colon :: tokens (numerals.below 2) no)
  | .array items =>
    .mark .openBracket :: (commaSeparated (tokensOfItems numerals items) ++ [.mark .closeBracket])
  | .object entries =>
    .mark .openBrace :: (commaSeparated (tokensOfEntries numerals entries) ++ [.mark .closeBrace])
  | .call function arguments =>
    .name function.name :: .mark .openParen ::
      (commaSeparated (tokensOfItems numerals arguments) ++ [.mark .closeParen])

def tokensOfItems (numerals : Numerals) : List Expr → List (List Token)
  | [] => []
  | item :: rest => tokens (numerals.below 0) item :: tokensOfItems (numerals.below 1) rest

def tokensOfEntries (numerals : Numerals) : List (String × Expr) → List (List Token)
  | [] => []
  | (key, item) :: rest =>
    (.text key :: .mark .colon :: tokens (numerals.below 0) item) ::
      tokensOfEntries (numerals.below 1) rest

end

def print (numerals : Numerals) (e : Expr) : String :=
  " ".intercalate ((e.tokens numerals).map Token.spelling)

end Expr

/-- A constant that has a word: a number has to be the finite value of its numeral. -/
def Value.Writable (numeral : Float → String) : Value → Prop
  | .null | .bool _ | .text _ => True
  | .number x =>
    isNumeral (numeral x) ∧ Number.readNumber? (numeral x) = some x ∧ x.isFinite
  | .date _ | .array _ | .object _ => False

namespace Expr

mutual

/-- An expression that has a text: its constants have words, and its variables and members have
names. -/
def Writable (numerals : Numerals) : Expr → Prop
  | .const value => value.Writable (numerals [])
  | .var name => isName name
  | .member base name => Writable (numerals.below 0) base ∧ isName name
  | .index base position =>
    Writable (numerals.below 0) base ∧ Writable (numerals.below 1) position
  | .unary _ operand => Writable (numerals.below 0) operand
  | .binary _ left right => Writable (numerals.below 0) left ∧ Writable (numerals.below 1) right
  | .conditional condition yes no =>
    Writable (numerals.below 0) condition ∧ Writable (numerals.below 1) yes ∧
      Writable (numerals.below 2) no
  | .array items => WritableItems numerals items
  | .object entries => WritableEntries numerals entries
  | .call _ arguments => WritableItems numerals arguments

def WritableItems (numerals : Numerals) : List Expr → Prop
  | [] => True
  | item :: rest => Writable (numerals.below 0) item ∧ WritableItems (numerals.below 1) rest

def WritableEntries (numerals : Numerals) : List (String × Expr) → Prop
  | [] => True
  | (_, item) :: rest =>
    Writable (numerals.below 0) item ∧ WritableEntries (numerals.below 1) rest

end

end Expr

end Formulary
