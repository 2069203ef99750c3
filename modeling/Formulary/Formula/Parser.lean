import Formulary.Formula.Lexer

/-!
# Parsing

The expression that a formula is the text of. From the loosest to the tightest:

* the conditional `c ? a : b`, which groups to the right;
* the binary operators in `levels`, which group to the left;
* the operators in front of an operand;
* the power `**`, which groups to the right and whose left side is tighter;
* members, indices and calls after an operand.

The depth counts the nodes on the way down to the place that is read. Each step down is charged
when it is taken and released when its expression is complete; a chain of operators is charged
one step for each operator until the chain ends, as its tree nests that deep.

## Main definitions

* `Limits` : the longest text and the deepest expression that are accepted;
* `Cursor` : where reading stands;
* `Parser.expression` : reads one expression;
* `Formula.parse` : the expression of a text.
-/
namespace Formulary

/-- What is accepted of a formula. -/
structure Limits where
  /-- The longest text, in bytes. -/
  maxLength : Nat := 4096
  /-- The deepest expression. -/
  maxDepth : Nat := 64
deriving DecidableEq, Repr, Inhabited

/-- Where reading stands: the words ahead, and the depth of the expression around them. -/
structure Cursor where
  ahead : List Lexeme
  depth : Nat
deriving Repr

namespace Parser

/-- What does not change while a formula is read. -/
structure Frame where
  maxDepth : Nat
  /-- The byte after the text. -/
  endOffset : Nat
  /-- The count of words; no chain or list has more parts. -/
  wordCount : Nat
deriving Repr

abbrev Phrase (α : Type) := Cursor → Except FormulaError (α × Cursor)

variable (frame : Frame)

def unexpected (what : Expectation) (c : Cursor) : FormulaError :=
  match c.ahead with
  | [] => .malformed frame.endOffset (.expected what none)
  | word :: _ => .malformed word.start (.expected what (some word.token))

def pass (m : Mark) (c : Cursor) : Except FormulaError Cursor :=
  match c.ahead with
  | ⟨_, .mark found, _⟩ :: rest =>
    if found = m then .ok { c with ahead := rest } else .error (unexpected frame (.mark m) c)
  | _ => .error (unexpected frame (.mark m) c)

def enter (c : Cursor) : Except FormulaError Cursor :=
  if c.depth < frame.maxDepth then .ok { c with depth := c.depth + 1 }
  else .error (.tooDeep frame.maxDepth)

def leave (steps : Nat) (c : Cursor) : Cursor := { c with depth := c.depth - steps }

/-- Comma separated phrases up to a closing mark; a comma may follow the last one. At most
`fuel` phrases are read. -/
def phrasesUpTo {α : Type} (close : Mark) (phrase : Phrase α) : (fuel : Nat) → Phrase (List α)
  | 0, c => .error (unexpected frame .expression c)
  | fuel + 1, c =>
    match pass frame close c with
    | .ok c => .ok ([], c)
    | .error _ => do
      let (first, c) ← phrase c
      match c.ahead with
      | ⟨_, .mark .comma, _⟩ :: rest =>
        let (others, c) ← phrasesUpTo close phrase fuel { c with ahead := rest }
        return (first :: others, c)
      | _ =>
        let c ← pass frame close c
        return ([first], c)

/-- The entry of an object: a name, text or numeral, a colon and an expression. A name alone
stands for the variable of that name under that name. -/
def entry (expression : Phrase Expr) : Phrase (String × Expr) := fun c =>
  match c.ahead with
  | ⟨_, token, _⟩ :: rest =>
    let key? : Option (String × Bool) := match token with
      | .name name => some (name, true)
      | .text contents => some (contents, false)
      | .numeral text => some (text, false)
      | _ => none
    match key? with
    | none => .error (unexpected frame .propertyName c)
    | some (key, isName) =>
      match rest with
      | ⟨_, .mark .colon, _⟩ :: rest => do
        let (value, c) ← expression { c with ahead := rest }
        return ((key, value), c)
      | _ =>
        if isName then .ok ((key, .var key), { c with ahead := rest })
        else .error (unexpected frame .colon { c with ahead := rest })
  | [] => .error (unexpected frame .propertyName c)

/-- A constant, a variable, a parenthesised expression, an array or an object. -/
def atom (expression : Phrase Expr) : Phrase Expr := fun c =>
  match c.ahead with
  | [] => .error (unexpected frame .expression c)
  | ⟨start, token, _⟩ :: rest =>
    let after : Cursor := { c with ahead := rest }
    match token with
    | .numeral text =>
      match Number.readNumber? text with
      | some x =>
        if x.isFinite then .ok (.const (.number x), after)
        else .error (.malformed start (.numberOutOfRange text))
      | none => .error (.malformed start (.invalidNumber text))
    | .text contents => .ok (.const (.text contents), after)
    | .bool b => .ok (.const (.bool b), after)
    | .null => .ok (.const .null, after)
    | .name name => .ok (.var name, after)
    | .mark .openParen => do
      let (inner, c) ← expression after
      let c ← pass frame .closeParen c
      return (inner, c)
    | .mark .openBracket => do
      let c ← enter frame after
      let (items, c) ← phrasesUpTo frame .closeBracket expression frame.wordCount c
      return (.array items, leave 1 c)
    | .mark .openBrace => do
      let c ← enter frame after
      let (entries, c) ←
        phrasesUpTo frame .closeBrace (entry frame expression) frame.wordCount c
      return (.object entries, leave 1 c)
    | .mark _ => .error (unexpected frame .expression c)

/-- The name that a call of this expression calls: `min(…)` and `Math.min(…)` are the same. -/
def calledName? : Expr → Option String
  | .var name => some name
  | .member base name => if base.isMath then some name else none
  | _ => none

/-- The members, indices and calls after an operand, at most `fuel` of them. Each is charged a
step that the caller releases. -/
def chain (expression : Phrase Expr) : (fuel : Nat) → Expr → Phrase Expr
  | 0, operand, c => .ok (operand, c)
  | fuel + 1, operand, c =>
    match c.ahead with
    | ⟨_, .mark .dot, _⟩ :: rest => do
      let c ← enter frame { c with ahead := rest }
      match rest with
      | ⟨_, .name name, _⟩ :: rest =>
        chain expression fuel (.member operand name) { c with ahead := rest }
      | _ => .error (unexpected frame .propertyName c)
    | ⟨_, .mark .openBracket, _⟩ :: rest => do
      let c ← enter frame { c with ahead := rest }
      let (position, c) ← expression c
      let c ← pass frame .closeBracket c
      chain expression fuel (.index operand position) c
    | ⟨start, .mark .openParen, _⟩ :: rest => do
      let c ← enter frame { c with ahead := rest }
      match calledName? operand with
      | none => .error (.malformed start .notCallable)
      | some name =>
        match Builtin.ofName? name with
        | none => .error (.unknownFunction name)
        | some function =>
          let (arguments, c) ←
            phrasesUpTo frame .closeParen expression frame.wordCount c
          chain expression fuel (.call function arguments) c
    | _ => .ok (operand, c)

def operand (expression : Phrase Expr) : Phrase Expr := fun c => do
  let (head, after) ← atom frame expression c
  let (whole, after) ← chain frame expression frame.wordCount head after
  return (whole, { after with depth := c.depth })

/-- The operator in front of an operand, and what follows it. -/
def unaryOp? : List Lexeme → Option (UnaryOp × List Lexeme)
  | ⟨_, .mark .minus, _⟩ :: rest => some (.negative, rest)
  | ⟨_, .mark .plus, _⟩ :: rest => some (.positive, rest)
  | ⟨_, .mark .not, _⟩ :: rest => some (.not, rest)
  | _ => none

/-- Operators in front of a power, at most `fuel` of them. They bind looser than the power on
their right, so that `-2 ** 2` is `-(2 ** 2)`. -/
def unary (expression : Phrase Expr) : (fuel : Nat) → Phrase Expr
  | 0, c => operand frame expression c
  | fuel + 1, c =>
    match unaryOp? c.ahead with
    | some (op, rest) => do
      let c ← enter frame { c with ahead := rest }
      let (inner, c) ← unary expression fuel c
      return (.unary op inner, leave 1 c)
    | none => do
      let (base, c) ← operand frame expression c
      match c.ahead with
      | ⟨_, .mark .power, _⟩ :: rest =>
        let c ← enter frame { c with ahead := rest }
        let (exponent, c) ← unary expression fuel c
        return (.binary .pow base exponent, leave 1 c)
      | _ => return (base, c)

/-- The binary operators, the loosest level first. -/
def levels : List (List (Mark × BinaryOp)) :=
  [[(.nullish, .nullish)],
   [(.or, .or)],
   [(.and, .and)],
   [(.equal, .equal), (.notEqual, .notEqual)],
   [(.less, .less), (.lessEqual, .lessEqual), (.greater, .greater),
    (.greaterEqual, .greaterEqual)],
   [(.plus, .add), (.minus, .sub)],
   [(.star, .mul), (.slash, .div), (.percent, .mod)]]

def binaryOp? (ops : List (Mark × BinaryOp)) : List Lexeme → Option (BinaryOp × List Lexeme)
  | ⟨_, .mark m, _⟩ :: rest => (ops.lookup m).map fun op => (op, rest)
  | _ => none

/-- Operators of one level and their right operands, at most `fuel` of them, after the left
operand and `charged` operators. All are released at the end. -/
def fold (ops : List (Mark × BinaryOp)) (tighter : Phrase Expr) :
    (fuel : Nat) → (charged : Nat) → Expr → Phrase Expr
  | 0, charged, left, c => .ok (left, leave charged c)
  | fuel + 1, charged, left, c =>
    match binaryOp? ops c.ahead with
    | none => .ok (left, leave charged c)
    | some (op, rest) => do
      let c ← enter frame { c with ahead := rest }
      let (right, c) ← tighter c
      fold ops tighter fuel (charged + 1) (.binary op left right) c

def level (ops : List (Mark × BinaryOp)) (tighter : Phrase Expr) : Phrase Expr := fun c => do
  let (left, c) ← tighter c
  fold frame ops tighter frame.wordCount 0 left c

def operation (expression : Phrase Expr) : List (List (Mark × BinaryOp)) → Phrase Expr
  | [] => unary frame expression frame.wordCount
  | ops :: tighter => level frame ops (operation expression tighter)

/-- A conditional, or what its condition may be. -/
def conditional (expression : Phrase Expr) : Phrase Expr := fun c => do
  let c ← enter frame c
  let (condition, c) ← operation frame expression levels c
  match c.ahead with
  | ⟨_, .mark .question, _⟩ :: rest =>
    let (yes, c) ← expression { c with ahead := rest }
    let c ← pass frame .colon c
    let (no, c) ← expression c
    return (.conditional condition yes no, leave 1 c)
  | _ => return (condition, leave 1 c)

/-- One expression. Expressions nest no deeper than `fuel`; each takes a step of depth, so the
greatest depth is fuel enough. -/
def expression : (fuel : Nat) → Phrase Expr
  | 0 => fun _ => .error (.tooDeep frame.maxDepth)
  | fuel + 1 => conditional frame (expression fuel)

/-- One expression, and nothing after it. -/
def wholeFormula (words : List Lexeme) : Except FormulaError Expr := do
  if words.isEmpty then .error (.malformed 0 .empty)
  let (e, c) ← expression frame frame.maxDepth ⟨words, 0⟩
  if c.ahead.isEmpty then return e else .error (unexpected frame .endOfFormula c)

end Parser

def Formula.parse (limits : Limits) (text : String) : Except FormulaError Expr := do
  if limits.maxLength < text.utf8ByteSize then .error (.tooLong limits.maxLength)
  let words ← lex text
  Parser.wholeFormula ⟨limits.maxDepth, text.utf8ByteSize, words.length⟩ words

end Formulary
