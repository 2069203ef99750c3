import Mathlib
import Formulary.Formula.Parser

/-!
# A parser that counts

Reading a formula needs no more than the words, the place of the next one and the depth around it.
A machine with these two numbers reads the same formulas as the phrases of the parser do: it passes
a word by adding one to the place, it charges and releases depth as it goes, and nothing but its
own steps ends it. What must not happen has an outcome of its own: that a number is lowered below
zero, or that a word is looked at too deep or past the last one.

## Main definitions

* `Machine.Input` : what is read, and the greatest depth;
* `Machine.Position` : the place of the next word, and the depth around it;
* `Machine.Stop` : why a machine stops;
* `Machine.Action` : steps from one position to another;
* `Machine.Input.expression`, `Machine.Input.operation`, `Machine.Input.unary`,
  `Machine.Input.power`, `Machine.Input.operand`, `Machine.Input.atom` : the readers of a formula
  and of its parts;
* `Machine.Input.formula` : the reader of a whole formula.
-/
namespace Formulary.Parser.Machine

/-- What is read: the words of a text and the byte after it, to a greatest depth. -/
structure Input where
  words : List Lexeme
  endOffset : Nat
  maxDepth : Nat

/-- Where a machine stands: how many words it has passed, and how deep it is. -/
structure Position where
  place : Nat
  depth : Nat
deriving DecidableEq

/-- A position that reading may go on from. -/
structure Position.Within (input : Input) (s : Position) : Prop where
  place_le : s.place ≤ input.words.length
  depth_le : s.depth ≤ input.maxDepth

instance (input : Input) (s : Position) : Decidable (s.Within input) :=
  decidable_of_iff (s.place ≤ input.words.length ∧ s.depth ≤ input.maxDepth)
    ⟨fun h => ⟨h.1, h.2⟩, fun h => ⟨h.place_le, h.depth_le⟩⟩

/-- Why a machine stops. -/
inductive Stop
  /-- The words are refused. -/
  | refused (e : FormulaError)
  /-- More depth is released than there is, or more words are taken back. -/
  | underflow
  /-- A word is looked at below the greatest depth, or past the last word. -/
  | astray

/-- Steps of a machine: they yield something or stop the machine, unless they have no end. -/
abbrev Action := StateT Position (ExceptT Stop Option)

variable {α : Type}

def Input.peek (input : Input) : Action (Option Lexeme) := do
  let s ← get
  if s.Within input then return input.words[s.place]? else throw .astray

def Input.advance (input : Input) : Action (Option Lexeme) := do
  let word? ← input.peek
  if word?.isSome then modify fun s => { s with place := s.place + 1 }
  return word?

def stepBack : Action Unit := do
  let s ← get
  if s.place = 0 then throw .underflow
  set { s with place := s.place - 1 }

def Input.refuse (input : Input) (what : Expectation) : Action α := do
  match ← input.peek with
  | some word => throw (.refused (.malformed word.start (.expected what (some word.token))))
  | none => throw (.refused (.malformed input.endOffset (.expected what none)))

def Input.nextIs (input : Input) (marks : List Mark) : Action Bool := do
  return (← input.peek).any fun word => marks.any fun m => word.token = .mark m

def Input.pass (input : Input) (m : Mark) : Action Unit := do
  if ← input.nextIs [m] then modify fun s => { s with place := s.place + 1 }
  else input.refuse (.mark m)

def Input.enter (input : Input) : Action Unit := do
  modify fun s => { s with depth := s.depth + 1 }
  if input.maxDepth < (← get).depth then throw (.refused (.tooDeep input.maxDepth))

def leave (steps : Nat) : Action Unit := do
  let s ← get
  if s.depth < steps then throw .underflow
  set { s with depth := s.depth - steps }

def key? (word? : Option Lexeme) : Option (String × Bool) :=
  match word?.map Lexeme.token with
  | some (.name name) => some (name, true)
  | some (.text contents) => some (contents, false)
  | some (.numeral text) => some (text, false)
  | _ => none

def sign? (word? : Option Lexeme) : Option UnaryOp :=
  match word?.map Lexeme.token with
  | some (.mark .minus) => some .negative
  | some (.mark .plus) => some .positive
  | some (.mark .not) => some .not
  | _ => none

def operator? (ops : List (Mark × BinaryOp)) (word? : Option Lexeme) : Option BinaryOp :=
  match word?.map Lexeme.token with
  | some (.mark m) => ops.lookup m
  | _ => none

mutual

def Input.expression (input : Input) : Action Expr := do
  input.enter
  let condition ← input |>.operation levels
  let e ← do
    if ← input.nextIs [.question] then
      let _ ← input.advance
      let yes ← input |>.expression
      input.pass .colon
      let no ← input |>.expression
      pure (.conditional condition yes no)
    else
      pure condition
  leave 1
  return e
partial_fixpoint

def Input.operation (input : Input) (levels : List (List (Mark × BinaryOp))) : Action Expr := do
  match levels with
  | [] => input |>.unary
  | ops :: tighter =>
    let left ← input |>.operation tighter
    input |>.fold ops tighter 0 left
partial_fixpoint

/-- Operators of one level and their right operands, after so many of them. All are released at the
end. -/
def Input.fold (input : Input) (ops : List (Mark × BinaryOp))
    (tighter : List (List (Mark × BinaryOp))) (folded : Nat) (left : Expr) : Action Expr := do
  match operator? ops (← input.peek) with
  | none =>
    leave folded
    return left
  | some op =>
    let _ ← input.advance
    input.enter
    let right ← input |>.operation tighter
    input |>.fold ops tighter (folded + 1) (.binary op left right)
partial_fixpoint

def Input.unary (input : Input) : Action Expr := do
  match sign? (← input.peek) with
  | none => input |>.power
  | some op =>
    let _ ← input.advance
    input.enter
    let inner ← input |>.unary
    leave 1
    return .unary op inner
partial_fixpoint

def Input.power (input : Input) : Action Expr := do
  let base ← input |>.operand
  if ← input.nextIs [.power] then
    let _ ← input.advance
    input.enter
    let exponent ← input |>.unary
    leave 1
    return .binary .pow base exponent
  else
    return base
partial_fixpoint

/-- An atom with what follows it. The depth is then set to what it was before. -/
def Input.operand (input : Input) : Action Expr := do
  let start ← get
  let head ← input |>.atom
  let whole ← input |>.chain head
  modify fun s => { s with depth := start.depth }
  return whole
partial_fixpoint

/-- The members, indices and calls after an operand. Each is charged before it is looked at. -/
def Input.chain (input : Input) (head : Expr) : Action Expr := do
  if ← input.nextIs [.dot, .openBracket, .openParen] then input.enter
  input |>.link head (← input.peek)
partial_fixpoint

def Input.link (input : Input) (head : Expr) (word? : Option Lexeme) : Action Expr := do
  match word? with
  | some ⟨_, .mark .dot, _⟩ =>
    let _ ← input.advance
    match ← input.peek with
    | some ⟨_, .name name, _⟩ =>
      let _ ← input.advance
      input |>.chain (.member head name)
    | _ => input.refuse .propertyName
  | some ⟨_, .mark .openBracket, _⟩ =>
    let _ ← input.advance
    let position ← input |>.expression
    input.pass .closeBracket
    input |>.chain (.index head position)
  | some ⟨start, .mark .openParen, _⟩ =>
    match calledName? head with
    | none => throw (.refused (.malformed start .notCallable))
    | some name =>
      match Builtin.ofName? name with
      | none => throw (.refused (.unknownFunction name))
      | some function =>
        let _ ← input.advance
        let arguments ← input |>.items .closeParen []
        input |>.chain (.call function arguments)
  | _ => return head
partial_fixpoint

def Input.items (input : Input) (close : Mark) (found : List Expr) : Action (List Expr) := do
  if ← input.nextIs [close] then
    input.pass close
    return found
  else
    let item ← input |>.expression
    if ← input.nextIs [.comma] then
      let _ ← input.advance
      input |>.items close (found ++ [item])
    else
      input.pass close
      return found ++ [item]
partial_fixpoint

def Input.entries (input : Input) (found : List (String × Expr)) :
    Action (List (String × Expr)) := do
  if ← input.nextIs [.closeBrace] then
    input.pass .closeBrace
    return found
  else
    let entry ← input |>.entry
    if ← input.nextIs [.comma] then
      let _ ← input.advance
      input |>.entries (found ++ [entry])
    else
      input.pass .closeBrace
      return found ++ [entry]
partial_fixpoint

def Input.entry (input : Input) : Action (String × Expr) := do
  match key? (← input.peek) with
  | none => input.refuse .propertyName
  | some (key, isName) =>
    let _ ← input.advance
    if ← input.nextIs [.colon] then
      let _ ← input.advance
      return (key, ← input |>.expression)
    else if isName then
      return (key, .var key)
    else
      input.refuse .colon
partial_fixpoint

def Input.atom (input : Input) : Action Expr := do
  match ← input.advance with
  | none => input.refuse .expression
  | some ⟨start, token, _⟩ =>
    match token with
    | .numeral text =>
      match Number.readNumber? text with
      | some x =>
        if x.isFinite then return .const (.number x)
        else throw (.refused (.malformed start (.numberOutOfRange text)))
      | none => throw (.refused (.malformed start (.invalidNumber text)))
    | .text contents => return .const (.text contents)
    | .bool b => return .const (.bool b)
    | .null => return .const .null
    | .name name => return .var name
    | .mark .openParen =>
      let inner ← input |>.expression
      input.pass .closeParen
      return inner
    | .mark .openBracket =>
      input.enter
      let found ← input |>.items .closeBracket []
      leave 1
      return .array found
    | .mark .openBrace =>
      input.enter
      let found ← input |>.entries []
      leave 1
      return .object found
    | .mark _ =>
      stepBack
      input.refuse .expression
partial_fixpoint

end

def Input.formula (input : Input) : Action Expr := do
  if input.words.isEmpty then throw (.refused (.malformed 0 .empty))
  let e ← input.expression
  if (← input.peek).isSome then input.refuse .endOfFormula else return e

end Formulary.Parser.Machine
