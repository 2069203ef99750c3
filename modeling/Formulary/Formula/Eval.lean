import Formulary.Formula.Functions

/-!
# Evaluation

The value of an expression in a scope. A scope has layers, and a name means what the first layer
that binds it says. Operands are evaluated from left to right, and the first error ends the
evaluation.

## Main definitions

* `Scope` : layers of bindings;
* `Expr.eval` : the value of an expression.
-/
namespace Formulary

/-- Layers of bindings, the one that is asked first in front. -/
abbrev Scope := List Values

def Scope.lookup (scope : Scope) (name : String) : Option Value :=
  scope.findSome? fun layer => layer.get? name

namespace Expr

/-- The constants that are members of `Math`. -/
def mathConstant (name : String) : Except FormulaError Value :=
  if name = "PI" then .ok (.number 3.141592653589793)
  else if name = "E" then .ok (.number 2.718281828459045)
  else .error (.type (.noConstant name))

/-- A member of a value: a field of an object, or the length of an array or a text. A missing
field is `null`. -/
def memberOf (base : Value) (name : String) : Except FormulaError Value :=
  match base with
  | .object fields => .ok ((Entries.find? name fields).getD .null)
  | .array items =>
    if name = "length" then .ok (.number (Number.ofCount items.length))
    else .error (.type (.noProperty name base.kind))
  | .text s =>
    if name = "length" then .ok (.number (Number.ofCount s.length))
    else .error (.type (.noProperty name base.kind))
  | _ => .error (.type (.noProperty name base.kind))

/-- The index that a number is: whole and not negative. -/
def position? (x : Float) : Option Nat :=
  (Number.toInt? x).bind fun n => if 0 ≤ n then some n.toNat else none

/-- The item of an array, the character of a text or the field of an object at an index. One
that is not there is `null`. -/
def itemOf (base index : Value) : Except FormulaError Value :=
  match base, index with
  | .array items, .number x => .ok (((position? x).bind fun i => items[i]?).getD .null)
  | .text s, .number x =>
    .ok ((((position? x).bind fun i => s.toList[i]?).map fun c => .text c.toString).getD .null)
  | .object fields, .text key => .ok ((Entries.find? key fields).getD .null)
  | _, _ => .error (.type (.noIndex base.kind index.kind))

/-- A number, unless it is not finite. -/
def finite (origin : Origin) (x : Float) : Except FormulaError Value :=
  if x.isFinite then .ok (.number x) else .error (.nonFinite origin)

def applyUnary (op : UnaryOp) (v : Value) : Except FormulaError Value :=
  match op, v with
  | .not, v => .ok (.bool !v.isTruthy)
  | .negative, .number x => finite (.unary .negative) (-x)
  | .positive, .number x => finite (.unary .positive) x
  | op, v => .error (.type (.unaryOperand op v.kind))

/-- The order of two numbers, texts or dates; there is none with not a number. -/
def order? (left right : Value) : Option Ordering :=
  match left, right with
  | .number x, .number y =>
    if x < y then some .lt else if x == y then some .eq else if y < x then some .gt else none
  | .text s, .text t => some (compareOfLessAndEq s t)
  | .date s, .date t => some (s.compare t)
  | _, _ => none

def mismatch (op : BinaryOp) (left right : Value) : FormulaError :=
  .type (.operands op left.kind right.kind)

def applyComparison (op : BinaryOp) (holds : Ordering → Bool) (left right : Value) :
    Except FormulaError Value :=
  match order? left right with
  | some o => .ok (.bool (holds o))
  | none => .error (mismatch op left right)

def applyArithmetic (op : BinaryOp) (f : Float → Float → Float) (left right : Value) :
    Except FormulaError Value :=
  match left, right with
  | .number x, .number y => finite (.binary op) (f x y)
  | _, _ => .error (mismatch op left right)

/-- A sum of numbers, or the texts of two values joined when one of them is a text. -/
def applySum (left right : Value) : Except FormulaError Value :=
  match left, right with
  | .number x, .number y => finite (.binary .add) (x + y)
  | .text _, _ | _, .text _ => .ok (.text (left.display ++ right.display))
  | _, _ => .error (mismatch .add left right)

/-- An operator applied to two values. The logical operators choose the value on the right
here; `eval` chooses the one on the left before the right is evaluated. -/
def applyBinary (op : BinaryOp) (left right : Value) : Except FormulaError Value :=
  match op with
  | .equal => .ok (.bool (left.same right))
  | .notEqual => .ok (.bool !left.same right)
  | .less => applyComparison op (· == .lt) left right
  | .lessEqual => applyComparison op (· != .gt) left right
  | .greater => applyComparison op (· == .gt) left right
  | .greaterEqual => applyComparison op (· != .lt) left right
  | .add => applySum left right
  | .sub => applyArithmetic op (· - ·) left right
  | .mul => applyArithmetic op (· * ·) left right
  | .div => applyArithmetic op (· / ·) left right
  | .mod => applyArithmetic op Number.remainder left right
  | .pow => applyArithmetic op Float.pow left right
  | .and | .or | .nullish => .ok right

/-- Whether an operator has its value from the left operand alone. -/
def leftDecides (op : BinaryOp) (left : Value) : Bool :=
  match op with
  | .and => !left.isTruthy
  | .or => left.isTruthy
  | .nullish => !left.isNull
  | _ => false

mutual

/-- The value of an expression in a scope. -/
def eval (scope : Scope) : Expr → Except FormulaError Value
  | .const value => .ok value
  | .var name =>
    match scope.lookup name with
    | some value => .ok value
    | none => .error (.undefinedVariable name)
  | .member base name =>
    if base.isMath && (scope.lookup mathName).isNone then mathConstant name
    else do memberOf (← eval scope base) name
  | .index base position => do
    let base ← eval scope base
    let position ← eval scope position
    itemOf base position
  | .unary op operand => do applyUnary op (← eval scope operand)
  | .binary op left right => do
    let left ← eval scope left
    if leftDecides op left then return left
    else applyBinary op left (← eval scope right)
  | .conditional condition yes no => do
    let condition ← eval scope condition
    if condition.isTruthy then eval scope yes else eval scope no
  | .array items => do return .array (← evalItems scope items)
  | .object entries => do return .object (Entries.sort (← evalEntries scope entries))
  | .call function arguments => do function.apply (← evalItems scope arguments)

def evalItems (scope : Scope) : List Expr → Except FormulaError (List Value)
  | [] => .ok []
  | item :: rest => do
    let value ← eval scope item
    let values ← evalItems scope rest
    return value :: values

def evalEntries (scope : Scope) : List (String × Expr) → Except FormulaError (Entries Value)
  | [] => .ok []
  | (key, item) :: rest => do
    let value ← eval scope item
    let values ← evalEntries scope rest
    return (key, value) :: values

end

end Expr

end Formulary
