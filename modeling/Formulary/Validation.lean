import Formulary.Parameter
import Formulary.Pattern.Compile

/-!
# Validation and binding of inputs

The values of a caller are checked against the inputs of a template. Every input that is
violated is reported once, in the order of the inputs; a value of the wrong type is not checked
further. Absent values that are not required, and values that belong to no input, are ignored.
A pattern is compiled each time that it is needed: whether it was kept from before shows in no answer.

A run starts from values that are bound to the names of its inputs: those that the caller
supplies, else the defaults, else null. Nothing else that the caller supplies is bound.

## Main definitions

* `Violation` : how a value fails its input;
* `Problem` : a violation and the input that it concerns;
* `Parameter.violation?` : the violation of one value;
* `validate` : the problems of all inputs;
* `Parameter.bound`, `bindInputs` : the values that inputs are bound to.
-/
namespace Formulary

/-- How a value fails its input. -/
inductive Violation
  /-- There is no value. -/
  | missing
  /-- The value is not of the declared type. -/
  | wrongType (expected : DataType)
  /-- A number is outside its bounds. -/
  | outOfBounds (low high : Option Float) (got : Float)
  /-- A text does not match its pattern. -/
  | noMatch (pattern : String)
  /-- The pattern is no pattern. -/
  | invalidPattern (pattern : String) (refusal : Pattern.Refusal)
  /-- The value is none of those that are allowed. -/
  | notAllowed (allowed : List Value) (got : Value)

/-- The message of a pattern that is wrapped to match from end to end. -/
def patternMessage (pattern : String) (refusal : Pattern.Refusal) : String :=
  refusal.message (Pattern.wrap pattern)

def DataType.describe : DataType → String
  | .number => "a number"
  | .string => "a string"
  | .boolean => "a boolean"
  | .date => "a valid date"
  | .enum => "an enum"
  | .array => "an array"
  | .object => "an object"

def describeBounds : (low high : Option Float) → String
  | some low, some high => s!"between {Number.display low} and {Number.display high}"
  | some low, none => s!"at least {Number.display low}"
  | none, some high => s!"at most {Number.display high}"
  | none, none => ""

def Violation.message (name : String) : Violation → String
  | .missing => s!"'{name}' is required"
  | .wrongType expected => s!"'{name}' must be {expected.describe}"
  | .outOfBounds low high got =>
    s!"'{name}' must be {describeBounds low high}, got {Number.display got}"
  | .noMatch pattern => s!"'{name}' does not match pattern '{pattern}'"
  | .invalidPattern pattern refusal =>
    s!"'{name}' has an invalid pattern '{pattern}': {patternMessage pattern refusal}"
  | .notAllowed allowed got =>
    let shown := String.intercalate ", " (allowed.map Value.display)
    s!"'{name}' must be one of [{shown}], got '{got.display}'"

/-- A violation, and the name of the input that it concerns. -/
structure Problem where
  parameter : String
  violation : Violation

def Problem.message (p : Problem) : String := p.violation.message p.parameter

def joinProblems (problems : List Problem) : String :=
  String.intercalate "; " (problems.map Problem.message)

namespace Parameter

def isOutOfBounds (p : Parameter) (x : Float) : Bool :=
  p.minValue.any (fun low => x < low) || p.maxValue.any (fun high => high < x)

def boundViolation? (p : Parameter) (x : Float) : Option Violation :=
  if p.isOutOfBounds x then some (.outOfBounds p.minValue p.maxValue x) else none

def patternViolation? (p : Parameter) (s : String) : Option Violation :=
  p.pattern.bind fun pattern =>
    match Pattern.compileAnchored pattern with
    | .ok r => if r.isMatch s then none else some (.noMatch pattern)
    | .error refusal => some (.invalidPattern pattern refusal)

/-- Whether a value is one of those that are allowed. -/
def allows (p : Parameter) (v : Value) : Bool := p.allowedValues.any fun a => a.same v

def valueViolation? (p : Parameter) (v : Value) : Option Violation :=
  match p.dataType, v with
  | .number, .number x =>
    if x.isFinite then p.boundViolation? x else some (.wrongType .number)
  | .string, .text s => p.patternViolation? s
  | .boolean, .bool _ => none
  | .date, .date _ => none
  | .date, .text s => if (Calendar.readDate? s).isSome then none else some (.wrongType .date)
  | .array, .array _ => none
  | .object, .object _ => none
  | .enum, v => if p.allows v then none else some (.notAllowed p.allowedValues v)
  | type, _ => some (.wrongType type)

/-- The value that is supplied under a name, unless it is absent or null. -/
def suppliedFor (name : String) (supplied : Values) : Option Value :=
  (supplied.get? name).filter fun v => !v.isNull

/-- The violation of an input. -/
def violation? (p : Parameter) (supplied : Values) : Option Violation :=
  match suppliedFor p.name supplied with
  | some v => p.valueViolation? v
  | none => if p.isRequired then some .missing else none

end Parameter

def validate (parameters : List Parameter) (supplied : Values) : List Problem :=
  (parameters.filter Parameter.isInput).filterMap fun p =>
    (p.violation? supplied).map fun violation => ⟨p.name, violation⟩

/-! ### Binding -/

/-- A supplied value as the formulas see it: a text for a date becomes the date. -/
def DataType.coerce (type : DataType) (v : Value) : Value :=
  match type, v with
  | .date, .text s =>
    match Calendar.readDate? s with
    | some t => .date t
    | none => .text s
  | _, v => v

def Parameter.bound (p : Parameter) (supplied : Values) : Value :=
  match Parameter.suppliedFor p.name supplied with
  | some v => p.dataType.coerce v
  | none => p.defaultValue?.getD .null

/-- The values that the inputs are bound to; of two inputs with one name the later counts. -/
def bindInputs (parameters : List Parameter) (supplied : Values) : Values :=
  NameMap.ofEntries ((parameters.filter Parameter.isInput).map fun p =>
    (p.name, p.bound supplied))

end Formulary
