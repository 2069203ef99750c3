import Formulary.Text.Basic
import Formulary.Value
import Formulary.Json.Reader
import Formulary.Number.Numeral

/-!
# Parameters

A parameter is one named and typed value of a template. Inputs come from the caller. Internals
and outputs are derived by formulas; internals are seen by other formulas only, outputs belong to
the results.

Roles and types are chosen by name, and blanks around a name and its case do not count. A default is
written as a text. It is read in the way of its type, else as JSON, else it stands for itself.

## Main definitions

* `chooseByName` : the alternative of a name;
* `Role` : where the value of a parameter comes from;
* `DataType` : the declared type of a value;
* `Parameter` : the definition of a parameter;
* `Parameter.formulaSource?` : its formula, when there is one to evaluate;
* `Parameter.defaultValue?` : its default.
-/
namespace Formulary

/-! ### Choices by name -/

inductive Choice
  | role | dataType | evaluationOrder
deriving DecidableEq, Repr

def Choice.describe : Choice → String
  | .role => "parameter scope"
  | .dataType => "data type"
  | .evaluationOrder => "evaluation order"

structure UnknownName where
  choice : Choice
  name : String
deriving DecidableEq, Repr

def UnknownName.message (u : UnknownName) : String :=
  "unknown " ++ u.choice.describe ++ ": " ++ u.name

/-- A name as it is compared. -/
def canonicalName (text : String) : String := Text.asciiLower (Text.trim text)

def chooseByName {α : Type} (choice : Choice) (nameOf : α → String) (alternatives : List α)
    (text : String) : Except UnknownName α :=
  match alternatives.find? fun a => nameOf a == canonicalName text with
  | some a => .ok a
  | none => .error ⟨choice, canonicalName text⟩

/-! ### Parameters -/

/-- Where the value of a parameter comes from. -/
inductive Role
  | input | internal | output
deriving DecidableEq, Repr, Inhabited

namespace Role

def name : Role → String
  | .input => "input"
  | .internal => "internal"
  | .output => "output"

def all : List Role := [.input, .internal, .output]

def ofName (text : String) : Except UnknownName Role := chooseByName .role name all text

end Role

inductive DataType
  | number | string | boolean | date | enum | array | object
deriving DecidableEq, Repr, Inhabited

namespace DataType

def name : DataType → String
  | .number => "number"
  | .string => "string"
  | .boolean => "boolean"
  | .date => "date"
  | .enum => "enum"
  | .array => "array"
  | .object => "object"

def all : List DataType := [.number, .string, .boolean, .date, .enum, .array, .object]

def ofName (text : String) : Except UnknownName DataType := chooseByName .dataType name all text

end DataType

structure Parameter where
  name : String
  role : Role
  dataType : DataType
  isRequired : Bool := false
  minValue : Option Float := none
  maxValue : Option Float := none
  pattern : Option String := none
  allowedValues : List Value := []
  /-- A literal, which is read for the type of the parameter. -/
  defaultText : Option String := none
  formula : Option String := none
  description : Option String := none
  unit : Option String := none
deriving Inhabited

namespace Parameter

def input (name : String) (dataType : DataType) : Parameter where
  name := name
  role := .input
  dataType := dataType

/-- A value between inputs and results that a formula derives. -/
def internal (name : String) (dataType : DataType) (formula : String) : Parameter where
  name := name
  role := .internal
  dataType := dataType
  formula := some formula

def output (name : String) (dataType : DataType) (formula : String) : Parameter where
  name := name
  role := .output
  dataType := dataType
  formula := some formula

def isInput (p : Parameter) : Bool := p.role == .input

/-- The formula, unless it is missing or blank. -/
def formulaSource? (p : Parameter) : Option String :=
  p.formula.filter fun source => !Text.allBlank source

/-- A parameter has a formula exactly when it is no input. -/
def hasFormulaIfDerived (p : Parameter) : Bool := p.isInput != p.formulaSource?.isSome

end Parameter

/-! ### Default values -/

def readFinite? (text : String) : Option Value :=
  (Number.readNumber? text).bind fun x => if x.isFinite then some (.number x) else none

/-- A truth value as text, in any case. -/
def readTruth? (text : String) : Option Value :=
  let text := Text.asciiLower text
  if text = "true" then some (.bool true)
  else if text = "false" then some (.bool false)
  else none

def readJson? (text : String) : Option Value :=
  match Json.parse text with
  | .ok json => some (.ofJson json)
  | .error _ => none

namespace DataType

/-- What a trimmed text means for this type in particular. -/
def readTyped? (type : DataType) (trimmed : String) : Option Value :=
  match type with
  | .number => readFinite? trimmed
  | .boolean => readTruth? trimmed
  | .date => (Calendar.readDate? trimmed).map .date
  | .string | .enum | .array | .object => none

/-- The value that a text stands for. For a string it stands for itself, blanks included. -/
def readLiteral (type : DataType) (text : String) : Value :=
  if type = .string then .text text
  else
    let trimmed := Text.trim text
    ((type.readTyped? trimmed).or (readJson? trimmed)).getD (.text text)

end DataType

def Parameter.defaultValue? (p : Parameter) : Option Value :=
  p.defaultText.map p.dataType.readLiteral

end Formulary
