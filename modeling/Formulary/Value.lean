import Formulary.Calendar.Reader
import Formulary.Json

/-!
# Values

The values that flow through inputs, formulas and results.

## Main definitions

* `Value` : a value;
* `Value.same` : equality of values, numbers compared as doubles;
* `Value.ofJson`, `Value.toJson` : values from and to JSON;
* `Value.display` : a value as text in messages and concatenations.
-/
namespace Formulary

open Calendar (Instant)

/-- A value. The fields of an object ascend by name. -/
inductive Value
  | null
  | bool (b : Bool)
  | number (x : Float)
  | text (s : String)
  | date (t : Instant)
  | array (items : List Value)
  | object (fields : List (String × Value))
deriving Inhabited

inductive Kind
  | null | boolean | number | string | date | array | object
deriving DecidableEq, Repr

def Kind.name : Kind → String
  | .null => "null"
  | .boolean => "boolean"
  | .number => "number"
  | .string => "string"
  | .date => "date"
  | .array => "array"
  | .object => "object"

/-- What the names of a scope are bound to. -/
abbrev Values := NameMap Value

namespace Value

def kind : Value → Kind
  | .null => .null
  | .bool _ => .boolean
  | .number _ => .number
  | .text _ => .string
  | .date _ => .date
  | .array _ => .array
  | .object _ => .object

def isNull : Value → Bool
  | .null => true
  | _ => false

/-- Whether a value counts as true: all but `null`, `false`, zero, not a number and the empty
text. -/
def isTruthy : Value → Bool
  | .null => false
  | .bool b => b
  | .number x => x != 0.0 && !x.isNaN
  | .text s => !s.isEmpty
  | .date _ | .array _ | .object _ => true

def number? : Value → Option Float
  | .number x => some x
  | _ => none

def text? : Value → Option String
  | .text s => some s
  | _ => none

def field? (name : String) : Value → Option Value
  | .object fields => Entries.find? name fields
  | _ => none

mutual

/-- Equality of values: numbers are compared as doubles, arrays item by item, objects field by
field. -/
def same : Value → Value → Bool
  | .null, .null => true
  | .bool a, .bool b => a == b
  | .number x, .number y => x == y
  | .text s, .text t => s == t
  | .date s, .date t => s == t
  | .array xs, .array ys => sameItems xs ys
  | .object fs, .object gs => sameFields fs gs
  | _, _ => false

def sameItems : List Value → List Value → Bool
  | [], [] => true
  | x :: xs, y :: ys => same x y && sameItems xs ys
  | _, _ => false

def sameFields : List (String × Value) → List (String × Value) → Bool
  | [], [] => true
  | (m, x) :: fs, (n, y) :: gs => m == n && same x y && sameFields fs gs
  | _, _ => false

end

mutual

/-- A value from JSON. A text stays a text, also when it looks like a date. -/
def ofJson : Json → Value
  | .null => .null
  | .bool b => .bool b
  | .integer n => .number (Float.ofInt n)
  | .double x => .number x
  | .text s => .text s
  | .array items => .array (ofJsonItems items)
  | .object members => .object (ofJsonMembers members)

def ofJsonItems : List Json → List Value
  | [] => []
  | item :: rest => ofJson item :: ofJsonItems rest

def ofJsonMembers : List (String × Json) → List (String × Value)
  | [] => []
  | (name, value) :: rest => (name, ofJson value) :: ofJsonMembers rest

end

/-- A number as JSON: an integer when it is whole and below `2 ^ 53`, `null` when it is not
finite. -/
def numberToJson (x : Float) : Json :=
  match Number.safeInt? x with
  | some n => .integer n
  | none => if x.isFinite then .double x else .null

mutual

/-- A value as JSON. A date becomes its text. -/
def toJson : Value → Json
  | .null => .null
  | .bool b => .bool b
  | .number x => numberToJson x
  | .text s => .text s
  | .date t => .text t.text
  | .array items => .array (toJsonItems items)
  | .object fields => .object (toJsonFields fields)

def toJsonItems : List Value → List Json
  | [] => []
  | item :: rest => item.toJson :: toJsonItems rest

def toJsonFields : List (String × Value) → List (String × Json)
  | [] => []
  | (name, value) :: rest => (name, value.toJson) :: toJsonFields rest

end

mutual

/-- A value as text. An array is its items between commas, an object its JSON. -/
def display : Value → String
  | .null => "null"
  | .bool true => "true"
  | .bool false => "false"
  | .number x => Number.display x
  | .text s => s
  | .date t => t.text
  | .array items => Json.commaSeparated (displayItems items)
  | .object fields => (Json.object (toJsonFields fields)).compact

def displayItems : List Value → List String
  | [] => []
  | item :: rest => item.display :: displayItems rest

end

end Value

namespace Values

/-- The values that a JSON object binds; no other JSON binds any. -/
def ofJson? : Json → Option Values
  | .object members => some (NameMap.ofEntries (Value.ofJsonMembers members))
  | _ => none

def toJson (values : Values) : Json := .object (Value.toJsonFields values.entries)

end Values

end Formulary
