import Formulary.NameMap
import Formulary.Number.Layout
import Formulary.Text.Basic

/-!
# JSON

JSON values and their texts. Whole numbers and doubles are told apart, as documents require whole
numbers in some places.

## Main definitions

* `Json` : a JSON value;
* `Json.compact` : its text without blanks, members in the order of the object;
* `Json.pretty` : its text with a line for each item and member, indented by their depth.
-/
namespace Formulary

/-- A JSON value. The members of an object ascend by name. -/
inductive Json
  | null
  | bool (b : Bool)
  | integer (n : Int)
  | double (x : Float)
  | text (s : String)
  | array (items : List Json)
  | object (members : List (String × Json))
deriving Inhabited

namespace Json

def escape (c : Char) : List Char :=
  if c = '"' then ['\\', '"']
  else if c = '\\' then ['\\', '\\']
  else if c = '\x08' then ['\\', 'b']
  else if c = '\x0c' then ['\\', 'f']
  else if c = '\n' then ['\\', 'n']
  else if c = '\r' then ['\\', 'r']
  else if c = '\t' then ['\\', 't']
  else if c.toNat < 0x20 then
    ['\\', 'u', '0', '0', Text.hexDigit (c.toNat / 16), Text.hexDigit (c.toNat % 16)]
  else [c]

def quote (s : String) : String :=
  "\"" ++ String.ofList (s.toList.flatMap escape) ++ "\""

def commaSeparated (parts : List String) : String := String.intercalate "," parts

mutual

def compact : Json → String
  | .null => "null"
  | .bool true => "true"
  | .bool false => "false"
  | .integer n => Number.intText n
  | .double x => Number.document.write x
  | .text s => quote s
  | .array items => "[" ++ commaSeparated (compactItems items) ++ "]"
  | .object members => "\x7b" ++ commaSeparated (compactMembers members) ++ "\x7d"

def compactItems : List Json → List String
  | [] => []
  | item :: rest => item.compact :: compactItems rest

def compactMembers : List (String × Json) → List String
  | [] => []
  | (name, value) :: rest => (quote name ++ ":" ++ value.compact) :: compactMembers rest

end

/-- An object of the given members; the last of a name stays. -/
def ofMembers (members : Entries Json) : Json := .object members.sort

end Json

end Formulary

namespace Formulary.Json

/-! ### Text for readers -/

def lineStart (depth : Nat) : String := "\n" ++ String.ofList (List.replicate (2 * depth) ' ')

def onLines (depth : Nat) (opening closing : String) (parts : List String) : String :=
  if parts.isEmpty then opening ++ closing
  else
    let start := lineStart (depth + 1)
    opening ++ start ++ String.intercalate ("," ++ start) parts ++ lineStart depth ++ closing

mutual

def prettyAt (depth : Nat) : Json → String
  | .array items => onLines depth "[" "]" (prettyItems (depth + 1) items)
  | .object members => onLines depth "\x7b" "\x7d" (prettyMembers (depth + 1) members)
  | json => json.compact

def prettyItems (depth : Nat) : List Json → List String
  | [] => []
  | item :: rest => prettyAt depth item :: prettyItems depth rest

def prettyMembers (depth : Nat) : List (String × Json) → List String
  | [] => []
  | (name, value) :: rest =>
    (quote name ++ ": " ++ prettyAt depth value) :: prettyMembers depth rest

end

def pretty (json : Json) : String := prettyAt 0 json

end Formulary.Json
