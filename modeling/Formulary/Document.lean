import Formulary.Json.Reader
import Formulary.Text.Quoted
import Formulary.Uuid
import Formulary.Template

/-!
# Documents

Templates and settings are written as JSON documents. A document is read member by member, in
the order of its text or, once it is a JSON value, in the order of the names; the first member
that is at fault decides. Members that are missing are noticed at the end, and members that
nobody asks for do not count.

## Main definitions

* `Shape` : what a node is, as messages name it;
* `DocumentFault`, `DocumentFault.message` : why a document cannot be read;
* `Decoder` : a reader of one kind of node;
* `Field`, `readRecord` : reading objects with known members;
* `Template.ofText`, `Template.ofJson` : the template of a document.
-/
namespace Formulary

open Json (Node)

inductive Shape
  | null
  | bool (b : Bool)
  | integer (n : Int)
  | double (x : Float)
  | text (s : String)
  | array | object
deriving DecidableEq

def Shape.describe : Shape → String
  | .null => "null"
  | .bool b => if b then "boolean `true`" else "boolean `false`"
  | .integer n => "integer `" ++ Number.intText n ++ "`"
  | .double x => "floating point `" ++ Number.document.write x ++ "`"
  | .text s => "string " ++ Text.quoted s
  | .array => "sequence"
  | .object => "map"

inductive DocumentFault
  | malformed (fault : Json.Fault)
  | wrongType (found : Shape) (expected : String)
  | wrongValue (found : Shape) (expected : String)
  | missingField (name : String)
  | repeatedField (name : String)
  | unknownVariant (found : String) (expected : List String)
  | wrongLength (found : Nat) (expected : String)
  | notUuid (fault : Uuid.Fault)
deriving DecidableEq

def backquoted (name : String) : String := "`" ++ name ++ "`"

def DocumentFault.message : DocumentFault → String
  | .malformed fault => fault.message
  | .wrongType found expected => s!"invalid type: {found.describe}, expected {expected}"
  | .wrongValue found expected => s!"invalid value: {found.describe}, expected {expected}"
  | .missingField name => s!"missing field {backquoted name}"
  | .repeatedField name => s!"duplicate field {backquoted name}"
  | .unknownVariant found expected =>
    let known := String.intercalate ", " (expected.map backquoted)
    s!"unknown variant {backquoted found}, expected one of {known}"
  | .wrongLength found expected =>
    s!"invalid length {Number.digitText found}, expected {expected}"
  | .notUuid fault => s!"UUID parsing failed: {fault.message}"

/-- Whether a node comes from the text of a document or from a value that was read before. In a
text, some faults are noticed before it is known what the text goes on with. -/
inductive Source
  | text | value
deriving DecidableEq, Repr

/-- A reader of one kind of node. -/
abbrev Decoder (α : Type) := Source → Node → Except DocumentFault α

namespace Decode

/-- A node of the wrong kind, or one that is broken. -/
def refuse {α : Type} (expected : String) (node : Node) : Except DocumentFault α :=
  match node with
  | .null => .error (.wrongType .null expected)
  | .bool b => .error (.wrongType (.bool b) expected)
  | .integer n => .error (.wrongType (.integer n) expected)
  | .double x => .error (.wrongType (.double x) expected)
  | .text s => .error (.wrongType (.text s) expected)
  | .array .. => .error (.wrongType .array expected)
  | .object .. => .error (.wrongType .object expected)
  | .broken fault => .error (.malformed fault)

def text : Decoder String := fun _ node =>
  match node with
  | .text s => .ok s
  | node => refuse "a string" node

def bool : Decoder Bool := fun _ node =>
  match node with
  | .bool b => .ok b
  | node => refuse "a boolean" node

def number : Decoder Float := fun _ node =>
  match node with
  | .integer n => .ok (Float.ofInt n)
  | .double x => .ok x
  | node => refuse "f64" node

/-- A natural number of at most `bits` bits, of a type that messages call `name`. -/
def natural (name : String) (bits : Nat) : Decoder Nat := fun _ node =>
  match node with
  | .integer n =>
    if 0 ≤ n ∧ n < Nat.pow 2 bits then .ok n.toNat else .error (.wrongValue (.integer n) name)
  | node => refuse name node

def uuid : Decoder Uuid := fun _ node =>
  match node with
  | .text s =>
    match Uuid.parse s with
    | .ok u => .ok u
    | .error fault => .error (.notUuid fault)
  | node => refuse "a UUID string" node

def json : Decoder Json := fun _ node =>
  match node.fault? with
  | some fault => .error (.malformed fault)
  | none => .ok node.toJson

/-- Something, or `null` for nothing. -/
def optional {α : Type} (decode : Decoder α) : Decoder (Option α) := fun source node =>
  match node with
  | .null => .ok none
  | node => (decode source node).map some

def items {α : Type} (decode : Decoder α) (source : Source) :
    List Node → Except DocumentFault (List α)
  | [] => .ok []
  | node :: rest => do
    let first ← decode source node
    let others ← items decode source rest
    return first :: others

def list {α : Type} (decode : Decoder α) : Decoder (List α) := fun source node =>
  match node with
  | .array nodes fault => do
    let values ← items decode source nodes
    match fault with
    | none => return values
    | some fault => throw (.malformed fault)
  | node => refuse "a sequence" node

/-- One of some alternatives by name; messages list all names in ascending order. -/
def variantNamed {α : Type} (variants : List (String × α)) (name : String) :
    Except DocumentFault α :=
  match variants.lookup name with
  | some v => .ok v
  | none => .error (.unknownVariant name (variants.map (·.1)))

def nothing : Decoder Unit := fun _ node =>
  match node with
  | .null => .ok ()
  | node => refuse "unit" node

/-- One of some alternatives: its name, or an object with its name and `null`. -/
def variant {α : Type} (variants : List (String × α)) : Decoder α := fun source node =>
  match node, source with
  | .text name, _ => variantNamed variants name
  | .object [(name, inner)] none, _ => do
    let v ← variantNamed variants name
    nothing source inner
    return v
  | .object _ none, .value => .error (.wrongValue .object "map with a single key")
  | .object ((name, inner) :: rest) fault, _ => do
    let _ ← variantNamed variants name
    nothing source inner
    match rest, fault with
    | [], some fault => throw (.malformed (if fault = .endInObject then fault else .valueExpected))
    | _, _ => throw (.malformed .valueExpected)
  | .object [] fault, .text => .error (.malformed (fault.getD .valueExpected))
  | .broken fault, _ => .error (.malformed fault)
  | _, .text => .error (.malformed .valueExpected)
  | node, .value => refuse "string or map" node

end Decode

/-- A member that an object may have, and how it is read into a draft of the whole. -/
structure Field (α : Type) where
  name : String
  /-- Whether the member may be left out of an object. -/
  mayBeMissing : Bool := true
  /-- Whether the item may be left out of an array that stands for the object. -/
  hasDefault : Bool := false
  read : Source → Node → α → Except DocumentFault α

namespace Field

def of {α β : Type} (name : String) (decode : Decoder β) (put : β → α → α)
    (mayBeMissing hasDefault : Bool) : Field α where
  name := name
  mayBeMissing := mayBeMissing
  hasDefault := hasDefault
  read source node draft := (decode source node).map fun v => put v draft

def required {α β : Type} (name : String) (decode : Decoder β) (put : β → α → α) : Field α :=
  of name decode put false false

/-- A field that may be missing, or `null`. -/
def nullable {α β : Type} (name : String) (decode : Decoder β) (put : Option β → α → α) :
    Field α :=
  of name (Decode.optional decode) put true false

/-- A field that may be missing, but not `null`. -/
def defaulted {α β : Type} (name : String) (decode : Decoder β) (put : β → α → α) : Field α :=
  of name decode put true true

end Field

/-- A kind of object: its name in messages, its fields, and a draft in which every field has its
default. -/
structure RecordFormat (α : Type) where
  name : String
  fields : List (Field α)
  draft : α

namespace RecordFormat

variable {α : Type}

/-- The members of an object in turn; the fields in `seen` were read before. At the end, the
first field that must not be missing is. -/
def readMembers (r : RecordFormat α) (source : Source) (fault : Option Json.Fault) :
    (seen : List String) → List (String × Node) → α → Except DocumentFault α
  | seen, [], draft =>
    match fault with
    | some fault => .error (.malformed fault)
    | none =>
      match r.fields.find? fun f => !f.mayBeMissing && !seen.contains f.name with
      | some f => .error (.missingField f.name)
      | none => .ok draft
  | seen, (name, node) :: rest, draft =>
    match r.fields.find? fun f => f.name == name with
    | none => r.readMembers source fault seen rest draft
    | some f =>
      if seen.contains name then .error (.repeatedField name)
      else do
        let draft ← f.read source node draft
        r.readMembers source fault (name :: seen) rest draft

/-- How messages call a record that an array stands for. -/
def describeItems (r : RecordFormat α) : String :=
  s!"struct {r.name} with {Number.digitText r.fields.length} elements"

/-- The items of an array as the fields, in their order; `count` were read before. -/
def readItems (r : RecordFormat α) (source : Source) (fault : Option Json.Fault)
    (total : Nat) : (count : Nat) → List (Field α) → List Node → α → Except DocumentFault α
  | count, f :: fields, node :: rest, draft => do
    let draft ← f.read source node draft
    r.readItems source fault total (count + 1) fields rest draft
  | count, f :: fields, [], draft =>
    match fault with
    | some fault => .error (.malformed fault)
    | none =>
      if f.hasDefault then r.readItems source fault total (count + 1) fields [] draft
      else .error (.wrongLength count r.describeItems)
  | _, [], rest, draft =>
    match source, rest, fault with
    | _, [], none => .ok draft
    | .value, _, _ => .error (.wrongLength total "fewer elements in array")
    | .text, [], some .trailingComma => .error (.malformed .trailingComma)
    | .text, [], some .endInList => .error (.malformed .endInList)
    | .text, _, _ => .error (.malformed .trailingCharacters)

/-- A record, from an object or from an array. -/
def read (r : RecordFormat α) : Decoder α := fun source node =>
  match node with
  | .object members fault => r.readMembers source fault [] members r.draft
  | .array items fault => r.readItems source fault items.length 0 r.fields items r.draft
  | node => Decode.refuse ("struct " ++ r.name) node

end RecordFormat

namespace Decode

/-- What a document is, unless more text follows. -/
def document {α : Type} (decode : Decoder α) (d : Json.Document) : Except DocumentFault α := do
  let v ← decode .text d.root
  match d.trailing with
  | none => return v
  | some fault => throw (.malformed fault)

def ofJson {α : Type} (decode : Decoder α) (json : Json) : Except DocumentFault α :=
  decode .value (Node.ofJson json)

end Decode

end Formulary

namespace Formulary

/-! ### Templates -/

def inBothCases {α : Type} (nameOf : α → String) (alternatives : List α) : List (String × α) :=
  alternatives.flatMap fun a => [((nameOf a).map Char.toUpper, a), (nameOf a, a)]

def parameterFormat : RecordFormat Parameter where
  name := "ParameterNew"
  draft := { name := "", role := .input, dataType := .number }
  fields :=
    [.required "name" Decode.text fun v p => { p with name := v },
     .required "scope" (Decode.variant (inBothCases Role.name Role.all)) fun v p =>
      { p with role := v },
     .required "data_type" (Decode.variant (inBothCases DataType.name DataType.all)) fun v p =>
      { p with dataType := v },
     .defaulted "is_required" Decode.bool fun v p => { p with isRequired := v },
     .nullable "min_value" Decode.number fun v p => { p with minValue := v },
     .nullable "max_value" Decode.number fun v p => { p with maxValue := v },
     .nullable "regex_pattern" Decode.text fun v p => { p with pattern := v },
     .defaulted "allowed_values" (Decode.list Decode.json) fun v p =>
      { p with allowedValues := v.map Value.ofJson },
     .nullable "default_value" Decode.text fun v p => { p with defaultText := v },
     .nullable "formula" Decode.text fun v p => { p with formula := v },
     .nullable "description" Decode.text fun v p => { p with description := v },
     .nullable "unit" Decode.text fun v p => { p with unit := v }]

/-- The members of a template, which has the identifier `freshId` unless it says otherwise. -/
def templateFormat (freshId : Uuid) : RecordFormat Template where
  name := "TemplateNew"
  draft := { id := freshId, name := "", formula := "" }
  fields :=
    [.nullable "id" Decode.uuid fun v t => { t with id := v.getD freshId },
     .required "name" Decode.text fun v t => { t with name := v },
     .nullable "description" Decode.text fun v t => { t with description := v },
     .nullable "category" Decode.text fun v t => { t with category := v },
     .nullable "version" (Decode.natural "u32" 32) fun v t => { t with version := v.getD 1 },
     .nullable "is_active" Decode.bool fun v t => { t with isActive := v.getD true },
     .defaulted "is_verified" Decode.bool fun v t => { t with isVerified := v },
     .required "formula" Decode.text fun v t => { t with formula := v },
     .defaulted "parameters" (Decode.list parameterFormat.read) fun v t =>
      { t with parameters := v }]

namespace Template

def ofJson (freshId : Uuid) (json : Json) : Except DocumentFault Template :=
  Decode.ofJson (templateFormat freshId).read json

def ofText (freshId : Uuid) (text : String) : Except DocumentFault Template :=
  Decode.document (templateFormat freshId).read (Json.Document.ofText text)

end Template

def parametersOfJson (json : Json) : Except DocumentFault (List Parameter) :=
  Decode.ofJson (Decode.list parameterFormat.read) json

end Formulary
