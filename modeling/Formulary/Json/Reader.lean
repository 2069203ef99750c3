import Formulary.Json
import Formulary.Json.Lexical
import Formulary.Json.Skip

/-!
# Reading JSON

The text of a JSON document is read from left to right into a tree that keeps the order of the
members and stops where the text goes wrong. So a reader of a particular kind of document can
report whichever comes first in the text: a fault of the text, or a value that does not belong
there.

## Main definitions

* `Node` : a value as it was read, with the place where reading stopped;
* `Document.ofText` : the tree of a text;
* `Json.parse` : the JSON value of a text, or its first fault.
-/
namespace Formulary.Json

/-- A value as it was read. The members of an object are in the order of the text. Reading may
have stopped after some items or members. -/
inductive Node
  | null
  | bool (b : Bool)
  | integer (n : Int)
  | double (x : Float)
  | text (s : String)
  | array (items : List Node) (fault : Option Fault)
  | object (members : List (String × Node)) (fault : Option Fault)
  | broken (fault : Fault)
deriving Inhabited

namespace Node

mutual

/-- The first fault on the way through the text. -/
def fault? : Node → Option Fault
  | .array items fault => (faultInItems items).or fault
  | .object members fault => (faultInMembers members).or fault
  | .broken fault => some fault
  | _ => none

def faultInItems : List Node → Option Fault
  | [] => none
  | item :: rest => item.fault?.or (faultInItems rest)

def faultInMembers : List (String × Node) → Option Fault
  | [] => none
  | (_, value) :: rest => value.fault?.or (faultInMembers rest)

end

mutual

def toJson : Node → Json
  | .null => .null
  | .bool b => .bool b
  | .integer n => .integer n
  | .double x => .double x
  | .text s => .text s
  | .array items _ => .array (toJsonItems items)
  | .object members _ => ofMembers (toJsonMembers members)
  | .broken _ => .null

def toJsonItems : List Node → List Json
  | [] => []
  | item :: rest => item.toJson :: toJsonItems rest

def toJsonMembers : List (String × Node) → List (String × Json)
  | [] => []
  | (name, value) :: rest => (name, value.toJson) :: toJsonMembers rest

end

mutual

/-- A JSON value as if it had been read in the order of its names. -/
def ofJson : Json → Node
  | .null => .null
  | .bool b => .bool b
  | .integer n => .integer n
  | .double x => .double x
  | .text s => .text s
  | .array items => .array (ofJsonItems items) none
  | .object members => .object (ofJsonMembers members) none

/-- Items as if they had been read. -/
def ofJsonItems : List Json → List Node
  | [] => []
  | item :: rest => ofJson item :: ofJsonItems rest

def ofJsonMembers : List (String × Json) → List (String × Node)
  | [] => []
  | (name, value) :: rest => (name, ofJson value) :: ofJsonMembers rest

end

end Node

/-- A tree and where reading stands after it; nowhere when it stopped inside. -/
abbrev Reading := Node × Option (List Char)

/-- A value that is written as a word, of which the given letters have to follow. -/
def readWord (value : Node) (word s : List Char) : Reading :=
  match skipWord word s with
  | .ok s => (value, some s)
  | .error fault => (.broken fault, none)

/-- The character of an escape with hexadecimal digits; two of them make one character beyond
the basic plane. -/
def readCodeEscape (s : List Char) : Except Fault (Char × List Char) := do
  let (high, s) ← readHex s
  if 0xDC00 ≤ high ∧ high ≤ 0xDFFF then throw .loneSurrogate
  if 0xD800 ≤ high ∧ high ≤ 0xDBFF then
    match s with
    | [] => throw .endInText
    | '\\' :: [] => throw .endInText
    | '\\' :: 'u' :: s =>
      let (low, s) ← readHex s
      if 0xDC00 ≤ low ∧ low ≤ 0xDFFF then
        return (Char.ofNat (0x10000 + (high - 0xD800) * 0x400 + (low - 0xDC00)), s)
      else throw .loneSurrogate
    | _ => throw .endOfEscape
  else return (Char.ofNat high, s)

def readEscape : List Char → Except Fault (Char × List Char)
  | [] => .error .endInText
  | '"' :: s => .ok ('"', s)
  | '\\' :: s => .ok ('\\', s)
  | '/' :: s => .ok ('/', s)
  | 'b' :: s => .ok ('\x08', s)
  | 'f' :: s => .ok ('\x0c', s)
  | 'n' :: s => .ok ('\n', s)
  | 'r' :: s => .ok ('\r', s)
  | 't' :: s => .ok ('\t', s)
  | 'u' :: s => readCodeEscape s
  | _ => .error .invalidEscape

/-- A text after its opening quote, of at most `fuel` characters. The characters read so far are
`before`, the last one first. -/
def readText : (fuel : Nat) → (before : List Char) → List Char →
    Except Fault (String × List Char)
  | 0, _, _ => .error .endInText
  | _, _, [] => .error .endInText
  | fuel + 1, before, c :: s =>
    if c = '"' then .ok (String.ofList before.reverse, s)
    else if c = '\\' then do
      let (meant, s) ← readEscape s
      readText fuel (meant :: before) s
    else if c.toNat < 0x20 then .error .controlCharacter
    else readText fuel (c :: before) s

/-- Where reading goes on after the value that the text `s` begins with, of which it knows the
`rest`. A value in which it stopped is skipped if it can be, as its member does not matter when
nobody asks for it. -/
def resume (s : List Char) (rest : Option (List Char)) : Except Fault (List Char) :=
  match rest with
  | some s => .ok s
  | none => skipValue s

def nestingLimit : Nat := 127

mutual

def readValue : (fuel : Nat) → (depth : Nat) → List Char → Reading
  | 0, _, _ => (.broken .endInValue, none)
  | fuel + 1, depth, s =>
    match skipBlanks s with
    | [] => (.broken .endInValue, none)
    | c :: s =>
      if c = 'n' then readWord .null ['u', 'l', 'l'] s
      else if c = 't' then readWord (.bool true) ['r', 'u', 'e'] s
      else if c = 'f' then readWord (.bool false) ['a', 'l', 's', 'e'] s
      else if c = '-' || c.isDigit then
        match readDocumentNumber (c :: s) with
        | .ok (.integer n, s) => (.integer n, some s)
        | .ok (.double x, s) => (.double x, some s)
        | .error fault => (.broken fault, none)
      else if c = '"' then
        match readText fuel [] s with
        | .ok (contents, s) => (.text contents, some s)
        | .error fault => (.broken fault, none)
      else if c = '[' then
        if nestingLimit ≤ depth then (.broken .tooNested, none)
        else
          let (items, fault, rest) := readItems fuel (depth + 1) true s
          (.array items fault, rest)
      else if c = '{' then
        if nestingLimit ≤ depth then (.broken .tooNested, none)
        else
          let (members, fault, rest) := readMembers fuel (depth + 1) true s
          (.object members fault, rest)
      else (.broken .valueExpected, none)

def readItems : (fuel : Nat) → (depth : Nat) → (first : Bool) → List Char →
    List Node × Option Fault × Option (List Char)
  | 0, _, _, _ => ([], some .endInList, none)
  | fuel + 1, depth, first, s =>
    let item (s : List Char) :=
      match readValue fuel depth s with
      | (value, none) => ([value], none, none)
      | (value, some s) =>
        let (items, fault, rest) := readItems fuel depth false s
        (value :: items, fault, rest)
    match skipBlanks s with
    | [] => ([], some .endInList, none)
    | ']' :: s => ([], none, some s)
    | c :: s =>
      if first then item (c :: s)
      else if c = ',' then
        match skipBlanks s with
        | [] => ([], some .endInValue, none)
        | ']' :: _ => ([], some .trailingComma, none)
        | s => item s
      else ([], some .listContinuationExpected, none)

def readMembers : (fuel : Nat) → (depth : Nat) → (first : Bool) → List Char →
    List (String × Node) × Option Fault × Option (List Char)
  | 0, _, _, _ => ([], some .endInObject, none)
  | fuel + 1, depth, first, s =>
    let member (s : List Char) :=
      match readText fuel [] s with
      | .error fault => ([], some fault, none)
      | .ok (name, s) =>
        match skipBlanks s with
        | [] => ([], some .endInObject, none)
        | ':' :: s =>
          let (value, rest) := readValue fuel depth s
          match resume s rest with
          | .ok s =>
            let (members, fault, rest) := readMembers fuel depth false s
            ((name, value) :: members, fault, rest)
          | .error fault => ([(name, value)], some fault, none)
        | _ => ([], some .colonExpected, none)
    match skipBlanks s with
    | [] => ([], some .endInObject, none)
    | '}' :: s => ([], none, some s)
    | c :: s =>
      if first then
        if c = '"' then member s else ([], some .keyExpected, none)
      else if c = ',' then
        match skipBlanks s with
        | [] => ([], some .endInValue, none)
        | '"' :: s => member s
        | '}' :: _ => ([], some .trailingComma, none)
        | _ => ([], some .keyExpected, none)
      else ([], some .objectContinuationExpected, none)

end

/-- A document: its value, and a fault when more text follows. -/
structure Document where
  root : Node
  trailing : Option Fault

def Document.ofText (text : String) : Document :=
  match readValue (2 * text.length + 2) 0 text.toList with
  | (root, none) => ⟨root, none⟩
  | (root, some rest) =>
    ⟨root, if (skipBlanks rest).isEmpty then none else some .trailingCharacters⟩

def Document.fault? (d : Document) : Option Fault := d.root.fault?.or d.trailing

/-- The JSON value of a text, or the first fault of the text. -/
def parse (text : String) : Except Fault Json :=
  let d := Document.ofText text
  match d.fault? with
  | some fault => .error fault
  | none => .ok d.root.toJson

end Formulary.Json
