import Formulary.Json.Lexical

/-!
# Skipping values

A member that nobody asks for is skipped: only where its value ends is found out. So it may nest
as deep as it likes, its numbers may be of any size, and the escapes of its texts need not make
characters.

## Main definitions

* `Group` : a list or an object, which has values inside;
* `skipText`, `skipNumber`, `skipScalar` : what follows a value without values inside;
* `skipValue` : what follows any value.
-/
namespace Formulary.Json

/-- What follows a text, which begins after its opening quote. -/
def skipText : List Char → Except Fault (List Char)
  | [] => .error .endInText
  | '"' :: s => .ok s
  | ['\\'] => .error .endInText
  | '\\' :: c :: s =>
    if c = 'u' then
      match readHex s with
      | .ok _ => skipText s
      | .error fault => .error fault
    else if ['"', '\\', '/', 'b', 'f', 'n', 'r', 't'].contains c then skipText s
    else .error .invalidEscape
  | c :: s => if c.toNat < 0x20 then .error .controlCharacter else skipText s

def skipDigits (s : List Char) : Except Fault (List Char) :=
  if (s.takeWhile Char.isDigit).isEmpty then .error .invalidNumber
  else .ok (s.dropWhile Char.isDigit)

def skipExponent : List Char → Except Fault (List Char)
  | 'e' :: s | 'E' :: s =>
    match s with
    | '+' :: s | '-' :: s => skipDigits s
    | s => skipDigits s
  | s => .ok s

def skipFraction : List Char → Except Fault (List Char)
  | '.' :: s => skipDigits s
  | s => .ok s

/-- What follows a number without its sign. A zero in front of other digits is at fault. -/
def skipNumber (s : List Char) : Except Fault (List Char) :=
  match s.takeWhile Char.isDigit with
  | '0' :: _ :: _ => .error .invalidNumber
  | _ => do skipExponent (← skipFraction (← skipDigits s))

/-- What follows a value without values inside. -/
def skipScalar : List Char → Except Fault (List Char)
  | [] => .error .endInValue
  | 'n' :: s => skipWord ['u', 'l', 'l'] s
  | 't' :: s => skipWord ['r', 'u', 'e'] s
  | 'f' :: s => skipWord ['a', 'l', 's', 'e'] s
  | '"' :: s => skipText s
  | '-' :: s => skipNumber s
  | c :: s => if c.isDigit then skipNumber (c :: s) else .error .valueExpected

/-- A value with values inside. -/
inductive Group
  | list | object
deriving DecidableEq, Repr

namespace Group

def closing : Group → Char
  | .list => ']'
  | .object => '}'

def unfinished : Group → Fault
  | .list => .endInList
  | .object => .endInObject

/-- The fault of a text that neither goes on nor closes after a value inside. -/
def continuationExpected : Group → Fault
  | .list => .listContinuationExpected
  | .object => .objectContinuationExpected

/-- What follows the part in front of a value inside: the name and the colon in an object, and
nothing in a list. -/
def skipName : Group → List Char → Except Fault (List Char)
  | .list, s => .ok s
  | .object, s =>
    match skipBlanks s with
    | [] => .error .endInObject
    | '"' :: s => do
      match skipBlanks (← skipText s) with
      | [] => throw .endInObject
      | ':' :: s => return s
      | _ => throw .colonExpected
    | _ => .error .keyExpected

end Group

/-- Where skipping stands: before a value, after the opening of a group, or after a value. -/
inductive Place
  | before | opened | after
deriving DecidableEq, Repr

/-- What follows the outermost of the open groups, the innermost of which comes first. -/
def skipGroups : (fuel : Nat) → Place → List Group → List Char → Except Fault (List Char)
  | 0, _, _, _ => .error .endInValue
  | fuel + 1, .before, groups, s =>
    match skipBlanks s with
    | '[' :: s => skipGroups fuel .opened (.list :: groups) s
    | '{' :: s => skipGroups fuel .opened (.object :: groups) s
    | s =>
      match skipScalar s with
      | .ok s => skipGroups fuel .after groups s
      | .error fault => .error fault
  | _ + 1, _, [], s => .ok s
  | fuel + 1, place, group :: outer, s =>
    match skipBlanks s with
    | [] => .error group.unfinished
    | c :: s =>
      if c = group.closing then skipGroups fuel .after outer s
      else if place = .after ∧ c ≠ ',' then .error group.continuationExpected
      else
        match group.skipName (if place = .after then s else c :: s) with
        | .ok s => skipGroups fuel .before (group :: outer) s
        | .error fault => .error fault

/-- What follows the value that a text begins with. -/
def skipValue (s : List Char) : Except Fault (List Char) :=
  skipGroups (2 * s.length + 2) .before [] s

end Formulary.Json
