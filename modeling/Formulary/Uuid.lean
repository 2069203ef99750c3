import Formulary.Number.Layout
import Formulary.Text.Basic

/-!
# UUIDs

Identifiers of 128 bits. They are written in lower case, in groups between hyphens; they are also
read without hyphens, in braces, and behind `urn:uuid:`.

## Main definitions

* `Uuid` : an identifier;
* `Uuid.text` : its text;
* `Uuid.parse` : the identifier of a text, or why there is none.
-/
namespace Formulary

structure Uuid where
  bits : BitVec 128
deriving DecidableEq, Inhabited, Repr

namespace Uuid

def nil : Uuid := ⟨0⟩

def cut {α : Type} : List Nat → List α → List (List α)
  | [], _ => []
  | n :: lengths, items => items.take n :: cut lengths (items.drop n)

def digits (u : Uuid) : List Char :=
  (List.range 32).map fun i => Text.hexDigit (u.bits.toNat / Nat.pow 16 (31 - i) % 16)

def text (u : Uuid) : String :=
  String.ofList (List.intercalate ['-'] (cut [8, 4, 4, 4, 12] u.digits))

inductive Fault
  /-- A character that has no place in an identifier, so many bytes from the start. -/
  | character (found : Char) (offset : Nat)
  /-- A text without hyphens has a wrong length. -/
  | length (found : Nat)
  /-- There are too few or too many groups. -/
  | groupCount (found : Nat)
  /-- A group, counted from zero, has a wrong length. -/
  | groupLength (group expected found : Nat)
deriving DecidableEq, Repr

def Fault.message : Fault → String
  | .character found offset =>
    s!"invalid character: found `{found}` at {Number.digitText offset}"
  | .length found =>
    s!"invalid length: expected length 32 for simple format, found {Number.digitText found}"
  | .groupCount found => s!"invalid group count: expected 5, found {Number.digitText found}"
  | .groupLength group expected found =>
    s!"invalid group length in group {Number.digitText group}: " ++
      s!"expected {Number.digitText expected}, found {Number.digitText found}"

def ofDigits? (s : List Char) : Option Uuid :=
  if s.length = 32 then
    (s.mapM Text.hexValue?).map fun values =>
      ⟨BitVec.ofNat 128 (values.foldl (fun n d => 16 * n + d) 0)⟩
  else none

def ofGroups? (s : List Char) : Option Uuid :=
  match cut [8, 1, 4, 1, 4, 1, 4, 1, 12] s with
  | [a, ['-'], b, ['-'], c, ['-'], d, ['-'], e] =>
    if s.length = 36 then ofDigits? (a ++ b ++ c ++ d ++ e) else none
  | _ => none

/-- What stands between two braces. -/
def unbrace? (s : List Char) : Option (List Char) :=
  match s with
  | '{' :: rest => if rest.getLast? = some '}' then some rest.dropLast else none
  | _ => none

/-- What stands behind `urn:uuid:`. -/
def afterUrn? (s : List Char) : Option (List Char) :=
  match s with
  | 'u' :: 'r' :: 'n' :: ':' :: 'u' :: 'u' :: 'i' :: 'd' :: ':' :: rest => some rest
  | _ => none

def byteLength (s : List Char) : Nat := s.foldr (fun c length => c.utf8Size + length) 0

/-- The first character that is neither a digit nor a hyphen, and its place in bytes after
`offset`. -/
def strayCharacter? (offset : Nat) : List Char → Option (Char × Nat)
  | [] => none
  | c :: rest =>
    if c = '-' || (Text.hexValue? c).isSome then strayCharacter? (offset + c.utf8Size) rest
    else some (c, offset)

def groupLengths : List Char → List Nat
  | [] => [0]
  | c :: rest =>
    if c = '-' then 0 :: groupLengths rest
    else match groupLengths rest with
      | n :: others => (n + 1) :: others
      | [] => [1]

/-- The first group that is too short or too long; the last one when it is none of those
before. -/
def wrongGroup (total : Nat) : (group : Nat) → (expected found : List Nat) → Fault
  | group, e :: es, f :: fs =>
    if es.isEmpty then .groupLength group e (total - 24)
    else if e = f then wrongGroup total (group + 1) es fs
    else .groupLength group e f
  | group, _, _ => .groupLength group 0 0

/-- Why a text that is no identifier is none. -/
def diagnose (s : List Char) : Fault :=
  let (body, offset, bare) :=
    match unbrace? s, afterUrn? s with
    | some body, _ => (body, 1, false)
    | none, some body => (body, 9, false)
    | none, none => (s, 0, true)
  match strayCharacter? offset body with
  | some (c, place) => .character c place
  | none =>
    let lengths := groupLengths body
    if lengths.length = 1 ∧ bare then .length s.length
    else if lengths.length ≠ 5 then .groupCount lengths.length
    else wrongGroup s.length 0 [8, 4, 4, 4, 12] lengths

/-- The part of a text that has to be the identifier: the whole, unless its length is that of
one in braces or behind `urn:uuid:`. -/
def core (s : List Char) : List Char :=
  if byteLength s = 38 then (unbrace? s).getD s
  else if byteLength s = 45 then (afterUrn? s).getD s
  else s

def parse (text : String) : Except Fault Uuid :=
  let s := core text.toList
  match (ofDigits? s).or (ofGroups? s) with
  | some u => .ok u
  | none => .error (diagnose s)

end Uuid

end Formulary
