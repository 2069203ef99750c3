import Formulary.Settings

/-!
# Settings files

A settings file has sections and, in them, keys with whole numbers or texts, a line each; the
rest of a line behind `#` does not count. This is a part of TOML.

## Main definitions

* `TomlFault` : the line and the column at which a file goes wrong;
* `SettingTree.ofToml` : the settings of a file.
-/
namespace Formulary

open Text (hexValue?)

structure TomlFault where
  line : Nat
  column : Nat
deriving DecidableEq, Repr

def TomlFault.message (f : TomlFault) : String :=
  s!"TOML parse error at line {Number.digitText f.line}, column {Number.digitText f.column}"

namespace Toml

def linesOf (s : List Char) : List (List Char) :=
  s.foldr
    (fun c lines =>
      if c = '\n' then [] :: lines
      else match lines with
        | line :: rest => (c :: line) :: rest
        | [] => [[c]])
    [[]]

def isLineBlank (c : Char) : Bool := c == ' ' || c == '\t'

def skip (s : List Char) : List Char := s.dropWhile isLineBlank

/-- Whether nothing that counts follows on a line. -/
def isLineEnd (s : List Char) : Bool :=
  match skip s with
  | [] | ['\r'] | '#' :: _ => true
  | _ => false

def isKeyChar (c : Char) : Bool := c.isAlphanum || c == '_' || c == '-'

def charOfHex? (digits : List Char) : Option Char := do
  let values ← digits.mapM hexValue?
  let n := values.foldl (fun n d => 16 * n + d) 0
  if n.isValidChar then some (Char.ofNat n) else none

/-- A text after its opening quote, of at most `fuel` characters, and the rest. Nothing is
escaped between single quotes. -/
def readText (close : Char) : (fuel : Nat) → List Char → Option (List Char × List Char)
  | 0, _ => none
  | _, [] => none
  | fuel + 1, c :: s =>
    let go (c : Char) (s : List Char) :=
      (readText close fuel s).map fun (read, rest) => (c :: read, rest)
    if c = close then some ([], s)
    else if c = '\\' ∧ close = '"' then
      match s with
      | 'b' :: s => go '\x08' s
      | 't' :: s => go '\t' s
      | 'n' :: s => go '\n' s
      | 'f' :: s => go '\x0c' s
      | 'r' :: s => go '\r' s
      | '"' :: s => go '"' s
      | '\\' :: s => go '\\' s
      | 'u' :: s => (charOfHex? (s.take 4)).bind fun c => go c (s.drop 4)
      | 'U' :: s => (charOfHex? (s.take 8)).bind fun c => go c (s.drop 8)
      | _ => none
    else if c.toNat < 0x20 ∧ c ≠ '\t' then none
    else go c s

def readName (s : List Char) : Option (String × List Char) :=
  match s with
  | '"' :: rest =>
    (readText '"' (rest.length + 1) rest).map fun (name, s) => (String.ofList name, s)
  | '\'' :: rest =>
    (readText '\'' (rest.length + 1) rest).map fun (name, s) => (String.ofList name, s)
  | s =>
    let name := s.takeWhile isKeyChar
    if name.isEmpty then none else some (String.ofList name, s.dropWhile isKeyChar)

/-- The names of a key, with points between them, and the rest. At most `fuel` are read. -/
def readKey : (fuel : Nat) → List Char → Option (List String × List Char)
  | 0, _ => none
  | fuel + 1, s => do
    let (name, s) ← readName (skip s)
    match skip s with
    | '.' :: s =>
      let (names, s) ← readKey fuel s
      some (name :: names, s)
    | s => some ([name], s)

/-- The digits of a whole number; single underscores may stand between them. -/
def readDigits? : List Char → Option (List Char)
  | [] => none
  | [c] => if c.isDigit then some [c] else none
  | c :: '_' :: s => if c.isDigit then (readDigits? s).map (c :: ·) else none
  | c :: s => if c.isDigit then (readDigits? s).map (c :: ·) else none

def readInteger? (s : List Char) : Option Int := do
  let (negative, digits) := match s with
    | '-' :: s => (true, s)
    | '+' :: s => (false, s)
    | s => (false, s)
  let digits ← readDigits? digits
  if digits.head? = some '0' ∧ 1 < digits.length then none
  else
    let n : Int := Number.digitsValue digits
    let n := if negative then -n else n
    if -Int.pow 2 63 ≤ n ∧ n < Int.pow 2 63 then some n else none

def readValue (origin : String) (s : List Char) : Option (SettingTree × List Char) :=
  match s with
  | '"' :: rest =>
    (readText '"' (rest.length + 1) rest).map fun (t, s) => (.text (String.ofList t) origin, s)
  | '\'' :: rest =>
    (readText '\'' (rest.length + 1) rest).map fun (t, s) => (.text (String.ofList t) origin, s)
  | s =>
    let ends (c : Char) := isLineBlank c || c == '#' || c == '\r'
    (readInteger? (s.takeWhile fun c => !ends c)).map fun n =>
      (.integer n origin, s.dropWhile fun c => !ends c)

inductive Line
  | nothing
  | section_ (path : List String)
  | setting (path : List String) (value : SettingTree)

def readLine (origin : String) (line : List Char) : Except Nat Line :=
  let s := skip line
  if isLineEnd s then .ok .nothing
  else
    match s with
    | '[' :: s =>
      match readKey (s.length + 1) s with
      | some (path, ']' :: rest) =>
        if isLineEnd rest then .ok (.section_ path) else .error rest.length
      | some (_, rest) => .error rest.length
      | none => .error s.length
    | s =>
      match readKey (s.length + 1) s with
      | some (path, '=' :: rest) =>
        let rest := skip rest
        match readValue origin rest with
        | some (value, after) =>
          if isLineEnd after then .ok (.setting path value) else .error after.length
        | none => .error rest.length
      | some (_, rest) => .error rest.length
      | none => .error s.length

/-- The settings of some lines, the first of which is the line `number`, in the section
`current`. -/
def readLines (origin : String) : (number : Nat) → (current : List String) →
    List (List Char) → SettingTree → Except TomlFault SettingTree
  | _, _, [], tree => .ok tree
  | number, current, line :: rest, tree =>
    match readLine origin line with
    | .ok .nothing => readLines origin (number + 1) current rest tree
    | .ok (.section_ path) => readLines origin (number + 1) path rest tree
    | .ok (.setting path value) =>
      readLines origin (number + 1) current rest (tree.put (current ++ path) value)
    | .error left => .error ⟨number, line.length - left + 1⟩

end Toml

def SettingTree.ofToml (origin text : String) : Except TomlFault SettingTree :=
  Toml.readLines origin 1 [] (Toml.linesOf text.toList) (.table [])

end Formulary
