import Formulary.Document
import Formulary.Template
import Formulary.Text.LetterCase

/-!
# Settings

What can be set for a program that runs templates. Settings are gathered from a file and from
variables into a tree, in which a later source takes the place of an earlier one. A setting remembers
where it came from. Texts count as whole numbers where whole numbers are needed, and whole numbers as
texts.

A variable of the environment whose name begins with the name of the program and two underscores
is a setting. The rest of the name is its path; two underscores or a point lead into a section.

## Main definitions

* `Settings` : the settings, with their defaults;
* `EngineSettings.toEngine`, `EngineSettings.budget?` : what they mean for a run;
* `SettingTree` : gathered settings;
* `SettingTree.put` : put a setting at a path;
* `Settings.ofJson`, `Settings.ofTree` : settings from a JSON value, and those that were gathered.
-/
namespace Formulary

structure AppSettings where
  /-- Which events are logged. -/
  level : String := "info"
deriving DecidableEq, Repr, Inhabited

structure EngineSettings where
  maxFormulaLength : Nat := 4096
  maxDepth : Nat := 64
  /-- The name of the order of evaluation. -/
  evaluationOrder : String := EvaluationOrder.name .declared
  /-- The milliseconds that a run may take; without limit when zero. -/
  timeoutMs : Nat := 2000
deriving DecidableEq, Repr, Inhabited

structure Settings where
  app : AppSettings := {}
  engine : EngineSettings := {}
deriving DecidableEq, Repr, Inhabited

namespace EngineSettings

def toEngine (s : EngineSettings) : Except UnknownName Engine := do
  let order ← EvaluationOrder.ofName s.evaluationOrder
  return ⟨⟨s.maxFormulaLength, s.maxDepth⟩, order⟩

/-- The milliseconds that a run may take, if they are limited. -/
def budget? (s : EngineSettings) : Option Nat :=
  if 0 < s.timeoutMs then some s.timeoutMs else none

end EngineSettings

def appFormat : RecordFormat AppSettings where
  name := "App"
  draft := {}
  fields := [.defaulted "level" Decode.text fun v s => { s with level := v }]

def engineFormat : RecordFormat EngineSettings where
  name := "EngineSettings"
  draft := {}
  fields :=
    [.defaulted "max_formula_length" (Decode.natural "usize" 64) fun v s =>
      { s with maxFormulaLength := v },
     .defaulted "max_depth" (Decode.natural "usize" 64) fun v s => { s with maxDepth := v },
     .defaulted "evaluation_order" Decode.text fun v s => { s with evaluationOrder := v },
     .defaulted "timeout_ms" (Decode.natural "u64" 64) fun v s => { s with timeoutMs := v }]

def settingsFormat : RecordFormat Settings where
  name := "Settings"
  draft := {}
  fields :=
    [.defaulted "app" appFormat.read fun v s => { s with app := v },
     .defaulted "engine" engineFormat.read fun v s => { s with engine := v }]

def Settings.ofJson (json : Json) : Except DocumentFault Settings :=
  Decode.ofJson settingsFormat.read json

/-! ### Settings from several sources -/

/-- Gathered settings. -/
inductive SettingTree
  | text (s : String) (origin : String)
  | integer (n : Int) (origin : String)
  | table (members : List (String × SettingTree))
deriving Inhabited

inductive SettingFault
  /-- A setting is no natural number. -/
  | notNatural (found key : String) (origin : Option String)
  /-- A setting is no text. -/
  | notText (found key : String)
  /-- A section is no table. -/
  | notTable (found section_ expected : String)
deriving DecidableEq, Repr

def SettingFault.message : SettingFault → String
  | .notNatural found key origin =>
    let place := match origin with
      | some origin => " in " ++ origin
      | none => ""
    s!"invalid type: {found}, expected an unsigned 64 bit or less integer for key `{key}`" ++ place
  | .notText found key => s!"invalid type: {found}, expected a string for key `{key}`"
  | .notTable found section_ expected =>
    s!"invalid type: {found}, expected struct {expected} for key `{section_}`"

namespace SettingTree

def members : SettingTree → Entries SettingTree
  | .table members => members
  | .text .. | .integer .. => []

/-- Put a setting at a path; what is in the way makes room. -/
def put (old : SettingTree) (path : List String) (value : SettingTree) : SettingTree :=
  match path with
  | [] => value
  | key :: path =>
    let inner := (Entries.find? key old.members).getD (.table [])
    .table (Entries.insert key (inner.put path value) old.members)

def get? (key : String) (t : SettingTree) : Option SettingTree := Entries.find? key t.members

/-- A text of digits, perhaps behind a plus sign, for a number of 64 bits. -/
def readNatural? (s : String) : Option Nat :=
  let digits := match s.toList with
    | '+' :: rest => rest
    | s => s
  if !digits.isEmpty && digits.all Char.isDigit then
    let n := Number.digitsValue digits
    if n < Nat.pow 2 64 then some n else none
  else none

/-- The number that a text stands for; words of assent and denial are one and zero. -/
def naturalOfText? (s : String) : Option Nat :=
  let word := Text.lower s
  if ["true", "on", "yes"].contains word then some 1
  else if ["false", "off", "no"].contains word then some 0
  else readNatural? s

def natural (key : String) : SettingTree → Except SettingFault Nat
  | .text s origin =>
    match naturalOfText? s with
    | some n => .ok n
    | none => .error (.notNatural ("string " ++ Text.quoted s) key (some origin))
  | .integer n origin =>
    if 0 ≤ n then .ok n.toNat
    else .error (.notNatural ("64-bit integer `" ++ Number.intText n ++ "`") key (some origin))
  | .table _ => .error (.notNatural "map" key none)

def asText (key : String) : SettingTree → Except SettingFault String
  | .text s _ => .ok s
  | .integer n _ => .ok (Number.intText n)
  | .table _ => .error (.notText "map" key)

/-- A setting in a section, or its default. -/
def inSection {α : Type} (tree : SettingTree) (section_ key : String)
    (read : String → SettingTree → Except SettingFault α) (default_ : α) :
    Except SettingFault α :=
  match (tree.get? section_).bind (get? key) with
  | some setting => read (section_ ++ "." ++ key) setting
  | none => .ok default_

def requireTable (tree : SettingTree) (section_ expected : String) : Except SettingFault Unit :=
  match tree.get? section_ with
  | some (.text s _) => .error (.notTable ("string " ++ Text.quoted s) section_ expected)
  | some (.integer n _) =>
    .error (.notTable ("integer `" ++ Number.intText n ++ "`") section_ expected)
  | some (.table _) | none => .ok ()

end SettingTree

def Settings.ofTree (tree : SettingTree) : Except SettingFault Settings := do
  let base : Settings := {}
  tree.requireTable "app" appFormat.name
  tree.requireTable "engine" engineFormat.name
  return {
    app := { level := ← tree.inSection "app" "level" SettingTree.asText base.app.level }
    engine := {
      maxFormulaLength := ← tree.inSection "engine" "max_formula_length" SettingTree.natural
        base.engine.maxFormulaLength
      maxDepth := ← tree.inSection "engine" "max_depth" SettingTree.natural base.engine.maxDepth
      evaluationOrder := ← tree.inSection "engine" "evaluation_order" SettingTree.asText
        base.engine.evaluationOrder
      timeoutMs := ← tree.inSection "engine" "timeout_ms" SettingTree.natural
        base.engine.timeoutMs } }

/-! ### Settings from variables -/

/-- What the names of variables begin with, in lower case. -/
def variableStart : List Char := "cubica__".toList

/-- The path that the rest of a name is. -/
def pathOfName : List Char → List (List Char)
  | [] => [[]]
  | '_' :: '_' :: s => [] :: pathOfName s
  | '.' :: s => [] :: pathOfName s
  | c :: s =>
    match pathOfName s with
    | first :: rest => (c :: first) :: rest
    | [] => [[c]]

/-- The path of a variable, if it is a setting. -/
def settingPath? (name : String) : Option (List String) :=
  let name := (Text.lower name).toList
  if variableStart.isPrefixOf name then
    some ((pathOfName (name.drop variableStart.length)).map String.ofList)
  else none

/-- Put the settings among some variables over those that were gathered before. -/
def SettingTree.putVariables (environment : List (String × String)) (tree : SettingTree) :
    SettingTree :=
  environment.foldl
    (fun tree (name, value) =>
      match settingPath? name with
      | some path => tree.put path (.text value "the environment")
      | none => tree)
    tree

/-- The variables that are settings, and the one that names the settings file. -/
def knownVariables : List String :=
  ["CUBICA_SETTINGS", "CUBICA__APP__LEVEL", "CUBICA__ENGINE__MAX_FORMULA_LENGTH",
   "CUBICA__ENGINE__MAX_DEPTH", "CUBICA__ENGINE__EVALUATION_ORDER",
   "CUBICA__ENGINE__TIMEOUT_MS"]

end Formulary
