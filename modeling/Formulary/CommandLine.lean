import Formulary.Service
import Formulary.Template.Check
import Formulary.CommandLine.Invocation
import Formulary.Document
import Formulary.Settings.Toml
import Formulary.Settings

/-!
# The command line

The program reads settings, a template and values, and answers with a JSON document. All it needs
to know of the world is handed to it, so that its answer is a function of that. What is logged is not
modelled, and a run is taken to end within its budget.

## Main definitions

* `World` : what the program knows of the world;
* `Report` : what it answers;
* `runProgram` : its answer to some arguments.
-/
namespace Formulary.Answer

/-! ### Answers -/

def textOrNull (s : Option String) : Json := (s.map Json.text).getD .null

def texts (items : List String) : Json := .array (items.map .text)

def failure : Option Failure → Json
  | some f => .ofMembers [("stage", .text f.stage.text), ("message", .text f.message)]
  | none => .null

def run (t : Template) (o : Outcome) : Json :=
  .ofMembers [("template_id", .text t.id.text), ("results", o.results.toJson),
    ("was_successful", .bool o.wasSuccessful), ("error_message", textOrNull o.errorMessage),
    ("failure", failure o.failure), ("validation_errors", texts o.validationErrors)]

def preview (t : Template) (p : Preview) : Json :=
  .ofMembers [("template_id", .text t.id.text), ("sample_inputs", p.sampleInputs.toJson),
    ("results", p.results.toJson), ("was_successful", .bool p.wasSuccessful),
    ("error_message", textOrNull p.errorMessage), ("error", textOrNull p.error)]

def issue (i : Issue) : Json :=
  .ofMembers [("parameter", textOrNull i.parameter?), ("message", .text i.message)]

def check (t : Template) (issues : List Issue) : Json :=
  .ofMembers [("template_id", .text t.id.text), ("is_valid", .bool issues.isEmpty),
    ("issues", .array (issues.map issue))]

end Formulary.Answer

namespace Formulary

inductive FileFault
  | missing | directory | notText
deriving DecidableEq, Repr

def FileFault.message : FileFault → String
  | .missing => "No such file or directory (os error 2)"
  | .directory => "Is a directory (os error 21)"
  | .notText => "stream did not contain valid UTF-8"

/-- What the program knows of the world. -/
structure World where
  /-- The text of the file at a path. -/
  contents : String → Except FileFault String
  /-- The variables of the environment. -/
  environment : List (String × String)
  now : Calendar.Instant
  /-- The identifier of a template that has none. -/
  freshId : Uuid
  /-- The words of the runtime for a task that has crashed. -/
  describeCrash : Crash → String

inductive ProgramFault
  | setting (fault : SettingFault)
  | settingsFile (fault : TomlFault)
  | settingsMissing (path : String)
  | settingsFormat (path : String)
  | unknownName (fault : UnknownName)
  | unreadable (what path : String) (fault : FileFault)
  | notObject (path : String)
  | document (fault : DocumentFault)
  | service (error : ServiceError)

def ServiceError.describe (describeCrash : Crash → String) : ServiceError → String
  | .templateNotFound id => s!"TemplateNotFound({id.text})"
  | .templateInactive id => s!"TemplateInactive({id.text})"
  | .unreachable request => "Repository(" ++ Text.quoted (request.name ++ " is down") ++ ")"
  | .taskFailed crash => "Task(" ++ Text.quoted (describeCrash crash) ++ ")"

/-- A fault as it is shown when the program fails: settings are reported in plain words, all else
in quotes. -/
def ProgramFault.describe (describeCrash : Crash → String) : ProgramFault → String
  | .setting fault => fault.message
  | .settingsFile fault => fault.message
  | .settingsMissing path => s!"configuration file \"{path}\" not found"
  | .settingsFormat path =>
    s!"configuration file \"{path}\" is not of a registered file format"
  | .unknownName fault => fault.message
  | .unreadable what path fault => Text.quoted s!"cannot read {what} {path}: {fault.message}"
  | .notObject path => Text.quoted (path ++ " must contain a JSON object")
  | .document fault => "Error(" ++ Text.quoted fault.message ++ ")"
  | .service error => error.describe describeCrash

/-- What the program answers: its exit code, the document on its output, and what went wrong. -/
structure Report where
  exitCode : Nat
  output : Option Json := none
  error : Option String := none

def defaultSettingsPath : String := "settings"

def settingsEnding : String := ".toml"

/-- The settings file that a path means: the file itself, else with the usual ending. -/
def findSettings (w : World) (path : String) : Except ProgramFault (String × String) :=
  match w.contents path with
  | .ok text =>
    if path.endsWith settingsEnding then .ok (path, text) else .error (.settingsFormat path)
  | .error _ =>
    match w.contents (path ++ settingsEnding) with
    | .ok text => .ok (path ++ settingsEnding, text)
    | .error _ => .error (.settingsMissing path)

def readSettingsFile (w : World) (config : Option String) : Except ProgramFault SettingTree :=
  match findSettings w (config.getD defaultSettingsPath) with
  | .ok (origin, text) =>
    match SettingTree.ofToml origin text with
    | .ok tree => .ok tree
    | .error fault => .error (.settingsFile fault)
  | .error fault => if config.isSome then .error fault else .ok (.table [])

def readSettings (w : World) (config : Option String) : Except ProgramFault Settings := do
  let tree ← readSettingsFile w config
  match Settings.ofTree (tree.putVariables w.environment) with
  | .ok settings => return settings
  | .error fault => throw (.setting fault)

def readRequired (w : World) (what path : String) : Except ProgramFault String :=
  match w.contents path with
  | .ok text => .ok text
  | .error fault => .error (.unreadable what path fault)

def readTemplate (w : World) (path : String) : Except ProgramFault Template := do
  let text ← readRequired w "template" path
  match Template.ofText w.freshId text with
  | .ok t => return t
  | .error fault => throw (.document fault)

/-- The values of a file; none without a file. -/
def readValues (w : World) (path : Option String) : Except ProgramFault (NameMap Json) :=
  match path with
  | none => .ok {}
  | some path => do
    let text ← readRequired w "values" path
    match Json.parse text with
    | .error fault => throw (.document (.malformed fault))
    | .ok (.object members) => return .ofEntries members
    | .ok _ => throw (.notObject path)

/-- An answer, and the exit code that tells whether all went well. -/
def Report.ofAnswer (wentWell : Bool) (answer : Json) : Report :=
  ⟨if wentWell then 0 else 1, some answer, none⟩

/-- The runtime ends a program that crashes, and says so itself. -/
def Report.ofCrash : Report := ⟨101, none, none⟩

def perform (w : World) (engine : Engine) (c : Command) : Except ProgramFault Report := do
  let t ← readTemplate w c.template
  match c.action with
  | .run =>
    let values ← readValues w c.values
    let values := values.insertAll (c.assignments.map fun a => (a.name, a.value))
    let store := ({} : Store).insert t
    match (Service.execute engine [] .inTime store t.id (values.map Value.ofJson)).1 with
    | .ok r => return .ofAnswer r.outcome.wasSuccessful (Answer.run t r.outcome)
    | .error e => throw (.service e)
  | .preview =>
    let values ← readValues w c.values
    match preview engine w.now t (values.map Value.ofJson) with
    | .ok p => return .ofAnswer p.wasSuccessful (Answer.preview t p)
    | .error _ => return .ofCrash
  | .check =>
    let issues := t.check engine
    return .ofAnswer issues.isEmpty (Answer.check t issues)

def Invocation.perform (w : World) (i : Invocation) : Except ProgramFault Report := do
  let config := i.config.or (w.environment.lookup "CUBICA_SETTINGS")
  let settings ← readSettings w config
  match settings.engine.toEngine with
  | .error e => throw (.unknownName e)
  | .ok engine => Formulary.perform w engine i.command

def runProgram (w : World) (arguments : List String) : Report :=
  match Invocation.parse arguments with
  | .error fault => ⟨fault.exitCode, none, fault.message?.map ("error: " ++ ·)⟩
  | .ok i =>
    match i.perform w with
    | .ok report => report
    | .error fault => ⟨1, none, some ("Error: " ++ fault.describe w.describeCrash)⟩

def filesFor (environment : List (String × String)) (arguments : List String) : List String :=
  match Invocation.parse arguments with
  | .error _ => []
  | .ok i =>
    let config := (i.config.or (environment.lookup "CUBICA_SETTINGS")).getD defaultSettingsPath
    [config, config ++ settingsEnding, i.command.template] ++ i.command.values.toList

end Formulary
