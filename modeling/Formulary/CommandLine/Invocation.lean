import Formulary.Json.Reader
import Formulary.Text.Basic

/-!
# Invocations

What the arguments of the program ask for. A single input is a name, an equals sign and a value, which
is read as JSON if it can be and stands for itself if not.

## Main definitions

* `Assignment.parse` : the single input of a text;
* `Command`, `Invocation` : what is asked for;
* `UsageFault` : why the arguments ask for nothing;
* `Invocation.parse` : the invocation of some arguments.
-/
namespace Formulary

/-! ### Assignments -/

structure Assignment where
  name : String
  value : Json

inductive AssignmentFault
  | noValue (text : String)
  | noName (text : String)
deriving DecidableEq, Repr

def AssignmentFault.message : AssignmentFault → String
  | .noValue text => s!"expected name=value, got '{text}'"
  | .noName text => s!"missing name in '{text}'"

/-- The characters before the first equals sign and after it. -/
def splitAssignment? : List Char → Option (List Char × List Char)
  | [] => none
  | c :: rest =>
    if c = '=' then some ([], rest)
    else (splitAssignment? rest).map fun (name, value) => (c :: name, value)

def Assignment.parse (text : String) : Except AssignmentFault Assignment :=
  match splitAssignment? text.toList with
  | none => .error (.noValue text)
  | some (name, value) =>
    let name := Text.trimChars name
    if name.isEmpty then .error (.noName text)
    else
      let value := String.ofList value
      .ok ⟨String.ofList name,
        match Json.parse value with
        | .ok json => json
        | .error _ => .text value⟩

/-! ### Invocations -/

inductive ValueOption
  | config | template | values | set
deriving DecidableEq, Repr

namespace ValueOption

def name : ValueOption → String
  | .config => "--config"
  | .template => "--template"
  | .values => "--values"
  | .set => "--set"

def usage (o : ValueOption) : String :=
  let value := match o with
    | .config => "<CONFIG>"
    | .template => "<TEMPLATE>"
    | .values => "<VALUES>"
    | .set => "<ASSIGNMENTS>"
  o.name ++ " " ++ value

def takesPath : ValueOption → Bool
  | .template | .values => true
  | .config | .set => false

end ValueOption

inductive Action
  | run | preview | check
deriving DecidableEq, Repr

namespace Action

def name : Action → String
  | .run => "run"
  | .preview => "preview"
  | .check => "check"

def all : List Action := [.run, .preview, .check]

def options : Action → List ValueOption
  | .run => [.template, .values, .set]
  | .preview => [.template, .values]
  | .check => [.template]

end Action

/-- What is asked for: an action on a template, with values from a file and single ones. -/
structure Command where
  action : Action
  template : String
  values : Option String := none
  assignments : List Assignment := []

structure Invocation where
  config : Option String
  command : Command

/-- Why the arguments ask for nothing. -/
inductive UsageFault
  /-- Help was asked for. -/
  | help
  /-- There are no arguments. -/
  | noArguments
  | noCommand
  | unknownCommand (name : String)
  | unexpected (argument : String)
  | noValue (option : ValueOption)
  | repeated (option : ValueOption)
  | noTemplate
  | invalidAssignment (text : String) (fault : AssignmentFault)
deriving DecidableEq

namespace UsageFault

/-- The text of a fault, unless help is shown instead. -/
def message? : UsageFault → Option String
  | .help | .noArguments => none
  | .noCommand => some "'cubica' requires a subcommand but one was not provided"
  | .unknownCommand name => some s!"unrecognized subcommand '{name}'"
  | .unexpected argument => some s!"unexpected argument '{argument}' found"
  | .noValue option => some s!"a value is required for '{option.usage}' but none was supplied"
  | .repeated option => some s!"the argument '{option.usage}' cannot be used multiple times"
  | .noTemplate => some "the following required arguments were not provided:"
  | .invalidAssignment text fault =>
    some s!"invalid value '{text}' for '{ValueOption.usage .set}': {fault.message}"

def exitCode : UsageFault → Nat
  | .help => 0
  | _ => 2

end UsageFault

/-- Whether an argument is an option and no value. -/
def isOption (argument : String) : Bool :=
  match argument.toList with
  | '-' :: _ :: _ => true
  | _ => false

def splitOption (argument : String) : String × Option String :=
  match splitAssignment? argument.toList with
  | some (name, value) => (String.ofList name, some (String.ofList value))
  | none => (argument, none)

def reportedName (argument : String) : String :=
  match argument.toList with
  | '-' :: '-' :: _ => (splitOption argument).1
  | '-' :: c :: _ => String.ofList ['-', c]
  | _ => argument

def asksForHelp (argument : String) : Bool :=
  (splitOption argument).1 == "--help" || reportedName argument == "-h"

abbrev GivenOptions := List (ValueOption × String)

/-- The values of options from the front of the arguments, up to the first argument that is
neither an option nor the value of one. -/
def readOptions (known : List ValueOption) : (given : GivenOptions) → List String →
    Except UsageFault (GivenOptions × List String)
  | given, [] => .ok (given, [])
  | given, argument :: rest =>
    if !isOption argument then .ok (given, argument :: rest)
    else if asksForHelp argument then .error .help
    else
      let (name, attached) := splitOption argument
      match known.find? fun o => o.name == name with
      | none => .error (.unexpected (reportedName argument))
      | some option =>
        if option != .set && (given.lookup option).isSome then .error (.repeated option)
        else
          match attached with
          | some value =>
            if option.takesPath && value.isEmpty then .error (.noValue option)
            else readOptions known (given ++ [(option, value)]) rest
          | none =>
            match rest with
            | [] => .error (.noValue option)
            | value :: rest =>
              if isOption value || (option.takesPath && value.isEmpty) then
                .error (.noValue option)
              else readOptions known (given ++ [(option, value)]) rest

def readAssignments : GivenOptions → Except UsageFault (List Assignment)
  | [] => .ok []
  | (.set, text) :: rest =>
    match Assignment.parse text with
    | .error fault => .error (.invalidAssignment text fault)
    | .ok a => (readAssignments rest).map (a :: ·)
  | _ :: rest => readAssignments rest

def readCommand (action : Action) (arguments : List String) : Except UsageFault Command := do
  let (given, rest) ← readOptions action.options [] arguments
  let assignments ← readAssignments given
  match rest with
  | argument :: _ => throw (.unexpected argument)
  | [] =>
    match given.lookup .template with
    | none => throw .noTemplate
    | some template => return ⟨action, template, given.lookup .values, assignments⟩

def Invocation.parse (arguments : List String) : Except UsageFault Invocation := do
  if arguments.isEmpty then throw .noArguments
  let (given, rest) ← readOptions [.config] [] arguments
  match rest with
  | [] => throw .noCommand
  | name :: rest =>
    match Action.all.find? fun a => a.name == name with
    | some action => return ⟨given.lookup .config, ← readCommand action rest⟩
    | none =>
      if name != "help" then throw (.unknownCommand name)
      else
        match rest with
        | topic :: _ =>
          if Action.all.any (fun a => a.name == topic) || topic == "help" then throw .help
          else throw (.unknownCommand topic)
        | [] => throw .help

end Formulary
