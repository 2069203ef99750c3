import Formulary.Validation
import Formulary.Formula.Eval
import Formulary.Template

/-!
# Calculations

A run of a template validates the inputs, derives the internals, evaluates the primary formula
and derives the outputs. It stops at the first stage that fails; what was computed before stays
in the results, and is reported with the failure. A run that crashes, because the evaluation of a
formula does not return, is gone: there is no outcome to report, and no record of its end.

The time that a run takes, and what is logged of it, are not modelled.

## Main definitions

* `Stage`, `Cause`, `Failure`, `Crash` : where and why a run stopped;
* `Record` : the stage that a run is in, as it is seen from outside;
* `Run` : how far a run has come;
* `calculate` : the run of a template to its end;
* `Outcome` : what is reported of a run;
* `Ending` : the outcome, or the crash in its place.
-/
namespace Formulary

inductive Stage
  | validation
  | internal (name : String)
  | main
  | output (name : String)
deriving DecidableEq, Repr

def Stage.text : Stage → String
  | .validation => "validation"
  | .internal name => "internal:" ++ name
  | .main => "main"
  | .output name => "output:" ++ name

inductive Cause
  | problems (found : List Problem)
  | cycle (c : Cycle)
  | formula (error : FormulaError)
  | timeout

def Cause.message : Cause → String
  | .problems found => joinProblems found
  | .cycle c => c.message
  | .formula error => error.message
  | .timeout => "timeout"

structure Failure where
  stage : Stage
  cause : Cause

namespace Failure

def message (f : Failure) : String := f.cause.message

def text (f : Failure) : String := f.stage.text ++ ": " ++ f.message

end Failure

/-- A stage in which a run crashed. Nothing that the run has computed is left. -/
structure Crash where
  stage : Stage
deriving DecidableEq, Repr

/-- Why a run goes no further. -/
inductive Stop
  | failed (failure : Failure)
  | crashed (crash : Crash)

/-- What becomes of a run in a stage whose formula has no value. -/
def Stop.ofError (stage : Stage) : FormulaError → Stop
  -- Nobody catches this one: the evaluation never comes back to the run.
  | .unorderedBounds => .crashed ⟨stage⟩
  | error => .failed ⟨stage, .formula error⟩

inductive StageKind
  | validation | internal | main | output | done
deriving DecidableEq, Repr, Inhabited

namespace StageKind

def name : StageKind → String
  | .validation => "validation"
  | .internal => "internal"
  | .main => "main"
  | .output => "output"
  | .done => "done"

def all : List StageKind := [.validation, .internal, .main, .output, .done]

end StageKind

/-- What a run leaves for those who watch it when it enters a stage: the kind of the stage, and
the place of the parameter that is derived. -/
structure Record where
  kind : StageKind := .validation
  place : Nat := 0
deriving DecidableEq, Repr, Inhabited

/-- The stage that a record stands for. A run that has ended counts as one in its main stage. -/
def Record.stage (r : Record) (t : Template) : Stage :=
  let name := (t.parameters[r.place]?.map Parameter.name).getD ""
  match r.kind with
  | .validation => .validation
  | .internal => .internal name
  | .output => .output name
  | .main | .done => .main

/-- How far a run has come. -/
structure Run where
  /-- The values of inputs and internals. -/
  context : Values := {}
  results : Values := {}
  stop : Option Stop := none
  /-- The records in the order in which they were left. -/
  trace : List Record := []
deriving Inhabited

namespace Run

def failure (r : Run) : Option Failure :=
  match r.stop with
  | some (.failed f) => some f
  | _ => none

/-- Go on, unless the run has stopped. -/
def andThen (r : Run) (next : Run → Run) : Run :=
  if r.stop.isSome then r else next r

def record (r : Run) (kind : StageKind) (place : Nat) : Run :=
  { r with trace := r.trace ++ [⟨kind, place⟩] }

def fail (r : Run) (stage : Stage) (cause : Cause) : Run :=
  { r with stop := some (.failed ⟨stage, cause⟩) }

/-- Stop in a stage whose formula has no value. -/
def halt (r : Run) (stage : Stage) (error : FormulaError) : Run :=
  { r with stop := some (.ofError stage error) }

end Run

def evaluate (limits : Limits) (source : String) (scope : Scope) : Except FormulaError Value := do
  let e ← Formula.parse limits source
  e.eval scope

inductive DerivedRole
  | internal | output
deriving DecidableEq, Repr

namespace DerivedRole

def role : DerivedRole → Role
  | .internal => .internal
  | .output => .output

def kind : DerivedRole → StageKind
  | .internal => .internal
  | .output => .output

def stage : DerivedRole → String → Stage
  | .internal => .internal
  | .output => .output

/-- What their formulas see: internals the context, outputs also the results so far, which hide
the context. -/
def scope : DerivedRole → Run → Scope
  | .internal, r => [r.context]
  | .output, r => [r.results, r.context]

def keep (role : DerivedRole) (name : String) (v : Value) (r : Run) : Run :=
  match role with
  | .internal => { r with context := r.context.insert name v }
  | .output => { r with results := r.results.insert name v }

end DerivedRole

namespace Run

def validateInputs (t : Template) (supplied : Values) (r : Run) : Run :=
  let r := r.record .validation 0
  match validate t.parameters supplied with
  | [] => { r with context := bindInputs t.parameters supplied }
  | problems => r.fail .validation (.problems problems)

def deriveOne (limits : Limits) (role : DerivedRole) (m : Placed) (r : Run) : Run :=
  let r := r.record role.kind m.place
  match evaluate limits (m.parameter.formulaSource?.getD "") (role.scope r) with
  | .ok v => role.keep m.name v r
  | .error e => r.halt (role.stage m.name) e

def deriveEach (limits : Limits) (role : DerivedRole) : List Placed → Run → Run
  | [], r => r
  | m :: rest, r => (r.deriveOne limits role m).andThen (deriveEach limits role rest)

def derive (engine : Engine) (t : Template) (role : DerivedRole) (r : Run) : Run :=
  match sequence engine.limits engine.order (t.derivedBy role.role) with
  | .ok members => r.deriveEach engine.limits role members
  | .error c => r.fail (role.stage c.head) (.cycle c)

/-- Evaluate the primary formula. The fields of an object become results, any other value
becomes the result called `primaryName`. -/
def evaluatePrimary (limits : Limits) (t : Template) (r : Run) : Run :=
  let r := r.record .main 0
  match evaluate limits t.formula [r.context] with
  | .ok (.object fields) => { r with results := r.results.insertAll fields }
  | .ok v => { r with results := r.results.insert primaryName v }
  | .error e => r.halt .main e

end Run

/-- The records at the end of a run that has stopped, or has not: only a crash leaves none. -/
def closingRecords : Option Stop → List Record
  | some (.crashed _) => []
  | _ => [⟨.done, 0⟩]

def Run.close (r : Run) : Run := { r with trace := r.trace ++ closingRecords r.stop }

def calculate (engine : Engine) (t : Template) (supplied : Values) : Run :=
  let start : Run := {}
  (start.validateInputs t supplied)
    |>.andThen (Run.derive engine t .internal)
    |>.andThen (Run.evaluatePrimary engine.limits t)
    |>.andThen (Run.derive engine t .output)
    |>.close

/-- What is reported of a run. -/
structure Outcome where
  results : Values
  failure : Option Failure
  /-- The milliseconds that a run had which was given up. -/
  budget : Option Nat := none
deriving Inhabited

namespace Outcome

def wasSuccessful (o : Outcome) : Bool := o.failure.isNone

def errorMessage (o : Outcome) : Option String := o.failure.map Failure.text

def validationErrors (o : Outcome) : List String :=
  match o.failure with
  | some ⟨_, .problems problems⟩ => problems.map Problem.message
  | _ => []

/-- The outcome of a run that was given up in a stage, when its milliseconds were over. -/
def timedOut (stage : Stage) (budget : Nat) : Outcome where
  results := {}
  failure := some ⟨stage, .timeout⟩
  budget := some budget

end Outcome

/-- What is reported of a run that has not crashed. -/
def Run.outcome (r : Run) : Outcome where
  results := r.results
  failure := r.failure

/-- How a run ends: with an outcome, or with a crash and without one. -/
abbrev Ending := Except Crash Outcome

namespace Ending

def wasSuccessful : Ending → Bool
  | .ok o => o.wasSuccessful
  | .error _ => false

def results : Ending → Values
  | .ok o => o.results
  | .error _ => {}

def failure : Ending → Option Failure
  | .ok o => o.failure
  | .error _ => none

def errorMessage : Ending → Option String
  | .ok o => o.errorMessage
  | .error _ => none

end Ending

def Run.ending (r : Run) : Ending :=
  match r.stop with
  | some (.crashed crash) => .error crash
  | _ => .ok r.outcome

def execute (engine : Engine) (t : Template) (supplied : Values) : Ending :=
  (calculate engine t supplied).ending

end Formulary
