import Formulary.Calculation

/-!
# Previews

A preview runs a template on inputs that are made up where the caller supplies none: the default,
or a sample that fits the definition of the input. The run takes place in the thread of the caller,
so there is nothing to report when it crashes.

## Main definitions

* `Parameter.sample` : a plausible value of an input;
* `synthesize` : supplied values with samples for the others;
* `preview` : the run of a template on them.
-/
namespace Formulary

open Calendar (Instant)

/-- There is no sample for an input, as no value is allowed. -/
structure NoSample where
  parameter : String
deriving DecidableEq, Repr

def NoSample.message (n : NoSample) : String :=
  s!"cannot synthesize a value for '{n.parameter}': enum without allowed values"

/-- A number between its bounds, or next to the one that is there. -/
def sampleNumber (low high : Option Float) : Float :=
  match low, high with
  | some low, some high => (low + high) / 2.0
  | some low, none => low + 1.0
  | none, some high => high - 1.0
  | none, none => 10.0

/-- A plausible value of an input; a date is the current time. -/
def Parameter.sample (now : Instant) (p : Parameter) : Except NoSample Value :=
  match p.dataType with
  | .number => .ok (.number (sampleNumber p.minValue p.maxValue))
  | .string => .ok (.text ("sample " ++ p.name))
  | .boolean => .ok (.bool true)
  | .date => .ok (.date now)
  | .enum =>
    match p.allowedValues with
    | v :: _ => .ok v
    | [] => .error ⟨p.name⟩
  | .array => .ok (.array [])
  | .object => .ok (.object [])

def fillIn (now : Instant) (p : Parameter) (values : Values) : Except NoSample Values :=
  match Parameter.suppliedFor p.name values with
  | some _ => .ok values
  | none =>
    match p.defaultValue? with
    | some v => .ok (values.insert p.name v)
    | none => do return values.insert p.name (← p.sample now)

/-- Supplied values, with a value for every input that has none. -/
def synthesize (now : Instant) (t : Template) (supplied : Values) : Except NoSample Values :=
  t.inputs.foldlM (fun values p => fillIn now p values) supplied

/-- What is reported of a preview. -/
structure Preview where
  sampleInputs : Values
  /-- The outcome of the run, unless the inputs could not be made up. -/
  outcome : Except NoSample Outcome

namespace Preview

def results (p : Preview) : Values :=
  match p.outcome with
  | .ok o => o.results
  | .error _ => {}

def wasSuccessful (p : Preview) : Bool :=
  match p.outcome with
  | .ok o => o.wasSuccessful
  | .error _ => false

def errorMessage (p : Preview) : Option String :=
  match p.outcome with
  | .ok o => o.errorMessage
  | .error _ => none

/-- Why there was no run. -/
def error (p : Preview) : Option String :=
  match p.outcome with
  | .ok _ => none
  | .error e => some e.message

end Preview

def preview (engine : Engine) (now : Instant) (t : Template) (supplied : Values) :
    Except Crash Preview :=
  match synthesize now t supplied with
  | .ok values => do return ⟨values, .ok (← execute engine t values)⟩
  | .error e => .ok ⟨supplied, .error e⟩

end Formulary
