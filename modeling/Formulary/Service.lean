import Formulary.Preview
import Formulary.Store

/-!
# The calculation service

To execute a template is to look it up, to run it within a budget of time, to keep the result and
to count the use. The store is asked three times, and each time it may be out of reach. The run is a
task of its own, so that a crash of it is an error of the call, which then keeps and counts nothing.

What is logged of a call is not modelled.

## Main definitions

* `Request` : what the store is asked for;
* `ServiceError` : why a call fails;
* `Outage` : the requests that fail;
* `Service.execute`, `Service.preview` : the two calls.
-/
namespace Formulary

/-- What the store is asked for. -/
inductive Request
  | find | increment | create
deriving DecidableEq, Repr

def Request.name : Request → String
  | .find => "find"
  | .increment => "increment"
  | .create => "create"

/-- Why a call fails. -/
inductive ServiceError
  | templateNotFound (id : Uuid)
  | templateInactive (id : Uuid)
  | unreachable (request : Request)
  | taskFailed (crash : Crash)
deriving DecidableEq, Repr

/-- The text of an error, with the words in which the runtime describes a crashed task. -/
def ServiceError.message (describe : Crash → String) : ServiceError → String
  | .templateNotFound id => s!"template \"{id.text}\" not found!"
  | .templateInactive id => s!"template \"{id.text}\" is not active"
  | .unreachable request => s!"repository error: {request.name} is down"
  | .taskFailed crash => s!"calculation task failed: {describe crash}"

/-- The requests that fail before they touch the store. -/
abbrev Outage := List Request

/-- How a run goes: to its end or its crash, or until its budget in milliseconds is over, when it has
left some record last. A run that has left none yet is in its first stage. -/
inductive Pace
  | inTime
  | stalled (budget : Nat) (last : Record := {})
deriving DecidableEq, Repr

namespace Service

/-- Ask the store, unless the request fails. -/
def ask {α : Type} (outage : Outage) (request : Request) (answer : Except ServiceError α) :
    Except ServiceError α :=
  if outage.contains request then .error (.unreachable request) else answer

def find (outage : Outage) (s : Store) (id : Uuid) : Except ServiceError (Option Template) :=
  ask outage .find (.ok (s.template? id))

def create (outage : Outage) (s : Store) (r : ResultRecord) : Except ServiceError Store :=
  ask outage .create (.ok (s.append r))

def increment (outage : Outage) (s : Store) (id : Uuid) : Except ServiceError Store :=
  ask outage .increment
    (match s.countUse? id with
    | some s => .ok s
    | none => .error (.templateNotFound id))

def findExisting (outage : Outage) (s : Store) (id : Uuid) : Except ServiceError Template := do
  match ← find outage s id with
  | some t => return t
  | none => throw (.templateNotFound id)

/-- Look up a template that has to be there and active. -/
def findActive (outage : Outage) (s : Store) (id : Uuid) : Except ServiceError Template := do
  let t ← findExisting outage s id
  if t.isActive then return t else throw (.templateInactive id)

/-- How a run at a pace ends. A run that is given up is in the stage of its last record. -/
def ending (engine : Engine) (pace : Pace) (t : Template) (values : Values) : Ending :=
  match pace with
  | .inTime => Formulary.execute engine t values
  | .stalled budget last => .ok (.timedOut (last.stage t) budget)

/-- Execute a template, and the store after that. Nothing is asked of the store after a crash. A
result that was kept stays when counting the use fails. -/
def execute (engine : Engine) (outage : Outage) (pace : Pace) (s : Store) (id : Uuid)
    (values : Values) : Except ServiceError ResultRecord × Store :=
  match findActive outage s id with
  | .error e => (.error e, s)
  | .ok t =>
    match ending engine pace t values with
    | .error crash => (.error (.taskFailed crash), s)
    | .ok outcome =>
      let record : ResultRecord := ⟨id, t.version, values, outcome⟩
      match create outage s record with
      | .error e => (.error e, s)
      | .ok s =>
        match increment outage s id with
        | .error e => (.error e, s)
        | .ok s => (.ok record, s)

/-- Preview a template. The run is no task of its own here: a crash of it is none of the errors. -/
def preview (engine : Engine) (now : Calendar.Instant) (outage : Outage) (s : Store)
    (id : Uuid) : Except ServiceError (Except Crash Preview) := do
  let t ← findExisting outage s id
  return Formulary.preview engine now t {}

variable {outage : Outage} {s s' : Store} {id : Uuid} {t : Template} {e : ServiceError}

theorem ask_of_not_mem {α : Type} {request : Request} (h : request ∉ outage)
    (answer : Except ServiceError α) : ask outage request answer = answer := by
  simp [ask, h]

theorem findExisting_eq (h : .find ∉ outage) (s : Store) (id : Uuid) :
    findExisting outage s id =
      match s.template? id with
      | some t => .ok t
      | none => .error (.templateNotFound id) := by
  simp only [findExisting, find, ask_of_not_mem h, bind, Except.bind]
  cases s.template? id <;> rfl

/-- A template that has to be active is the current snapshot, if that is active. -/
theorem findActive_eq (h : .find ∉ outage) (s : Store) (id : Uuid) :
    findActive outage s id =
      match s.template? id with
      | some t => if t.isActive then .ok t else .error (.templateInactive id)
      | none => .error (.templateNotFound id) := by
  simp only [findActive, findExisting_eq h, bind, Except.bind]
  cases s.template? id <;> rfl

/-- A template that is found is the current snapshot, and active. -/
theorem findActive_eq_ok_iff :
    findActive [] s id = .ok t ↔ s.template? id = some t ∧ t.isActive := by
  rw [findActive_eq List.not_mem_nil]
  cases s.template? id with
  | none => simp
  | some u =>
    simp only [Option.some.injEq]
    split
    · rename_i hactive
      exact ⟨fun h => ⟨Except.ok.inj h, Except.ok.inj h ▸ hactive⟩, fun h => congrArg _ h.1⟩
    · rename_i hactive
      exact ⟨nofun, fun h => absurd (h.1 ▸ h.2) hactive⟩

theorem increment_eq_ok (h : increment [] s id = .ok s') : s.countUse? id = some s' := by
  cases hs : s.countUse? id with
  | none => simp [increment, ask, hs] at h
  | some counted => simpa [increment, ask, hs] using h

/-- A use is not counted only where there is no template. -/
theorem increment_eq_error (h : increment [] s id = .error e) : s.template? id = none := by
  rw [← Store.countUse?_eq_none_iff]
  cases hs : s.countUse? id with
  | none => rfl
  | some counted => simp [increment, ask, hs] at h

end Service

end Formulary
