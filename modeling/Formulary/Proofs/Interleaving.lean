import Mathlib.Data.List.Induction
import Formulary.Service

/-!
# Calls in flight

A call of the service asks the store three times: for the template, to keep the result, and to count
the use. Between two of its requests other calls and edits may change the store, while the call goes
on with the snapshot that it has looked up. When the run of that snapshot crashes, the call ends and asks
for nothing more. A system is a store with the calls on it. It moves by one request of one call at a
time, by a call that ends in a crash, by a new call, or by an edit.

## Main definitions

* `Progress`, `Call` : how far a call has come;
* `Yields` : the outcomes that a call can have for a snapshot;
* `Call.Step` : one request of a call, or the crash of its run;
* `System`, `Event`, `Step` : the moves of calls on one store;
* `Path` : any interleaving of such moves.

## Main statements

* `Path.append_iff`, `Path.concat_induction` : paths are cut anywhere and grow at their end;
* `exists_path_execute` : a call that is not interrupted does what `Service.execute` does.
-/
namespace Formulary

namespace Service

/-- How far a call has come. -/
inductive Progress
  /-- The template is not looked up yet. -/
  | waiting
  /-- The call works with a snapshot. -/
  | holding (t : Template)
  /-- The result is kept, and its use not counted yet. -/
  | logged (r : ResultRecord)
  /-- The caller has an answer. -/
  | ended (answer : Except ServiceError ResultRecord)

structure Call where
  id : Uuid
  values : Values
  progress : Progress := .waiting

/-- The outcomes for a snapshot: the one of its run, or, when runs have a budget, the one of a run
that was given up after some record. -/
inductive Yields (engine : Engine) (budget : Option Nat) (t : Template) (values : Values) :
    Outcome → Prop
  | inTime {o : Outcome} : Formulary.execute engine t values = .ok o →
      Yields engine budget t values o
  | givenUp {milliseconds : Nat} (r : Record) : budget = some milliseconds →
      Yields engine budget t values (.timedOut (r.stage t) milliseconds)

/-- A call makes its next request, or none any more as its run crashes; that changes how far it has
come, and the store. -/
inductive Call.Step (engine : Engine) (budget : Option Nat) (c : Call) (s : Store) :
    Option Request → Progress → Store → Prop
  | found {t : Template} : c.progress = .waiting → findActive [] s c.id = .ok t →
      Call.Step engine budget c s (some .find) (.holding t) s
  | refused {e : ServiceError} : c.progress = .waiting → findActive [] s c.id = .error e →
      Call.Step engine budget c s (some .find) (.ended (.error e)) s
  | crashed {t : Template} {crash : Crash} : c.progress = .holding t →
      Formulary.execute engine t c.values = .error crash →
      Call.Step engine budget c s none (.ended (.error (.taskFailed crash))) s
  | kept {t : Template} {o : Outcome} {s' : Store} : c.progress = .holding t →
      Yields engine budget t c.values o →
      create [] s ⟨c.id, t.version, c.values, o⟩ = .ok s' →
      Call.Step engine budget c s (some .create) (.logged ⟨c.id, t.version, c.values, o⟩) s'
  | counted {r : ResultRecord} {s' : Store} : c.progress = .logged r →
      increment [] s c.id = .ok s' →
      Call.Step engine budget c s (some .increment) (.ended (.ok r)) s'
  | uncounted {r : ResultRecord} {e : ServiceError} : c.progress = .logged r →
      increment [] s c.id = .error e →
      Call.Step engine budget c s (some .increment) (.ended (.error e)) s

/-- A store, and the calls on it in the order in which they came. -/
structure System where
  store : Store := {}
  calls : List Call := []

/-- Every call has its answer. -/
def System.Idle (s : System) : Prop := ∀ c ∈ s.calls, ∃ answer, c.progress = .ended answer

/-- What happens in a system. -/
inductive Event
  /-- A snapshot becomes the current one of its template. -/
  | insert (t : Template)
  /-- A call of a template comes in. -/
  | start (id : Uuid) (values : Values)
  /-- A call of a template makes a request. -/
  | request (call : Nat) (id : Uuid) (request : Request)
  /-- A call of a template ends, as its run crashes. -/
  | crash (call : Nat) (id : Uuid)

inductive Step (engine : Engine) (budget : Option Nat) : System → Event → System → Prop
  | insert (s : System) (t : Template) :
      Step engine budget s (.insert t) { s with store := s.store.insert t }
  | start (s : System) (id : Uuid) (values : Values) :
      Step engine budget s (.start id values) { s with calls := s.calls ++ [⟨id, values, .waiting⟩] }
  | request {s : System} {call : Nat} {c : Call} {request : Request} {p : Progress}
      {store : Store} : s.calls[call]? = some c →
      Call.Step engine budget c s.store (some request) p store →
      Step engine budget s (.request call c.id request)
        ⟨store, s.calls.set call { c with progress := p }⟩
  | crash {s : System} {call : Nat} {c : Call} {p : Progress} {store : Store} :
      s.calls[call]? = some c → Call.Step engine budget c s.store none p store →
      Step engine budget s (.crash call c.id) ⟨store, s.calls.set call { c with progress := p }⟩

/-- Some events lead from one system to another. -/
inductive Path (engine : Engine) (budget : Option Nat) : System → List Event → System → Prop
  | nil (s : System) : Path engine budget s [] s
  | cons {s m s' : System} {e : Event} {events : List Event} : Step engine budget s e m →
      Path engine budget m events s' → Path engine budget s (e :: events) s'

variable {engine : Engine} {budget : Option Nat} {s m s' : System} {events events' : List Event}
  {e : Event}

namespace Path

theorem append (h : Path engine budget s events m) (h' : Path engine budget m events' s') :
    Path engine budget s (events ++ events') s' := by
  induction h with
  | nil _ => exact h'
  | cons hstep _ ih => exact .cons hstep (ih h')

/-- A path passes a system between any two of its events. -/
theorem append_iff : Path engine budget s (events ++ events') s' ↔
    ∃ m, Path engine budget s events m ∧ Path engine budget m events' s' := by
  constructor
  · intro h
    induction events generalizing s with
    | nil => exact ⟨s, .nil s, h⟩
    | cons e rest ih =>
      cases h with
      | cons hstep hrest =>
        obtain ⟨m, hbefore, hafter⟩ := ih hrest
        exact ⟨m, .cons hstep hbefore, hafter⟩
  · rintro ⟨m, h, h'⟩
    exact h.append h'

/-- The last event of a path is one step. -/
theorem concat_iff : Path engine budget s (events ++ [e]) s' ↔
    ∃ m, Path engine budget s events m ∧ Step engine budget m e s' := by
  rw [append_iff]
  refine exists_congr fun m => and_congr_right fun _ => ⟨fun h => ?_, fun h => .cons h (.nil s')⟩
  cases h with
  | cons hstep hnil =>
    cases hnil
    exact hstep

/-- What holds at the beginning, and stays with one more event, holds after every path. -/
theorem concat_induction {motive : List Event → System → Prop} (nil : motive [] s)
    (concat : ∀ {events m e s'}, Path engine budget s events m → motive events m →
      Step engine budget m e s' → motive (events ++ [e]) s')
    (h : Path engine budget s events s') : motive events s' := by
  induction events using List.reverseRecOn generalizing s' with
  | nil =>
    cases h
    exact nil
  | append_singleton events e ih =>
    obtain ⟨m, hpath, hstep⟩ := concat_iff.1 h
    exact concat hpath (ih hpath) hstep

end Path

/-- A call that is alone makes a request. -/
theorem Path.request_alone {c : Call} {store store' : Store} {request : Request} {p : Progress}
    (h : c.Step engine budget store (some request) p store')
    (hrest : Path engine budget ⟨store', [{ c with progress := p }]⟩ events s') :
    Path engine budget ⟨store, [c]⟩ (.request 0 c.id request :: events) s' :=
  .cons (.request rfl h) hrest

/-- A call that is alone crashes, and that is the end of it. -/
theorem Path.crash_alone {c : Call} {store store' : Store} {p : Progress}
    (h : c.Step engine budget store none p store') :
    Path engine budget ⟨store, [c]⟩ [.crash 0 c.id] ⟨store', [{ c with progress := p }]⟩ :=
  .cons (.crash rfl h) (.nil _)

/-- A call on its own, from its first request to its answer, does to the store what
`Service.execute` does, and has the same answer. -/
theorem exists_path_execute (engine : Engine) (budget : Option Nat) (pace : Pace) (s : Store)
    (id : Uuid) (values : Values)
    (hpace : ∀ b last, pace = .stalled b last → budget = some b) :
    ∃ events, Path engine budget ⟨s, [⟨id, values, .waiting⟩]⟩ events
      ⟨(execute engine [] pace s id values).2,
        [⟨id, values, .ended (execute engine [] pace s id values).1⟩]⟩ := by
  unfold execute
  cases hfind : findActive [] s id with
  | error e => exact ⟨_, .request_alone (.refused rfl hfind) (.nil _)⟩
  | ok t =>
    cases hending : ending engine pace t values with
    | error crash =>
      have hexecute : Formulary.execute engine t values = .error crash := by
        cases pace with
        | inTime => exact hending
        | stalled => cases hending
      simp only [hending]
      exact ⟨_, .request_alone (.found rfl hfind) <| .crash_alone (.crashed rfl hexecute)⟩
    | ok o =>
      have hyields : Yields engine budget t values o := by
        cases pace with
        | inTime => exact .inTime hending
        | stalled b last =>
          cases hending
          exact .givenUp last (hpace b last rfl)
      let r : ResultRecord := ⟨id, t.version, values, o⟩
      have hcreate : create [] s r = .ok (s.append r) := rfl
      simp only [hending, hcreate, r]
      cases hincrement : increment [] (s.append r) id with
      | error e =>
        exact ⟨_, .request_alone (.found rfl hfind) <| .request_alone (.kept rfl hyields hcreate) <|
          .request_alone (.uncounted rfl hincrement) (.nil _)⟩
      | ok s' =>
        exact ⟨_, .request_alone (.found rfl hfind) <| .request_alone (.kept rfl hyields hcreate) <|
          .request_alone (.counted rfl hincrement) (.nil _)⟩

end Service

end Formulary
