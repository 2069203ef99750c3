import Formulary.Proofs.Interleaving

/-!
# Uses are counted once

However the requests of calls and the edits of templates follow each other, the current snapshot of
a template is the one that was inserted last, with one more use for each time that a call has counted
one since. A call counts its use after it has kept its result; so the results that are not counted yet
are those of the calls between the two requests.

## Main definitions

* `Event.inserts`, `Event.starts`, `Event.requests` : what an event is to a template;
* `Template.addUses` : a snapshot with more uses;
* `Call.isUncounted` : a call has kept its result and not counted its use;
* `Call.IsStored` : a call that works with a template has it in the store.

## Main statements

* `Path.template?_eq_addUses` : where a template is not edited, its snapshot changes by uses only;
* `Path.length_resultsOf` : one result is kept for each request to keep one;
* `Path.countP_isUncounted` : the kept results are the counted ones and those of the calls in flight;
* `Path.exists_increment_of_logged` : a result that is kept can always be counted;
* `Path.template?_eq_of_idle` : where no call is in flight, every result has been counted.
-/
namespace Formulary

/-- A snapshot with more uses. -/
def Template.addUses (n : Nat) (t : Template) : Template :=
  { t with usageCount := t.usageCount + n }

@[simp] theorem Template.addUses_zero : Template.addUses 0 = fun t => t := rfl

theorem Template.addUses_addUses (m n : Nat) (t : Template) :
    (t.addUses m).addUses n = t.addUses (m + n) := by
  simp [addUses, Nat.add_assoc]

namespace Service

namespace Event

def inserts (id : Uuid) : Event → Bool
  | .insert t => t.id == id
  | _ => false

def starts (id : Uuid) : Event → Bool
  | .start other _ => other == id
  | _ => false

/-- The event is such a request of a call of the template. -/
def requests (id : Uuid) (request : Request) : Event → Bool
  | .request _ other made => other == id && made == request
  | _ => false

/-- A template is never inserted, or there is a last time. -/
theorem exists_last_insert (id : Uuid) (events : List Event) :
    (∀ e ∈ events, e.inserts id = false) ∨
      ∃ before t after, events = before ++ .insert t :: after ∧ t.id = id ∧
        ∀ e ∈ after, e.inserts id = false := by
  induction events with
  | nil => exact .inl nofun
  | cons e rest ih =>
    rcases ih with hrest | ⟨before, t, after, rfl, hid, hafter⟩
    · cases he : e.inserts id with
      | false => exact .inl (List.forall_mem_cons.2 ⟨he, hrest⟩)
      | true =>
        cases e with
        | insert t => exact .inr ⟨[], t, rest, rfl, by simpa [inserts] using he, hrest⟩
        | start | request | crash => cases he
    · exact .inr ⟨e :: before, t, after, rfl, hid, hafter⟩

end Event

/-- The call has kept its result, and not counted its use yet. -/
def Call.isUncounted (id : Uuid) (c : Call) : Bool :=
  c.id == id && match c.progress with
    | .logged _ => true
    | _ => false

/-- The call has looked its template up, and has no answer yet. -/
def Call.isWorking (c : Call) : Bool :=
  match c.progress with
  | .holding _ | .logged _ => true
  | .waiting | .ended _ => false

/-- While the call works, its template is in the store. -/
def Call.IsStored (store : Store) (c : Call) : Prop :=
  c.isWorking → (store.template? c.id).isSome

variable {engine : Engine} {budget : Option Nat} {id : Uuid}

namespace Call.Step

variable {c : Call} {s s' : Store} {request : Option Request} {p : Progress}

/-- A request leaves all snapshots as they are, but for the use that it may count. -/
theorem template?_eq (h : c.Step engine budget s request p s') (id : Uuid) :
    s'.template? id = (s.template? id).map
      (Template.addUses (if c.id = id ∧ request = some .increment then 1 else 0)) := by
  cases h with
  | found | refused | crashed => simp
  | kept _ _ hcreate =>
    cases hcreate
    simp [Store.template?, Store.append]
  | counted _ hincrement =>
    rw [Store.template?_of_countUse? (increment_eq_ok hincrement)]
    by_cases hid : c.id = id
    · simp only [hid, and_self, if_true]
      rfl
    · simp [hid]
  | uncounted _ hincrement =>
    by_cases hid : c.id = id
    · rw [← hid, increment_eq_error hincrement, Option.map_none]
    · simp [hid]

/-- A call that keeps its result becomes uncounted, until it counts its use. -/
theorem isUncounted_add (h : c.Step engine budget s request p s') (id : Uuid) :
    (if ({ c with progress := p } : Call).isUncounted id then 1 else 0) +
        (if c.id = id ∧ request = some .increment then 1 else 0) =
      (if c.isUncounted id then 1 else 0) +
        if c.id = id ∧ request = some .create then 1 else 0 := by
  by_cases hid : c.id = id
  · cases h with
    | found hprogress | refused hprogress | crashed hprogress | kept hprogress | counted hprogress
    | uncounted hprogress => simp [isUncounted, hprogress, hid]
  · simp [isUncounted, hid]

end Call.Step

variable {s m s' : System} {e : Event} {events : List Event}

namespace Step

/-- An event that is no edit of a template changes its snapshot by a use at most. -/
theorem template?_eq (h : Step engine budget s e s') (he : e.inserts id = false) :
    s'.store.template? id = (s.store.template? id).map
      (Template.addUses (if e.requests id .increment then 1 else 0)) := by
  cases h with
  | insert t =>
    have hid : t.id ≠ id := by simpa [Event.inserts] using he
    simp [Event.requests, hid]
  | start => simp [Event.requests]
  | request _ hstep => simpa [Event.requests] using hstep.template?_eq id
  | crash _ hstep => simpa [Event.requests] using hstep.template?_eq id

/-- No template is ever removed. -/
theorem isSome_template? (h : Step engine budget s e s') (hs : (s.store.template? id).isSome) :
    (s'.store.template? id).isSome := by
  by_cases he : e.inserts id
  · cases h with
    | insert t =>
      have hid : t.id = id := by simpa [Event.inserts] using he
      simp [hid]
    | start | request | crash => cases he
  · rw [h.template?_eq (by simpa using he), Option.isSome_map]
    exact hs

/-- The template of a call stays stored from its look-up on. -/
theorem isStored (h : Step engine budget s e s') (hs : ∀ c ∈ s.calls, c.IsStored s.store) :
    ∀ c ∈ s'.calls, c.IsStored s'.store := by
  have hold : ∀ c ∈ s.calls, c.IsStored s'.store := fun c hc hworks =>
    h.isSome_template? (hs c hc hworks)
  cases h with
  | insert => exact hold
  | start id values =>
    intro c hc
    rcases List.mem_append.1 hc with hc | hc
    · exact hold c hc
    · obtain rfl := List.mem_singleton.1 hc
      intro hworks
      cases hworks
  | @request call c request p store hcall hstep =>
    intro c' hc'
    rcases List.mem_or_eq_of_mem_set hc' with hc' | rfl
    · exact hold c' hc'
    · intro hworks
      have hc : c ∈ s.calls := List.mem_of_getElem? hcall
      cases hstep with
      | found _ hfind =>
        obtain ⟨hstored, -⟩ := findActive_eq_ok_iff.1 hfind
        exact Option.isSome_iff_exists.2 ⟨_, hstored⟩
      | kept hprogress =>
        exact hold c hc (by simp [Call.isWorking, hprogress])
      | refused | counted | uncounted => cases hworks
  | crash hcall hstep =>
    intro c' hc'
    rcases List.mem_or_eq_of_mem_set hc' with hc' | rfl
    · exact hold c' hc'
    · intro hworks
      cases hstep
      cases hworks

/-- A result is kept by a call that holds a snapshot, and never changed. -/
theorem results_cases (h : Step engine budget s e s') :
    ((∀ id, e.requests id .create = false) ∧ s'.store.results = s.store.results) ∨
      ∃ call c t o, e = .request call c.id .create ∧ s.calls[call]? = some c ∧
        c.progress = .holding t ∧ Yields engine budget t c.values o ∧
        s'.store = s.store.append ⟨c.id, t.version, c.values, o⟩ := by
  cases h with
  | insert | start => exact .inl ⟨fun _ => rfl, rfl⟩
  | @request call c request p store hcall hstep =>
    cases hstep with
    | found | refused => exact .inl ⟨by simp [Event.requests], rfl⟩
    | kept hprogress hyields hcreate =>
      cases hcreate
      exact .inr ⟨call, c, _, _, rfl, hcall, hprogress, hyields, rfl⟩
    | counted _ hincrement =>
      exact .inl ⟨by simp [Event.requests], Store.results_of_countUse? (increment_eq_ok hincrement)⟩
    | uncounted => exact .inl ⟨by simp [Event.requests], rfl⟩
  | crash _ hstep =>
    cases hstep
    exact .inl ⟨fun _ => rfl, rfl⟩

theorem length_resultsOf (h : Step engine budget s e s') (id : Uuid) :
    (s'.store.resultsOf id).length =
      (s.store.resultsOf id).length + if e.requests id .create then 1 else 0 := by
  rcases h.results_cases with ⟨hcreate, hresults⟩ | ⟨call, c, t, o, rfl, -, -, -, hstore⟩
  · simp [hcreate id, Store.resultsOf, hresults]
  · rw [hstore, Store.length_resultsOf_append]
    simp [Event.requests]

/-- When a call comes further, the uncounted calls change by that one only. -/
theorem countP_isUncounted_set {calls : List Call} {call : Nat} {c : Call}
    (hcall : calls[call]? = some c) (c' : Call) (id : Uuid) :
    (calls.set call c').countP (Call.isUncounted id) + (if c.isUncounted id then 1 else 0) =
      calls.countP (Call.isUncounted id) + if c'.isUncounted id then 1 else 0 := by
  obtain ⟨hlt, rfl⟩ := List.getElem?_eq_some_iff.1 hcall
  have hle : (if calls[call].isUncounted id then 1 else 0) ≤
      calls.countP (Call.isUncounted id) := by
    split
    · exact List.countP_pos_iff.2 ⟨_, List.getElem_mem hlt, ‹_›⟩
    · exact Nat.zero_le _
  rw [List.countP_set hlt]
  omega

/-- A request to keep a result adds an uncounted call, a request to count it takes one away. -/
theorem countP_isUncounted (h : Step engine budget s e s') (id : Uuid) :
    s'.calls.countP (Call.isUncounted id) + (if e.requests id .increment then 1 else 0) =
      s.calls.countP (Call.isUncounted id) + if e.requests id .create then 1 else 0 := by
  cases h with
  | insert => simp [Event.requests]
  | start => simp [Event.requests, Call.isUncounted]
  | @request call c request p store hcall hstep =>
    have hone := hstep.isUncounted_add id
    have hset := countP_isUncounted_set hcall { c with progress := p } id
    simp only [Option.some.injEq] at hone
    simp only [Event.requests, Bool.and_eq_true, beq_iff_eq]
    omega
  | @crash call c p store hcall hstep =>
    have hone := hstep.isUncounted_add id
    have hset := countP_isUncounted_set hcall { c with progress := p } id
    simp only [reduceCtorEq, and_false, if_false] at hone
    simp only [Event.requests, Bool.false_eq_true, if_false]
    omega

/-- Without a call of a template there is none after an event that starts none, and the event is no
request of one. -/
theorem forall_ne (h : Step engine budget s e s') (hcalls : ∀ c ∈ s.calls, c.id ≠ id)
    (he : e.starts id = false) :
    (∀ c ∈ s'.calls, c.id ≠ id) ∧ ∀ request, e.requests id request = false := by
  cases h with
  | insert => exact ⟨hcalls, fun _ => rfl⟩
  | start other values =>
    have hother : other ≠ id := by simpa [Event.starts] using he
    refine ⟨fun c hc => ?_, fun _ => rfl⟩
    rcases List.mem_append.1 hc with hc | hc
    · exact hcalls c hc
    · obtain rfl := List.mem_singleton.1 hc
      exact hother
  | request hcall | crash hcall =>
    have hid := hcalls _ (List.mem_of_getElem? hcall)
    refine ⟨fun c hc => ?_, fun request => by simp [Event.requests, hid]⟩
    rcases List.mem_or_eq_of_mem_set hc with hc | rfl
    · exact hcalls c hc
    · exact hid

end Step

namespace Path

/-- While a template is not edited, its snapshot changes by uses only, one for each that is
counted. -/
theorem template?_eq_addUses (h : Path engine budget s events s')
    (hevents : ∀ e ∈ events, e.inserts id = false) :
    s'.store.template? id = (s.store.template? id).map
      (Template.addUses (events.countP (Event.requests id .increment))) := by
  induction h with
  | nil s => simp
  | cons hstep _ ih =>
    obtain ⟨he, hrest⟩ := List.forall_mem_cons.1 hevents
    rw [ih hrest, hstep.template?_eq he, Option.map_map, List.countP_cons, Nat.add_comm]
    exact congrArg (Option.map · _) (funext fun t => t.addUses_addUses _ _)

/-- The current snapshot is the one that was inserted last, with the uses that were counted since. -/
theorem template?_eq_of_insert {t : Template} {before after : List Event}
    (h : Path engine budget s (before ++ .insert t :: after) s')
    (hafter : ∀ e ∈ after, e.inserts t.id = false) :
    s'.store.template? t.id =
      some (t.addUses (after.countP (Event.requests t.id .increment))) := by
  obtain ⟨m, -, hrest⟩ := append_iff.1 h
  cases hrest with
  | cons hstep hpath =>
    cases hstep
    rw [hpath.template?_eq_addUses hafter, Store.template?_insert, if_pos rfl, Option.map_some]

/-- One result is kept for each request to keep one. -/
theorem length_resultsOf (h : Path engine budget s events s') (id : Uuid) :
    (s'.store.resultsOf id).length =
      (s.store.resultsOf id).length + events.countP (Event.requests id .create) := by
  induction h with
  | nil s => simp
  | cons hstep _ ih =>
    rw [ih, hstep.length_resultsOf, List.countP_cons]
    omega

/-- A result that is kept can always be counted: its template has been there since the call found
it. -/
theorem exists_increment_of_logged {c : Call} {r : ResultRecord}
    (h : Path engine budget {} events s) (hc : c ∈ s.calls) (hr : c.progress = .logged r) :
    ∃ store, increment [] s.store c.id = .ok store := by
  have hstored : ∀ c ∈ s.calls, c.IsStored s.store := by
    refine h.concat_induction (motive := fun _ s => ∀ c ∈ s.calls, c.IsStored s.store) ?_ ?_
    · intro c hc
      exact absurd hc List.not_mem_nil
    · intro events m e s' _ hm hstep
      exact hstep.isStored hm
  have hsome := hstored c hc (by simp [Call.isWorking, hr])
  cases hincrement : increment [] s.store c.id with
  | ok store => exact ⟨store, rfl⟩
  | error e => simp [increment_eq_error hincrement] at hsome

/-- What was kept has been counted, or belongs to a call that has still to count it. -/
theorem countP_isUncounted (h : Path engine budget s events s') (id : Uuid) :
    s'.calls.countP (Call.isUncounted id) + events.countP (Event.requests id .increment) =
      s.calls.countP (Call.isUncounted id) + events.countP (Event.requests id .create) := by
  induction h with
  | nil s => rfl
  | cons hstep _ ih =>
    have hone := hstep.countP_isUncounted id
    rw [List.countP_cons, List.countP_cons]
    omega

/-- As long as no call of a template comes in, nothing is requested for one. -/
theorem forall_ne (h : Path engine budget s events s') (hcalls : ∀ c ∈ s.calls, c.id ≠ id)
    (hevents : ∀ e ∈ events, e.starts id = false) :
    (∀ c ∈ s'.calls, c.id ≠ id) ∧ ∀ e ∈ events, ∀ request, e.requests id request = false := by
  induction h with
  | nil s => exact ⟨hcalls, nofun⟩
  | cons hstep _ ih =>
    obtain ⟨he, hrest⟩ := List.forall_mem_cons.1 hevents
    obtain ⟨hcalls', hrequest⟩ := hstep.forall_ne hcalls he
    obtain ⟨hlast, hrequests⟩ := ih hcalls' hrest
    exact ⟨hlast, List.forall_mem_cons.2 ⟨hrequest, hrequests⟩⟩

end Path

/-- An idle system has counted all uses. -/
theorem System.Idle.countP_isUncounted (h : s.Idle) (id : Uuid) :
    s.calls.countP (Call.isUncounted id) = 0 := by
  refine List.countP_eq_zero.2 fun c hc => ?_
  obtain ⟨answer, hanswer⟩ := h c hc
  simp [Call.isUncounted, hanswer]

/-- If a template is not edited from its first call on, and no call is in flight any more, then it
has been used as many times more as it has results. -/
theorem Path.template?_eq_of_idle {values : Values} {before after : List Event}
    (hbefore : Path engine budget {} before m)
    (h : Path engine budget m (.start id values :: after) s)
    (hfirst : ∀ e ∈ before, e.starts id = false) (hedits : ∀ e ∈ after, e.inserts id = false)
    (hidle : s.Idle) :
    s.store.template? id =
      (m.store.template? id).map (Template.addUses (s.store.resultsOf id).length) := by
  have hempty : ∀ c ∈ ({} : System).calls, c.id ≠ id := fun c hc => absurd hc List.not_mem_nil
  obtain ⟨hcalls, hrequests⟩ := hbefore.forall_ne hempty hfirst
  -- Nothing is kept for the template before its first call, and no call of it is in flight then.
  have hnone : (m.store.resultsOf id).length = 0 := by
    have hcreated : before.countP (Event.requests id .create) = 0 :=
      List.countP_eq_zero.2 fun e he => by simp [hrequests e he]
    rw [hbefore.length_resultsOf, hcreated]
    rfl
  have huncounted : m.calls.countP (Call.isUncounted id) = 0 :=
    List.countP_eq_zero.2 fun c hc => by simp [Call.isUncounted, hcalls c hc]
  have hbalance := h.countP_isUncounted id
  rw [hidle.countP_isUncounted, huncounted, Nat.zero_add, Nat.zero_add] at hbalance
  have hkept := h.length_resultsOf id
  rw [hnone, Nat.zero_add] at hkept
  rw [h.template?_eq_addUses (List.forall_mem_cons.2 ⟨rfl, hedits⟩), hbalance, hkept]

end Service

end Formulary
