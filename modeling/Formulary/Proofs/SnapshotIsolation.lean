import Mathlib.Data.List.Forall2
import Formulary.Proofs.Finite.Run
import Formulary.Proofs.UseCounting

/-!
# Calls work with one snapshot

A call looks its template up once. Whatever happens to the store after that, what the call keeps is
made of the snapshot that it has found: the version, and an outcome of a run of it. So edits in
between are not seen, and the log has one such result for each request to keep one.

## Main definitions

* `Event.finds`, `Event.keeper?` : the requests of a call that tell where a result comes from;
* `Found` : a call has looked up a snapshot, once, when it was stored and active;
* `KeptBy` : a result is made of the snapshot that a call has found;
* `Traced` : every result and every call in flight is traced back to a snapshot.

## Main statements

* `Path.hasAsked_iff` : a call that does not wait any more has looked its template up;
* `Path.traced` : whatever the interleaving, everything is traced back;
* `interleaved_calls_sound` : snapshots are not mixed, and uses are neither lost nor counted twice.
-/
namespace Formulary

namespace Service

/-- The event is the request in which a call looks its template up. -/
def Event.finds (call : Nat) : Event → Bool
  | .request other _ .find => other == call
  | _ => false

/-- The call that an event makes keep its result. -/
def Event.keeper? : Event → Option Nat
  | .request call _ .create => some call
  | _ => none

theorem Event.keeper?_eq_none {e : Event} (h : ∀ id, e.requests id .create = false) :
    e.keeper? = none := by
  cases e with
  | insert | start | crash => rfl
  | request call id request =>
    cases request with
    | find | increment => rfl
    | create => simpa [requests] using h id

/-- A call is there, and does not wait for its template any more. -/
def System.HasAsked (s : System) (call : Nat) : Prop :=
  ∃ c, s.calls[call]? = some c ∧ c.progress ≠ .waiting

variable (engine : Engine) (budget : Option Nat)

/-- On the way of some events to a system, a call has looked up a snapshot: in one request only, and
then it was stored and active. -/
inductive Found (events : List Event) (last : System) (call : Nat) (id : Uuid) (values : Values)
    (t : Template) : Prop
  | intro {before after : List Event} {s : System} :
      events = before ++ .request call id .find :: after →
      (∀ e ∈ before ++ after, e.finds call = false) →
      Path engine budget {} before s →
      Path engine budget s (.request call id .find :: after) last →
      s.calls[call]? = some ⟨id, values, .waiting⟩ →
      s.store.template? id = some t → t.isActive →
      Found events last call id values t

/-- A result has the version of the snapshot that a call has found, and an outcome of its runs. -/
def KeptBy (events : List Event) (last : System) (call : Nat) (r : ResultRecord) : Prop :=
  ∃ t, Found engine budget events last call r.templateId r.inputs t ∧
    r.templateVersion = t.version ∧ Yields engine budget t r.inputs r.outcome

/-- Snapshots that calls hold were found by them, and the results are, one by one, those of the calls
that have kept one. -/
structure Traced (events : List Event) (s : System) : Prop where
  holding : ∀ call c t, s.calls[call]? = some c → c.progress = .holding t →
    Found engine budget events s call c.id c.values t
  kept : List.Forall₂ (KeptBy engine budget events s) (events.filterMap Event.keeper?)
    s.store.results

variable {engine budget} {call : Nat} {id : Uuid} {values : Values} {t : Template} {r : ResultRecord}

namespace Call.Step

variable {c : Call} {s s' : Store} {request : Option Request} {p : Progress}

/-- Only the first request of a call is made by one that waits. -/
theorem progress_eq_waiting_iff (h : c.Step engine budget s request p s') :
    c.progress = .waiting ↔ request = some .find := by
  cases h with
  | found hprogress | refused hprogress | crashed hprogress | kept hprogress | counted hprogress
  | uncounted hprogress => simp [hprogress]

theorem ne_waiting (h : c.Step engine budget s request p s') : p ≠ .waiting := by
  cases h <;> exact nofun

/-- A call holds the snapshot that was stored and active in its first request. -/
theorem of_holding (h : c.Step engine budget s request (.holding t) s') :
    request = some .find ∧ c.progress = .waiting ∧ s.template? c.id = some t ∧ t.isActive := by
  cases h with
  | found hprogress hfind => exact ⟨rfl, hprogress, findActive_eq_ok_iff.1 hfind⟩

end Call.Step

variable {s s' : System} {e : Event} {events : List Event} {c : Call}

/-- A call that comes further has asked for its template. -/
theorem System.hasAsked_set {store : Store} {other : Nat} {p : Progress}
    (hcall : s.calls[other]? = some c) (hp : p ≠ .waiting) :
    HasAsked ⟨store, s.calls.set other { c with progress := p }⟩ call ↔
      s.HasAsked call ∨ other = call := by
  by_cases hother : other = call
  · subst hother
    obtain ⟨hlt, -⟩ := List.getElem?_eq_some_iff.1 hcall
    exact ⟨fun _ => .inr rfl, fun _ => ⟨_, List.getElem?_set_self hlt, hp⟩⟩
  · simp [HasAsked, List.getElem?_set_ne hother, hother]

namespace Step

/-- A call stops waiting in the request that looks its template up. -/
theorem hasAsked_iff (h : Step engine budget s e s') :
    s'.HasAsked call ↔ s.HasAsked call ∨ e.finds call := by
  cases h with
  | insert => simp [System.HasAsked, Event.finds]
  | start id values =>
    simp only [System.HasAsked, Event.finds, Bool.false_eq_true, or_false]
    refine exists_congr fun c => and_congr_left fun hc => ?_
    rcases Nat.lt_trichotomy call s.calls.length with hlt | heq | hgt
    · rw [List.getElem?_append_left hlt]
    · subst heq
      simp only [List.getElem?_concat_length, List.getElem?_eq_none (Nat.le_refl _),
        Option.some.injEq, reduceCtorEq, iff_false]
      rintro rfl
      exact hc rfl
    · rw [List.getElem?_eq_none (by simp; omega), List.getElem?_eq_none (by omega)]
  | @request other c request p store hcall hstep =>
    rw [System.hasAsked_set hcall hstep.ne_waiting]
    constructor
    · rintro (hasked | rfl)
      · exact .inl hasked
      · by_cases hrequest : request = .find
        · exact .inr (by simp [Event.finds, hrequest])
        · exact .inl ⟨c, hcall, mt hstep.progress_eq_waiting_iff.1 (by simpa using hrequest)⟩
    · refine Or.imp_right fun hfinds => ?_
      cases request with
      | find => simpa [Event.finds] using hfinds
      | create | increment => cases hfinds
  | @crash other c p store hcall hstep =>
    have hasked : s.HasAsked other := ⟨c, hcall, mt hstep.progress_eq_waiting_iff.1 nofun⟩
    rw [System.hasAsked_set hcall hstep.ne_waiting]
    exact ⟨fun h => .inl (h.elim id fun hother => hother ▸ hasked), Or.imp_right nofun⟩

/-- A call that looks its template up has waited until then. -/
theorem not_hasAsked (h : Step engine budget s e s') (he : e.finds call) : ¬s.HasAsked call := by
  cases h with
  | insert | start | crash => cases he
  | @request other c request p store hcall hstep =>
    cases request with
    | create | increment => cases he
    | find =>
      obtain rfl : other = call := by simpa [Event.finds] using he
      rintro ⟨c', hc', hwaiting⟩
      cases hcall.symm.trans hc'
      exact hwaiting (hstep.progress_eq_waiting_iff.2 rfl)

/-- A snapshot that a call holds after an event was held before, or found in this event. -/
theorem holding_cases (h : Step engine budget s e s') (hc : s'.calls[call]? = some c)
    (hprogress : c.progress = .holding t) :
    s.calls[call]? = some c ∨ e = .request call c.id .find ∧
      s.calls[call]? = some ⟨c.id, c.values, .waiting⟩ ∧
      s.store.template? c.id = some t ∧ t.isActive := by
  cases h with
  | insert => exact .inl hc
  | start id values =>
    rw [List.getElem?_append] at hc
    split at hc
    · exact .inl hc
    · obtain rfl := List.mem_singleton.1 (List.mem_of_getElem? hc)
      cases hprogress
  | @request other c₀ request p store hcall hstep =>
    by_cases hother : other = call
    · subst hother
      obtain ⟨hlt, -⟩ := List.getElem?_eq_some_iff.1 hcall
      rw [List.getElem?_set_self hlt] at hc
      cases hc
      cases hprogress
      obtain ⟨⟨⟩, hwaiting, hstored, hactive⟩ := hstep.of_holding
      refine .inr ⟨rfl, ?_, hstored, hactive⟩
      rw [hcall, ← hwaiting]
    · rw [List.getElem?_set_ne hother] at hc
      exact .inl hc
  | @crash other c₀ p store hcall hstep =>
    by_cases hother : other = call
    · subst hother
      obtain ⟨hlt, -⟩ := List.getElem?_eq_some_iff.1 hcall
      rw [List.getElem?_set_self hlt] at hc
      cases hc
      cases hstep
      cases hprogress
    · rw [List.getElem?_set_ne hother] at hc
      exact .inl hc

end Step

/-- A call has looked its template up exactly when it does not wait any more. -/
theorem Path.hasAsked_iff (h : Path engine budget s events s') :
    s'.HasAsked call ↔ s.HasAsked call ∨ ∃ e ∈ events, e.finds call := by
  induction h with
  | nil s => simp
  | cons hstep _ ih => simp [ih, hstep.hasAsked_iff, or_assoc]

/-- What has been found stays found. -/
theorem Found.concat (h : Found engine budget events s call id values t)
    (hstep : Step engine budget s e s') :
    Found engine budget (events ++ [e]) s' call id values t := by
  obtain @⟨before, after, m, rfl, honce, hbefore, hafter, hwaiting, hstored, hactive⟩ := h
  have hasked : s.HasAsked call :=
    hafter.hasAsked_iff.2 (.inr ⟨_, .head _, by simp [Event.finds]⟩)
  have he : e.finds call = false := by
    by_contra hfinds
    exact hstep.not_hasAsked (by simpa using hfinds) hasked
  have hpath : Path engine budget m (.request call id .find :: (after ++ [e])) s' :=
    hafter.append (.cons hstep (.nil s'))
  refine .intro (by simp) ?_ hbefore hpath hwaiting hstored hactive
  rw [← List.append_assoc]
  exact List.forall_mem_append.2 ⟨honce, by simpa using he⟩

theorem KeptBy.concat (h : KeptBy engine budget events s call r)
    (hstep : Step engine budget s e s') : KeptBy engine budget (events ++ [e]) s' call r := by
  obtain ⟨t, hfound, hversion, hyields⟩ := h
  exact ⟨t, hfound.concat hstep, hversion, hyields⟩

/-- A call finds the snapshot that is stored and active in its first request. -/
theorem Found.of_request (h : Path engine budget {} events s)
    (hstep : Step engine budget s (.request call id .find) s')
    (hwaiting : s.calls[call]? = some ⟨id, values, .waiting⟩)
    (hstored : s.store.template? id = some t) (hactive : t.isActive) :
    Found engine budget (events ++ [.request call id .find]) s' call id values t := by
  refine .intro rfl (fun e he => ?_) h (.cons hstep (.nil s')) hwaiting hstored hactive
  rw [List.append_nil] at he
  by_contra hfinds
  have hasked : s.HasAsked call := h.hasAsked_iff.2 (.inr ⟨e, he, by simpa using hfinds⟩)
  exact hstep.not_hasAsked (by simp [Event.finds]) hasked

/-- One more event leaves everything traced. -/
theorem Traced.concat (hpath : Path engine budget {} events s) (h : Traced engine budget events s)
    (hstep : Step engine budget s e s') : Traced engine budget (events ++ [e]) s' := by
  have hkept : List.Forall₂ (KeptBy engine budget (events ++ [e]) s')
      (events.filterMap Event.keeper?) s.store.results :=
    h.kept.imp fun _ _ hone => hone.concat hstep
  constructor
  · intro call c t hc hprogress
    rcases hstep.holding_cases hc hprogress with hold | ⟨rfl, hwaiting, hstored, hactive⟩
    · exact (h.holding call c t hold hprogress).concat hstep
    · exact .of_request hpath hstep hwaiting hstored hactive
  · rw [List.filterMap_append]
    rcases hstep.results_cases with
      ⟨hcreate, hresults⟩ | ⟨call, c, t, o, rfl, hc, hprogress, hyields, hstore⟩
    · have hkeeper : [e].filterMap Event.keeper? = [] := by
        simp [Event.keeper?_eq_none hcreate]
      rw [hkeeper, List.append_nil, hresults]
      exact hkept
    · -- The call keeps a result of the snapshot that it holds, and has found before.
      have hfound := (h.holding call c t hc hprogress).concat hstep
      rw [hstore]
      exact List.rel_append hkept (.cons ⟨t, hfound, rfl, hyields⟩ .nil)

/-- However events follow each other, all that is held or kept is traced back to a snapshot. -/
theorem Path.traced (h : Path engine budget {} events s) : Traced engine budget events s := by
  refine concat_induction ⟨fun call c t hc => ?_, .nil⟩ Traced.concat h
  cases hc

/-- Every result was kept by a call. -/
theorem Traced.exists_keptBy (h : Traced engine budget events s) (hr : r ∈ s.store.results) :
    ∃ call, KeptBy engine budget events s call r := by
  obtain ⟨hlength, hget⟩ := List.forall₂_iff_get.1 h.kept
  obtain ⟨i, hi, rfl⟩ := List.getElem_of_mem hr
  exact ⟨_, hget i (hlength ▸ hi) hi⟩

/-- A template that is never inserted is not stored, and has no results. -/
theorem Path.resultsOf_eq_nil (h : Path engine budget {} events s)
    (hevents : ∀ e ∈ events, e.inserts id = false) : s.store.resultsOf id = [] := by
  refine List.filter_eq_nil_iff.2 fun r hr hid => ?_
  obtain rfl : r.templateId = id := by simpa using hid
  obtain ⟨call, t, ⟨rfl, -, hbefore, -, -, hstored, -⟩, -, -⟩ := h.traced.exists_keptBy hr
  have hnone := hbefore.template?_eq_addUses (List.forall_mem_append.1 hevents).1
  cases hstored.symm.trans hnone

/-- Calls and edits may follow each other in any way. Every result has the version and an outcome of
the one snapshot that its call has found, when it was stored and active, and the calls have kept one
result each. The stored snapshot of a template is the one inserted last, with one use for each count
since, and a call that has kept its result can always count it. So if a template is not edited from its
first call on, and no call is in flight any more, it has been used as many times more as it has
results. -/
theorem interleaved_calls_sound (h : Path engine budget {} events s) :
    List.Forall₂ (KeptBy engine budget events s) (events.filterMap Event.keeper?)
        s.store.results ∧
      (∀ id, (s.store.template? id = none ∧ ∀ e ∈ events, e.inserts id = false) ∨
        ∃ before t after, events = before ++ .insert t :: after ∧ t.id = id ∧
          (∀ e ∈ after, e.inserts id = false) ∧
          s.store.template? id = some (t.addUses (after.countP (Event.requests id .increment)))) ∧
      (∀ c ∈ s.calls, ∀ r, c.progress = .logged r →
        ∃ store, increment [] s.store c.id = .ok store) ∧
      ∀ id values before after m, events = before ++ .start id values :: after →
        Path engine budget {} before m → Path engine budget m (.start id values :: after) s →
        (∀ e ∈ before, e.starts id = false) → (∀ e ∈ after, e.inserts id = false) → s.Idle →
        s.store.template? id =
            (m.store.template? id).map (Template.addUses (s.store.resultsOf id).length) ∧
          (m.store.template? id = none → s.store.resultsOf id = []) := by
  refine ⟨h.traced.kept, fun id => ?_, fun c hc r hr => h.exists_increment_of_logged hc hr, ?_⟩
  · rcases Event.exists_last_insert id events with hnone | ⟨before, t, after, rfl, rfl, hafter⟩
    · exact .inl ⟨h.template?_eq_addUses hnone, hnone⟩
    · exact .inr ⟨before, t, after, rfl, rfl, hafter, h.template?_eq_of_insert hafter⟩
  · rintro id values before after m rfl hbefore hrest hfirst hedits hidle
    refine ⟨hbefore.template?_eq_of_idle hrest hfirst hedits hidle, fun hnone => ?_⟩
    have hbefore_inserts : ∀ e ∈ before, e.inserts id = false := by
      rcases Event.exists_last_insert id before with hinserts | ⟨first, t, rest, rfl, rfl, hrest⟩
      · exact hinserts
      · cases hnone.symm.trans (hbefore.template?_eq_of_insert hrest)
    refine h.resultsOf_eq_nil (List.forall_mem_append.2 ⟨hbefore_inserts, ?_⟩)
    exact List.forall_mem_cons.2 ⟨rfl, hedits⟩

/-- A template that is edited while a call works with it. -/
def draftTemplate : Template where
  name := "Draft"
  formula := "1 + 1"

def finalTemplate : Template := { draftTemplate with version := 2, formula := "2 + 2" }

def sharedTemplate : Template where
  id := ⟨1⟩
  name := "Shared"
  formula := "3"

/-- What happens before the first call of the shared template. -/
def beforeShared : List Event :=
  [.insert draftTemplate, .insert sharedTemplate, .start draftTemplate.id .empty]

/-- What happens after it: the draft is replaced when its call has found it, and the requests of all
calls interleave. -/
def afterShared : List Event :=
  [.start sharedTemplate.id .empty,
    .request 0 draftTemplate.id .find, .insert finalTemplate,
    .request 1 sharedTemplate.id .find, .request 2 sharedTemplate.id .find,
    .request 2 sharedTemplate.id .create, .request 0 draftTemplate.id .create,
    .request 1 sharedTemplate.id .create, .request 1 sharedTemplate.id .increment,
    .request 0 draftTemplate.id .increment, .request 2 sharedTemplate.id .increment]

def resultOfSnapshot (t : Template) : ResultRecord :=
  ⟨t.id, t.version, .empty, (calculate {} t .empty).outcome⟩

def callOf (t : Template) (p : Progress) : Call := ⟨t.id, .empty, p⟩

/-- What comes of it: the result of the draft is one of its first version. -/
def sharedOutcome : System where
  store := {
    templates := [finalTemplate.addUses 1, sharedTemplate.addUses 2]
    results := [resultOfSnapshot sharedTemplate, resultOfSnapshot draftTemplate,
      resultOfSnapshot sharedTemplate] }
  calls := [draftTemplate, sharedTemplate, sharedTemplate].map fun t =>
    callOf t (.ended (.ok (resultOfSnapshot t)))

/-- The calls keep a result each, of what they have found, and the shared template, which is not
edited, has been used once for each of its results. -/
theorem interleaved_calls_sound_sharedOutcome : ∃ m,
    Path {} none {} beforeShared m ∧
      Path {} none m (.start sharedTemplate.id .empty :: afterShared) sharedOutcome ∧
      List.Forall₂
        (KeptBy {} none (beforeShared ++ .start sharedTemplate.id .empty :: afterShared)
          sharedOutcome) [2, 0, 1] sharedOutcome.store.results ∧
      sharedOutcome.store.template? sharedTemplate.id =
        (m.store.template? sharedTemplate.id).map
          (Template.addUses (sharedOutcome.store.resultsOf sharedTemplate.id).length) := by
  let m : System := ⟨⟨[draftTemplate, sharedTemplate], []⟩, [callOf draftTemplate .waiting]⟩
  have hbefore : Path {} none {} beforeShared m :=
    .cons (.insert _ _) (.cons (.insert _ _) (.cons (.start _ _ _) (.nil _)))
  have hrest : Path {} none m (.start sharedTemplate.id .empty :: afterShared) sharedOutcome := by
    let draft := callOf draftTemplate
    let shared := callOf sharedTemplate
    have hyields (t : Template) : Yields {} none t .empty (resultOfSnapshot t).outcome :=
      .inTime (execute_eq_outcome {} t NameMap.all_empty)
    refine .cons (.start _ _ _) (.cons (.start _ _ _) ?_)
    refine .cons (.request (c := draft .waiting) rfl (.found rfl rfl)) (.cons (.insert _ _) ?_)
    refine .cons (.request (c := shared .waiting) rfl (.found rfl rfl)) ?_
    refine .cons (.request (c := shared .waiting) rfl (.found rfl rfl)) ?_
    refine .cons (.request (c := shared (.holding sharedTemplate)) rfl (.kept rfl (hyields _) rfl)) ?_
    refine .cons (.request (c := draft (.holding draftTemplate)) rfl (.kept rfl (hyields _) rfl)) ?_
    refine .cons (.request (c := shared (.holding sharedTemplate)) rfl (.kept rfl (hyields _) rfl)) ?_
    refine .cons (.request (c := shared (.logged (resultOfSnapshot sharedTemplate))) rfl
      (.counted rfl rfl)) ?_
    refine .cons (.request (c := draft (.logged (resultOfSnapshot draftTemplate))) rfl
      (.counted rfl rfl)) ?_
    exact .cons (.request (c := shared (.logged (resultOfSnapshot sharedTemplate))) rfl
      (.counted rfl rfl)) (.nil _)
  have hidle : sharedOutcome.Idle := by
    simp [System.Idle, sharedOutcome, callOf]
  have hsound := interleaved_calls_sound (hbefore.append hrest)
  refine ⟨m, hbefore, hrest, hsound.1, ?_⟩
  exact (hsound.2.2.2 _ _ _ _ m rfl hbefore hrest (by decide) (by decide) hidle).1

end Service

end Formulary
