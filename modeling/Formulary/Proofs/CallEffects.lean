import Formulary.Proofs.Crashes
import Formulary.Proofs.UseCounting

/-!
# What a call leaves behind

A call of the service that is not interrupted changes the store as a whole or not at all. It is
refused before anything is written, or it keeps one result and counts one use, whether its run
succeeds, fails or is given up. Only a run that crashes leaves neither. A preview asks for nothing but
the template. So the store is at any time what it was, with the results of the calls since then behind
the others, and with one more use for each of them.

## Main definitions

* `Store.Records` : a store has one more result, and is otherwise the same;
* `Service.Demand`, `Service.serve` : the calls of the service, with the store after each of them.

## Main statements

* `Service.execute_of_ending`, `Service.execute_of_crash` : what comes of executing an active template;
* `Service.preview_eq` : what a preview needs, and when it fails;
* `Service.serve_cases`, `Service.serveAll_extends` : what one call and what many calls do to a
  store;
* `Service.serve_atomic` : what each call does, in full.
-/
namespace Formulary

/-- A result of a template is new at the end of the log and counted in the snapshot of its template,
which is the same otherwise, as are all other templates. -/
structure Store.Records (s : Store) (t : Template) (r : ResultRecord) (s' : Store) : Prop where
  results : s'.results = s.results ++ [r]
  counted : s'.template? r.templateId = some { t with usageCount := t.usageCount + 1 }
  others : ∀ id, id ≠ r.templateId → s'.template? id = s.template? id

namespace Store

variable {s s' : Store} {t : Template} {r : ResultRecord}

/-- Keeping a result and counting the use of its template is recording it. -/
theorem records_of_countUse? (ht : s.template? r.templateId = some t)
    (h : (s.append r).countUse? r.templateId = some s') : s.Records t r s' := by
  have htemplate := template?_of_countUse? h
  refine ⟨results_of_countUse? h, ?_, fun id hid => ?_⟩
  · have hstored : (s.append r).template? r.templateId = some t := ht
    rw [htemplate, if_pos rfl, hstored, Option.map_some]
  · rw [htemplate, if_neg hid.symm]
    rfl

/-- Recording a result uses its template once, and no other. -/
theorem Records.template?_eq (h : s.Records t r s') (ht : s.template? r.templateId = some t)
    (id : Uuid) :
    s'.template? id =
      (s.template? id).map (Template.addUses (if r.templateId = id then 1 else 0)) := by
  by_cases hid : r.templateId = id
  · rw [← hid, h.counted, ht, if_pos rfl]
    rfl
  · rw [h.others id (Ne.symm hid), if_neg hid, Template.addUses_zero, Option.map_id']

end Store

namespace Service

variable {engine : Engine} {pace : Pace} {s s' : Store} {id : Uuid} {values : Values} {t : Template}
  {now : Calendar.Instant}

theorem execute_of_unknown (h : s.template? id = none) :
    execute engine [] pace s id values = (.error (.templateNotFound id), s) := by
  have hfind : findActive [] s id = .error (.templateNotFound id) := by
    rw [findActive_eq List.not_mem_nil, h]
  simp only [execute, hfind]

theorem execute_of_inactive (h : s.template? id = some t) (hactive : t.isActive = false) :
    execute engine [] pace s id values = (.error (.templateInactive id), s) := by
  have hfind : findActive [] s id = .error (.templateInactive id) := by
    simp [findActive_eq List.not_mem_nil, h, hactive]
  simp only [execute, hfind]

/-- When the run of an active template crashes, the call fails, and nothing is kept or counted. -/
theorem execute_of_crash (h : s.template? id = some t) (hactive : t.isActive = true) {crash : Crash}
    (hcrash : ending engine pace t values = .error crash) :
    execute engine [] pace s id values = (.error (.taskFailed crash), s) := by
  have hfind : findActive [] s id = .ok t := findActive_eq_ok_iff.2 ⟨h, hactive⟩
  simp only [execute, hfind, hcrash]

/-- An active template is executed: the outcome of its run is recorded with the version of its
snapshot. -/
theorem execute_of_ending (h : s.template? id = some t) (hactive : t.isActive = true) {o : Outcome}
    (ho : ending engine pace t values = .ok o) :
    ∃ s', execute engine [] pace s id values = (.ok ⟨id, t.version, values, o⟩, s') ∧
      s.Records t ⟨id, t.version, values, o⟩ s' := by
  let r : ResultRecord := ⟨id, t.version, values, o⟩
  have hfind : findActive [] s id = .ok t := findActive_eq_ok_iff.2 ⟨h, hactive⟩
  have hcreate : create [] s r = .ok (s.append r) := ask_of_not_mem List.not_mem_nil _
  -- Keeping the result leaves the template where it was found, so its use can be counted.
  have hsome : ((s.append r).countUse? id).isSome := by
    rw [Option.isSome_iff_ne_none, ne_eq, Store.countUse?_eq_none_iff]
    exact fun hnone => by cases h.symm.trans hnone
  obtain ⟨s', hs'⟩ := Option.isSome_iff_exists.1 hsome
  have hincrement : increment [] (s.append r) id = .ok s' := by
    rw [increment, ask_of_not_mem List.not_mem_nil, hs']
  refine ⟨s', ?_, Store.records_of_countUse? h hs'⟩
  simp only [execute, hfind, ho, r, hcreate, hincrement]

/-- A run that is given up has an outcome, and so has one that is supplied no `NaN`. -/
theorem exists_ending_eq_ok (h : values.HasNoNaN ∨ pace ≠ .inTime) :
    ∃ o, ending engine pace t values = .ok o := by
  cases pace with
  | stalled => exact ⟨_, rfl⟩
  | inTime => exact ⟨_, execute_eq_outcome engine t (h.resolve_right (absurd rfl))⟩

/-- A preview asks for the template only, so it does not matter whether results can be kept and uses
counted. It fails for a template that is not there, and for no other, active or not. -/
theorem preview_eq {outage : Outage} (h : .find ∉ outage) :
    preview engine now outage s id =
      match s.template? id with
      | some t => .ok (Formulary.preview engine now t {})
      | none => .error (.templateNotFound id) := by
  simp only [preview, findExisting_eq h, bind, Except.bind]
  cases s.template? id <;> rfl

/-- What the service is asked for. -/
inductive Demand
  | execute (pace : Pace) (id : Uuid) (values : Values)
  | preview (now : Calendar.Instant) (id : Uuid)

/-- What it replies with. A preview may crash in the thread of the caller. -/
inductive Reply
  | result (r : ResultRecord)
  | preview (shown : Except Crash Preview)

/-- The reply to a demand, and the store after it. -/
def serve (engine : Engine) (s : Store) : Demand → Except ServiceError Reply × Store
  | .execute pace id values =>
    let (answer, s') := Service.execute engine [] pace s id values
    (answer.map .result, s')
  | .preview now id => ((Service.preview engine now [] s id).map .preview, s)

def serveAll (engine : Engine) (s : Store) (demands : List Demand) : Store :=
  demands.foldl (fun s demand => (serve engine s demand).2) s

variable (engine s) in
/-- A demand leaves the store as it was, or has one result recorded. -/
theorem serve_cases (demand : Demand) :
    (serve engine s demand).2 = s ∨
      ∃ t r, s.template? r.templateId = some t ∧ s.Records t r (serve engine s demand).2 := by
  cases demand with
  | preview now id => exact .inl rfl
  | execute pace id values =>
    cases ht : s.template? id with
    | none => exact .inl (by rw [serve, execute_of_unknown ht])
    | some t =>
      cases hactive : t.isActive with
      | false => exact .inl (by rw [serve, execute_of_inactive ht hactive])
      | true =>
        cases hending : ending engine pace t values with
        | error crash => exact .inl (by rw [serve, execute_of_crash ht hactive hending])
        | ok o =>
          obtain ⟨s', hexecute, hrecords⟩ := execute_of_ending ht hactive hending
          exact .inr ⟨t, _, ht, by rwa [serve, hexecute]⟩

variable (engine s) in
/-- However many demands follow each other, results are added behind those that are there, and each
template is used once for each of its new results and is otherwise the same. -/
theorem serveAll_extends (demands : List Demand) :
    ∃ records, (serveAll engine s demands).results = s.results ++ records ∧
      ∀ id, (serveAll engine s demands).template? id =
        (s.template? id).map (Template.addUses (records.countP (·.templateId = id))) := by
  induction demands generalizing s with
  | nil => exact ⟨[], (List.append_nil _).symm, fun id => by simp [serveAll]⟩
  | cons demand rest ih =>
    obtain ⟨records, hresults, htemplates⟩ := ih (serve engine s demand).2
    have hrest : serveAll engine s (demand :: rest) =
        serveAll engine (serve engine s demand).2 rest := rfl
    rw [hrest]
    rcases serve_cases engine s demand with hsame | ⟨t, r, ht, hrecords⟩
    · rw [hsame] at hresults htemplates ⊢
      exact ⟨records, hresults, htemplates⟩
    · refine ⟨r :: records, ?_, fun id => ?_⟩
      · rw [hresults, hrecords.results, List.append_assoc, List.singleton_append]
      · rw [htemplates id, hrecords.template?_eq ht, Option.map_map, List.countP_cons, Nat.add_comm]
        simp [Function.comp_def, Template.addUses_addUses]

/-- What each call does to a store, for any identifier. Executing a template that is not there or
not active is refused, and previewing one fails only when it is not there; neither changes the
store. Any other execution, whether its run comes to its end, fails or is given up, has exactly one
result recorded: with that identifier, the version of the snapshot and the values of the caller,
behind all earlier results, and with one more use of that template, nothing else of it and no other
template being changed. When the run crashes, the execution fails and leaves the store as it was; for
that, a `NaN` has to be supplied to a run that is not given up. -/
theorem serve_atomic (engine : Engine) (s : Store) (id : Uuid) :
    (∀ pace values, s.template? id = none →
      serve engine s (.execute pace id values) = (.error (.templateNotFound id), s)) ∧
    (∀ pace values t, s.template? id = some t → t.isActive = false →
      serve engine s (.execute pace id values) = (.error (.templateInactive id), s)) ∧
    (∀ pace values t, s.template? id = some t → t.isActive = true →
      (∀ o, ending engine pace t values = .ok o →
        let r : ResultRecord := ⟨id, t.version, values, o⟩
        ∃ s', serve engine s (.execute pace id values) = (.ok (.result r), s') ∧
          s.Records t r s') ∧
      (∀ crash, ending engine pace t values = .error crash →
        serve engine s (.execute pace id values) = (.error (.taskFailed crash), s)) ∧
      (values.HasNoNaN ∨ pace ≠ .inTime → ∃ o, ending engine pace t values = .ok o)) ∧
    (∀ now, s.template? id = none →
      serve engine s (.preview now id) = (.error (.templateNotFound id), s)) ∧
    ∀ now t, s.template? id = some t → ∃ shown, Formulary.preview engine now t {} = .ok shown ∧
      serve engine s (.preview now id) = (.ok (.preview (.ok shown)), s) := by
  refine ⟨fun pace values ht => ?_, fun pace values t ht hactive => ?_,
    fun pace values t ht hactive => ⟨fun o ho => ?_, fun crash hcrash => ?_, exists_ending_eq_ok⟩,
    fun now ht => ?_, fun now t ht => ?_⟩
  · rw [serve, execute_of_unknown ht]
    rfl
  · rw [serve, execute_of_inactive ht hactive]
    rfl
  · obtain ⟨s', hexecute, hrecords⟩ := execute_of_ending ht hactive ho
    exact ⟨s', by rw [serve, hexecute]; rfl, hrecords⟩
  · rw [serve, execute_of_crash ht hactive hcrash]
    rfl
  · rw [serve, preview_eq List.not_mem_nil, ht]
    rfl
  · have hsome : ∃ shown, Formulary.preview engine now t {} = .ok shown :=
      exists_preview_eq_ok engine now t NameMap.all_empty
    obtain ⟨shown, hshown⟩ := hsome
    refine ⟨shown, hshown, ?_⟩
    simp only [serve, preview_eq List.not_mem_nil, ht, hshown, Except.map]

def retiredTemplate : Template where
  id := ⟨1⟩
  name := "Retired"
  isActive := false
  formula := "1"

def currentTemplate : Template where
  id := ⟨2⟩
  name := "Current"
  version := 3
  usageCount := 1
  formula := "'slab'"
  parameters := [.output "label" .string "resultado + '!'"]

/-- A store with both, and the result of the earlier use. -/
def busyStore : Store where
  templates := [retiredTemplate, currentTemplate]
  results := [⟨⟨2⟩, 3, .empty, (calculate {} currentTemplate .empty).outcome⟩]

/-- A run that is given up while its output is derived is recorded behind the earlier one, and the
retired template is not executed. -/
theorem serve_atomic_busyStore :
    let r : ResultRecord := ⟨⟨2⟩, 3, .empty, .timedOut (.output "label") 250⟩
    serve {} busyStore (.execute .inTime ⟨1⟩ .empty) = (.error (.templateInactive ⟨1⟩), busyStore) ∧
      ∃ s', serve {} busyStore (.execute (.stalled 250 ⟨.output, 0⟩) ⟨2⟩ .empty) =
          (.ok (.result r), s') ∧
        busyStore.Records currentTemplate r s' ∧
        r.outcome.errorMessage = some "output:label: timeout" := by
  intro r
  obtain ⟨-, hinactive, -⟩ := serve_atomic {} busyStore ⟨1⟩
  obtain ⟨-, -, hactive, -⟩ := serve_atomic {} busyStore ⟨2⟩
  obtain ⟨hrecorded, -⟩ := hactive (.stalled 250 ⟨.output, 0⟩) .empty currentTemplate rfl rfl
  obtain ⟨s', hserve, hrecords⟩ := hrecorded _ rfl
  exact ⟨hinactive .inTime .empty retiredTemplate rfl rfl, s', hserve, hrecords, rfl⟩

/-- An array that holds a `NaN` is supplied to an active template, and nothing is recorded. -/
theorem not_forall_serve_records :
    ¬ ∀ (engine : Engine) (s : Store) (id : Uuid) (pace : Pace) (values : Values) (t : Template),
      s.template? id = some t → t.isActive = true →
        ∃ r s', serve engine s (.execute pace id values) = (.ok (.result r), s') ∧
          s.Records t r s' := by
  intro h
  let s : Store := ⟨[boundTemplate], []⟩
  obtain ⟨r, s', hserve, -⟩ := h {} s ⟨3⟩ .inTime boundValues boundTemplate rfl rfl
  have hcrash : ending {} .inTime boundTemplate boundValues = .error ⟨.main⟩ :=
    execute_boundTemplate.1
  have hfails : execute {} [] .inTime s ⟨3⟩ boundValues = (.error (.taskFailed ⟨.main⟩), s) :=
    execute_of_crash rfl rfl hcrash
  rw [serve, hfails] at hserve
  cases hserve

end Service

end Formulary
