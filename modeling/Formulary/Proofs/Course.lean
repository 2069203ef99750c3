import Formulary.Proofs.Derivation

/-!
# The courses that a run can take

A run ends in one of seven ways: with problems of its inputs, with a circle or a formula that fails
among its internals, with a primary formula that fails, with a circle or a formula that fails among
its outputs, or at its end. A course tells everything about the run: what was bound, what was found,
why it ended, and which records it left. A formula that fails may have crashed the run; the course is
the same up to there, without a record of the end.

## Main definitions

* `ReachesPrimary`, `ReachesOutputs` : what a run brings along when it goes on to a stage;
* `Course` : the ways in which a run ends.

## Main statements

* `Run.deriveEach_cases` : the parameters of a role are derived to the end or to one that fails;
* `calculate_course` : every run takes a course;
* `Run.wasSuccessful_ending`, `Run.results_ending` : what an ending tells of the run;
* `execute_finishes_iff` : when a run comes to its end, and with which results.
-/
namespace Formulary

/-- Unless it crashes the run, an error is reported as it is. -/
theorem Stop.eq_of_ofError_eq_failed {stage : Stage} {e : FormulaError} {f : Failure}
    (h : ofError stage e = .failed f) : f = ⟨stage, .formula e⟩ := by
  cases e <;> cases h <;> rfl

/-- Bounds without an order are the only error that crashes a run. -/
theorem Stop.ofError_eq_crashed_iff {stage : Stage} {e : FormulaError} {crash : Crash} :
    ofError stage e = .crashed crash ↔ e = .unorderedBounds ∧ crash = ⟨stage⟩ := by
  cases e <;> simp [ofError, eq_comm]

namespace DerivedRole

/-- The layer in which the values of a role are kept. -/
def layer : DerivedRole → Run → Values
  | .internal, r => r.context
  | .output, r => r.results

/-- What the formulas of a role see behind that layer. -/
def below : DerivedRole → Run → Scope
  | .internal, _ => []
  | .output, r => [r.context]

/-- A run with another layer for the values of a role. -/
def withLayer (role : DerivedRole) (layer : Values) (r : Run) : Run :=
  match role with
  | .internal => { r with context := layer }
  | .output => { r with results := layer }

def records (role : DerivedRole) (members : List Placed) : List Record :=
  members.map fun m => ⟨role.kind, m.place⟩

variable (role : DerivedRole) (layer layer' : Values) (r : Run) (trace trace' : List Record)

@[simp] theorem layer_withLayer :
    role.layer { role.withLayer layer r with trace := trace } = layer := by cases role <;> rfl

@[simp] theorem below_withLayer :
    role.below { role.withLayer layer r with trace := trace } = role.below r := by
  cases role <;> rfl

@[simp] theorem stop_withLayer : (role.withLayer layer r).stop = r.stop := by
  cases role <;> rfl

@[simp] theorem withLayer_withLayer :
    role.withLayer layer' { role.withLayer layer r with trace := trace } =
      { role.withLayer layer' r with trace := trace } := by cases role <;> rfl

@[simp] theorem withLayer_layer : role.withLayer (role.layer r) r = r := by
  cases role <;> rfl

end DerivedRole

namespace Run

variable {limits : Limits} {role : DerivedRole} {r : Run} {m : Placed}

theorem failure_eq_some_iff {f : Failure} : r.failure = some f ↔ r.stop = some (.failed f) := by
  unfold failure
  split <;> simp_all

/-- The failure of a run whose formula has no value is reported with its error. -/
theorem eq_of_failure_eq_some {stage : Stage} {e : FormulaError} {f : Failure}
    (hstop : r.stop = some (.ofError stage e)) (hf : r.failure = some f) :
    f = ⟨stage, .formula e⟩ :=
  Stop.eq_of_ofError_eq_failed (Option.some.inj (hstop.symm.trans (failure_eq_some_iff.1 hf)))

theorem stop_eq_none_of_failure (hcrash : ∀ crash, r.stop ≠ some (.crashed crash))
    (h : r.failure = none) : r.stop = none := by
  cases hstop : r.stop with
  | none => rfl
  | some stop =>
    cases stop with
    | crashed crash => exact absurd hstop (hcrash crash)
    | failed f => cases h.symm.trans (failure_eq_some_iff.2 hstop)

theorem ending_eq_ok_iff {o : Outcome} :
    r.ending = .ok o ↔ (∀ crash, r.stop ≠ some (.crashed crash)) ∧ r.outcome = o := by
  unfold ending
  split <;> simp_all

theorem ending_eq_error_iff {crash : Crash} :
    r.ending = .error crash ↔ r.stop = some (.crashed crash) := by
  unfold ending
  split <;> simp_all

theorem failure_ending (r : Run) : r.ending.failure = r.failure := by
  cases hending : r.ending with
  | error crash =>
    rw [failure, ending_eq_error_iff.1 hending]
    rfl
  | ok o =>
    rw [← (ending_eq_ok_iff.1 hending).2]
    rfl

/-- A run is reported as successful when nothing has stopped it. -/
theorem wasSuccessful_ending : r.ending.wasSuccessful ↔ r.stop = none := by
  unfold ending
  split
  · simp_all [Ending.wasSuccessful]
  · rename_i hno
    cases hstop : r.stop with
    | none => simp [Ending.wasSuccessful, Outcome.wasSuccessful, outcome, failure, hstop]
    | some stop =>
      cases stop with
      | crashed crash => exact absurd hstop (hno crash)
      | failed f => simp [Ending.wasSuccessful, Outcome.wasSuccessful, outcome, failure, hstop]

theorem results_ending (h : ∀ crash, r.stop ≠ some (.crashed crash)) :
    r.ending.results = r.results := by
  rw [ending_eq_ok_iff.2 ⟨h, rfl⟩]
  rfl

@[simp] theorem andThen_of_stop {stop : Stop} (h : r.stop = some stop) (next : Run → Run) :
    r.andThen next = r := by
  simp [andThen, h]

@[simp] theorem andThen_of_eq_none (h : r.stop = none) (next : Run → Run) :
    r.andThen next = next r := by
  simp [andThen, h]

theorem deriveOne_ok {v : Value}
    (hv : m.parameter.value limits (role.layer r :: role.below r) = .ok v) :
    r.deriveOne limits role m =
      { role.withLayer ((role.layer r).insert m.name v) r with
        trace := r.trace ++ [⟨role.kind, m.place⟩] } := by
  unfold Parameter.value at hv
  cases role <;>
    simp_all [deriveOne, DerivedRole.layer, DerivedRole.below, DerivedRole.scope, record,
      DerivedRole.keep, DerivedRole.withLayer]

theorem deriveOne_error {e : FormulaError}
    (he : m.parameter.value limits (role.layer r :: role.below r) = .error e) :
    r.deriveOne limits role m =
      { r with
        stop := some (.ofError (role.stage m.name) e)
        trace := r.trace ++ [⟨role.kind, m.place⟩] } := by
  unfold Parameter.value at he
  cases role <;>
    simp_all [deriveOne, DerivedRole.layer, DerivedRole.below, DerivedRole.scope, record, halt]

variable (limits role) in
/-- The parameters of a role are derived one after the other, all of them or up to one whose
formula fails. -/
theorem deriveEach_cases (r : Run) (members : List Placed) (hr : r.stop = none) :
    (∃ last,
      Derives limits (role.below r) (role.layer r) (members.map Placed.parameter) last ∧
      r.deriveEach limits role members =
        { role.withLayer last r with trace := r.trace ++ role.records members }) ∨
    (∃ before m after last e, members = before ++ m :: after ∧
      Derives limits (role.below r) (role.layer r) (before.map Placed.parameter) last ∧
      m.parameter.value limits (last :: role.below r) = .error e ∧
      r.deriveEach limits role members =
        { role.withLayer last r with
          stop := some (.ofError (role.stage m.name) e)
          trace := r.trace ++ role.records (before ++ [m]) }) := by
  induction members generalizing r with
  | nil => exact .inl ⟨role.layer r, .nil _, by simp [deriveEach, DerivedRole.records]⟩
  | cons m rest ih =>
    cases hv : m.parameter.value limits (role.layer r :: role.below r) with
    | error e =>
      refine .inr ⟨[], m, rest, role.layer r, e, rfl, .nil _, hv, ?_⟩
      rw [deriveEach, deriveOne_error hv, role.withLayer_layer]
      rfl
    | ok v =>
      have hone := deriveOne_ok hv
      have hstop : (r.deriveOne limits role m).stop = none := by
        rw [hone, ← hr]
        exact role.stop_withLayer _ r
      rw [deriveEach, andThen_of_eq_none hstop]
      rcases ih _ hstop with ⟨last, hlast, h⟩ | ⟨before, n, after, last, e, rfl, hlast, he, h⟩
      · rw [hone, role.layer_withLayer, role.below_withLayer] at hlast
        refine .inl ⟨last, .cons hv hlast, ?_⟩
        rw [h, hone, role.withLayer_withLayer]
        simp [DerivedRole.records]
      · rw [hone, role.layer_withLayer, role.below_withLayer] at hlast
        rw [hone, role.below_withLayer] at he
        refine .inr ⟨m :: before, n, after, last, e, rfl, .cons hv hlast, he, ?_⟩
        rw [h, hone, role.withLayer_withLayer]
        simp [DerivedRole.records]

variable (limits role) in
/-- Parameters that can be derived are derived. -/
theorem deriveEach_of_derives (r : Run) {members : List Placed} {last : Values}
    (hr : r.stop = none)
    (h : Derives limits (role.below r) (role.layer r) (members.map Placed.parameter) last) :
    r.deriveEach limits role members =
      { role.withLayer last r with trace := r.trace ++ role.records members } := by
  rcases deriveEach_cases limits role r members hr with
    ⟨last', hlast, heq⟩ | ⟨before, m, after, layer, e, rfl, hbefore, he, -⟩
  · rw [heq, hlast.unique h]
  · obtain ⟨v, hv⟩ := Derives.exists_value (by simpa using h) hbefore
    cases he.symm.trans hv

theorem validateInputs_of_valid {t : Template} {supplied : Values}
    (h : validate t.parameters supplied = []) :
    ({} : Run).validateInputs t supplied =
      { context := bindInputs t.parameters supplied, trace := [⟨.validation, 0⟩] } := by
  simp [validateInputs, h, record]

end Run

/-- The results that a value of the primary formula makes. -/
def primaryResults : Value → Values
  | .object fields => NameMap.ofEntries fields
  | v => NameMap.empty.insert primaryName v

/-- The names of the results that a value of the primary formula makes. -/
def Value.resultNames : Value → List String
  | .object fields => fields.map (·.1)
  | _ => [primaryName]

theorem Value.resultNames_eq {v : Value} (h : v.kind ≠ .object) : v.resultNames = [primaryName] := by
  cases v with
  | object fields => exact absurd rfl h
  | _ => rfl

theorem mem_names_primaryResults {v : Value} {name : String} :
    name ∈ (primaryResults v).names ↔ name ∈ v.resultNames := by
  cases v with
  | object fields => exact NameMap.mem_names_ofEntries
  | _ => exact Iff.rfl

section

variable (engine : Engine) (t : Template) (supplied : Values)

/-- The inputs are valid and the internals derived; so the run goes on to its primary formula. -/
structure ReachesPrimary (internals : List Placed) (context : Values) : Prop where
  valid : validate t.parameters supplied = []
  sequenced : sequence engine.limits engine.order (t.derivedBy .internal) = .ok internals
  derived : Derives engine.limits [] (bindInputs t.parameters supplied)
    (internals.map Placed.parameter) context

/-- The primary formula has a value; so the run goes on to its outputs. -/
structure ReachesOutputs (internals : List Placed) (context : Values) (v : Value) : Prop extends
    ReachesPrimary engine t supplied internals context where
  evaluated : evaluate engine.limits t.formula [context] = .ok v

/-- The records that a run leaves before its outputs. -/
def recordsToPrimary (internals : List Placed) : List Record :=
  ⟨.validation, 0⟩ :: DerivedRole.internal.records internals ++ [⟨.main, 0⟩]

/-- The ways in which a run ends. -/
inductive Course : Run → Prop
  | invalid {problems : List Problem} :
      validate t.parameters supplied = problems → problems ≠ [] →
      Course {
        stop := some (.failed ⟨.validation, .problems problems⟩)
        trace := [⟨.validation, 0⟩, ⟨.done, 0⟩] }
  | internalCycle {c : Cycle} :
      validate t.parameters supplied = [] →
      sequence engine.limits engine.order (t.derivedBy .internal) = .error c →
      Course {
        context := bindInputs t.parameters supplied
        stop := some (.failed ⟨.internal c.head, .cycle c⟩)
        trace := [⟨.validation, 0⟩, ⟨.done, 0⟩] }
  | internalFailure {before after : List Placed} {m : Placed} {context : Values}
      {e : FormulaError} :
      validate t.parameters supplied = [] →
      sequence engine.limits engine.order (t.derivedBy .internal) = .ok (before ++ m :: after) →
      Derives engine.limits [] (bindInputs t.parameters supplied) (before.map Placed.parameter)
        context →
      m.parameter.value engine.limits [context] = .error e →
      Course {
        context := context
        stop := some (.ofError (.internal m.name) e)
        trace := ⟨.validation, 0⟩ :: DerivedRole.internal.records (before ++ [m]) ++
          closingRecords (some (.ofError (.internal m.name) e)) }
  | primaryFailure {internals : List Placed} {context : Values} {e : FormulaError} :
      ReachesPrimary engine t supplied internals context →
      evaluate engine.limits t.formula [context] = .error e →
      Course {
        context := context
        stop := some (.ofError .main e)
        trace := recordsToPrimary internals ++ closingRecords (some (.ofError .main e)) }
  | outputCycle {internals : List Placed} {context : Values} {v : Value} {c : Cycle} :
      ReachesOutputs engine t supplied internals context v →
      sequence engine.limits engine.order (t.derivedBy .output) = .error c →
      Course {
        context := context
        results := primaryResults v
        stop := some (.failed ⟨.output c.head, .cycle c⟩)
        trace := recordsToPrimary internals ++ [⟨.done, 0⟩] }
  | outputFailure {internals before after : List Placed} {m : Placed} {context results : Values}
      {v : Value} {e : FormulaError} :
      ReachesOutputs engine t supplied internals context v →
      sequence engine.limits engine.order (t.derivedBy .output) = .ok (before ++ m :: after) →
      Derives engine.limits [context] (primaryResults v) (before.map Placed.parameter) results →
      m.parameter.value engine.limits [results, context] = .error e →
      Course {
        context := context
        results := results
        stop := some (.ofError (.output m.name) e)
        trace := recordsToPrimary internals ++ DerivedRole.output.records (before ++ [m]) ++
          closingRecords (some (.ofError (.output m.name) e)) }
  | finished {internals outputs : List Placed} {context results : Values} {v : Value} :
      ReachesOutputs engine t supplied internals context v →
      sequence engine.limits engine.order (t.derivedBy .output) = .ok outputs →
      Derives engine.limits [context] (primaryResults v) (outputs.map Placed.parameter) results →
      Course {
        context := context
        results := results
        trace := recordsToPrimary internals ++ DerivedRole.output.records outputs ++
          [⟨.done, 0⟩] }

end

namespace Run

/-- The primary formula fails, or its value becomes the results. -/
theorem evaluatePrimary_cases (engine : Engine) (t : Template) (r : Run) (hr : r.results = {}) :
    (∃ v, evaluate engine.limits t.formula [r.context] = .ok v ∧
      r.evaluatePrimary engine.limits t =
        { r with results := primaryResults v, trace := r.trace ++ [⟨.main, 0⟩] }) ∨
    (∃ e, evaluate engine.limits t.formula [r.context] = .error e ∧
      r.evaluatePrimary engine.limits t =
        { r with stop := some (.ofError .main e), trace := r.trace ++ [⟨.main, 0⟩] }) := by
  cases h : evaluate engine.limits t.formula [r.context] with
  | error e => exact .inr ⟨e, rfl, by simp [evaluatePrimary, record, halt, h]⟩
  | ok v =>
    refine .inl ⟨v, rfl, ?_⟩
    cases v <;> simp [evaluatePrimary, record, h, hr, primaryResults] <;> rfl

end Run

open Run

variable {engine : Engine} {t : Template} {supplied : Values} {internals : List Placed}
  {context : Values}

/-- A run that reaches its outputs takes a course. -/
theorem ReachesOutputs.course {v : Value}
    (hreach : ReachesOutputs engine t supplied internals context v) :
    Course engine t supplied
      (derive engine t .output
        { context, results := primaryResults v, trace := recordsToPrimary internals }).close := by
  cases houtputs : sequence engine.limits engine.order (t.derivedBy .output) with
  | error c =>
    have hcourse := Course.outputCycle hreach houtputs
    simpa [derive, DerivedRole.role, houtputs, fail, close, closingRecords, DerivedRole.stage]
      using hcourse
  | ok outputs =>
    simp only [derive, DerivedRole.role, houtputs]
    rcases deriveEach_cases engine.limits .output
      { context, results := primaryResults v, trace := recordsToPrimary internals } outputs rfl with
      ⟨results, hderived, h⟩ | ⟨before, m, after, results, e, rfl, hderived, he, h⟩
    · have hcourse := Course.finished hreach houtputs hderived
      simpa [h, close, closingRecords, DerivedRole.withLayer] using hcourse
    · have hcourse := Course.outputFailure hreach houtputs hderived he
      simpa [h, close, DerivedRole.stage, DerivedRole.withLayer] using hcourse

/-- A run that reaches its primary formula takes a course. -/
theorem ReachesPrimary.course (hreach : ReachesPrimary engine t supplied internals context) :
    Course engine t supplied
      (((evaluatePrimary engine.limits t
        { context, trace := ⟨.validation, 0⟩ :: DerivedRole.internal.records internals }).andThen
          (derive engine t .output)).close) := by
  rcases evaluatePrimary_cases engine t
    { context, trace := ⟨.validation, 0⟩ :: DerivedRole.internal.records internals } rfl with
    ⟨v, hv, h⟩ | ⟨e, he, h⟩
  · have hcourse := (ReachesOutputs.mk hreach hv).course
    simpa [h, recordsToPrimary] using hcourse
  · have hcourse := Course.primaryFailure hreach he
    simpa [h, close, recordsToPrimary] using hcourse

variable (engine t supplied) in
/-- Every run takes a course. -/
theorem calculate_course : Course engine t supplied (calculate engine t supplied) := by
  unfold calculate
  cases hvalid : validate t.parameters supplied with
  | cons problem problems =>
    have hcourse : Course engine t supplied _ := Course.invalid hvalid (List.cons_ne_nil _ _)
    simpa [validateInputs, hvalid, fail, record, close, closingRecords] using hcourse
  | nil =>
    simp only [validateInputs_of_valid hvalid, andThen_of_eq_none]
    cases hinternals : sequence engine.limits engine.order (t.derivedBy .internal) with
    | error c =>
      have hcourse := Course.internalCycle hvalid hinternals
      simpa [derive, DerivedRole.role, hinternals, fail, close, closingRecords, DerivedRole.stage]
        using hcourse
    | ok internals =>
      simp only [derive, DerivedRole.role, hinternals]
      rcases deriveEach_cases engine.limits .internal
        { context := bindInputs t.parameters supplied, trace := [⟨.validation, 0⟩] } internals
        rfl with
        ⟨context, hderived, h⟩ | ⟨before, m, after, context, e, rfl, hderived, he, h⟩
      · have hcourse := (ReachesPrimary.mk hvalid hinternals hderived).course
        simpa [h, DerivedRole.withLayer] using hcourse
      · have hcourse := Course.internalFailure hvalid hinternals hderived he
        simpa [h, close, DerivedRole.stage, DerivedRole.withLayer] using hcourse

/-- The outputs are derived too; so the run comes to its end. -/
structure Finishes (engine : Engine) (t : Template) (supplied : Values)
    (internals : List Placed) (context : Values) (v : Value) (outputs : List Placed)
    (results : Values) : Prop extends
    ReachesOutputs engine t supplied internals context v where
  sequencedOutputs : sequence engine.limits engine.order (t.derivedBy .output) = .ok outputs
  derivedOutputs : Derives engine.limits [context] (primaryResults v)
    (outputs.map Placed.parameter) results

/-- The run of a template up to the value of its primary formula. -/
def calculateToPrimary (engine : Engine) (t : Template) (supplied : Values) : Run :=
  (({} : Run).validateInputs t supplied)
    |>.andThen (derive engine t .internal)
    |>.andThen (evaluatePrimary engine.limits t)

variable (engine t supplied) in
theorem calculate_eq_andThen : calculate engine t supplied =
    ((calculateToPrimary engine t supplied).andThen (derive engine t .output)).close :=
  rfl

/-- A run that reaches its outputs has merged the value of its primary formula. -/
theorem ReachesOutputs.calculateToPrimary_eq {v : Value}
    (h : ReachesOutputs engine t supplied internals context v) :
    calculateToPrimary engine t supplied =
      { context, results := primaryResults v, trace := recordsToPrimary internals } := by
  have hinternals := deriveEach_of_derives engine.limits .internal
    { context := bindInputs t.parameters supplied, trace := [⟨.validation, 0⟩] } rfl h.derived
  simp only [calculateToPrimary, validateInputs_of_valid h.valid, andThen_of_eq_none, derive,
    DerivedRole.role, h.sequenced, hinternals, DerivedRole.withLayer]
  let trace : List Record := [⟨.validation, 0⟩] ++ DerivedRole.internal.records internals
  rcases evaluatePrimary_cases engine t { context, trace } rfl with ⟨w, hw, heq⟩ | ⟨e, he, -⟩
  · cases hw.symm.trans h.evaluated
    rw [heq]
    rfl
  · cases he.symm.trans h.evaluated

/-- A run that has not stopped up to its primary formula reaches its outputs. -/
theorem exists_reachesOutputs (h : (calculateToPrimary engine t supplied).stop = none) :
    ∃ internals v, ReachesOutputs engine t supplied internals
      (calculateToPrimary engine t supplied).context v := by
  cases hvalid : validate t.parameters supplied with
  | cons problem problems =>
    simp [calculateToPrimary, validateInputs, hvalid, fail, andThen] at h
  | nil =>
    cases hinternals : sequence engine.limits engine.order (t.derivedBy .internal) with
    | error c =>
      simp [calculateToPrimary, validateInputs_of_valid hvalid, derive, DerivedRole.role, hinternals,
        fail, andThen] at h
    | ok internals =>
      let r : Run := { context := bindInputs t.parameters supplied, trace := [⟨.validation, 0⟩] }
      have heq : calculateToPrimary engine t supplied =
          (r.deriveEach engine.limits .internal internals).andThen
            (evaluatePrimary engine.limits t) := by
        simp only [calculateToPrimary, validateInputs_of_valid hvalid, andThen_of_eq_none, derive,
          DerivedRole.role, hinternals, r]
      rcases deriveEach_cases engine.limits .internal r internals rfl with
        ⟨context, hderived, hr⟩ | ⟨before, m, after, context, e, rfl, hderived, he, hr⟩
      · let r' : Run := { context, trace := r.trace ++ DerivedRole.internal.records internals }
        rw [hr, andThen_of_eq_none rfl] at heq
        rcases evaluatePrimary_cases engine t r' rfl with ⟨v, hv, hr'⟩ | ⟨e, he, hr'⟩
        · have hcontext : (calculateToPrimary engine t supplied).context = context :=
            (congrArg Run.context heq).trans (congrArg Run.context hr')
          exact ⟨internals, v, ⟨hvalid, hinternals, hcontext ▸ hderived⟩, hcontext ▸ hv⟩
        · cases h.symm.trans ((congrArg Run.stop heq).trans (congrArg Run.stop hr'))
      · rw [hr, andThen_of_stop rfl] at heq
        cases h.symm.trans (congrArg Run.stop heq)

/-- A run that has come to its end had nothing else to do. -/
theorem Finishes.calculate_eq {v : Value} {outputs : List Placed} {results : Values}
    (h : Finishes engine t supplied internals context v outputs results) :
    calculate engine t supplied =
      { context, results, trace :=
          recordsToPrimary internals ++ DerivedRole.output.records outputs ++ [⟨.done, 0⟩] } := by
  have houtputs := deriveEach_of_derives engine.limits .output
    { context, results := primaryResults v, trace := recordsToPrimary internals } rfl
    h.derivedOutputs
  rw [calculate_eq_andThen, h.calculateToPrimary_eq, andThen_of_eq_none rfl, derive,
    DerivedRole.role, h.sequencedOutputs]
  simp only [houtputs, DerivedRole.withLayer, close, closingRecords]

/-- A run that nothing has stopped has come to its end. -/
theorem calculate_finishes (h : (calculate engine t supplied).stop = none) :
    ∃ internals v outputs, Finishes engine t supplied internals
      (calculate engine t supplied).context v outputs (calculate engine t supplied).results := by
  have hcourse := calculate_course engine t supplied
  generalize calculate engine t supplied = r at hcourse h
  cases hcourse with
  | finished hreach hsequence hderived => exact ⟨_, _, _, hreach, hsequence, hderived⟩
  | _ => cases h

/-- A run comes to its end with exactly the results that its equations lead to. -/
theorem execute_finishes_iff {results : Values} :
    ((execute engine t supplied).wasSuccessful ∧ (execute engine t supplied).results = results) ↔
      ∃ internals context v outputs,
        Finishes engine t supplied internals context v outputs results := by
  constructor
  · rintro ⟨hsuccess, rfl⟩
    have hstop := Run.wasSuccessful_ending.1 hsuccess
    obtain ⟨internals, v, outputs, h⟩ := calculate_finishes hstop
    have hresults : (execute engine t supplied).results = (calculate engine t supplied).results :=
      Run.results_ending (by simp [hstop])
    exact ⟨internals, _, v, outputs, hresults ▸ h⟩
  · rintro ⟨internals, context, v, outputs, h⟩
    rw [execute, h.calculate_eq]
    exact ⟨rfl, rfl⟩

end Formulary
