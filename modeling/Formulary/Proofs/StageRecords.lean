import Formulary.Proofs.Crashes
import Formulary.Proofs.Placement

/-!
# The records of a run

A run leaves a record whenever it enters a stage. Whoever gives up a run finds the stage that it
was in by the last record. So a record is left for each formula that is evaluated, its place is
that of the parameter whose formula is evaluated, and a formula that fails is that of the last
record. A circle is found before a formula of its role is evaluated, and leaves no record. A run that
crashes leaves no record of its end; its last record is that of the formula that it has crashed in.

## Main definitions

* `Stop.stage` : where a run was stopped;
* `evaluatedFrom` : the parameters whose formulas are evaluated, of some that are derived in turn;
* `evaluatedOf` : the parameters of a role whose formulas are evaluated in a run;
* `Run.Attributed` : a run that was stopped was stopped in the stage of its last record.

## Main statements

* `Run.trace_deriveEach`, `Run.trace_derive` : the records of a role are those of its evaluations;
* `Record.stage_of_mem_placed` : the stage that the record of a parameter stands for;
* `calculate_trace`, `calculate_attributed`, `records_follow_run` : the records of a whole run.
-/
namespace Formulary

namespace Stop

def stage : Stop → Stage
  | .failed f => f.stage
  | .crashed crash => crash.stage

/-- A run was stopped because of a circle. -/
def IsCyclic (stop : Stop) : Prop := ∃ f c, stop = .failed f ∧ f.cause = .cycle c

theorem stage_ofError (stage : Stage) (e : FormulaError) : (ofError stage e).stage = stage := by
  cases e <;> rfl

end Stop

theorem closingRecords_of_ne_crashed {stop : Option Stop}
    (h : ∀ crash, stop ≠ some (.crashed crash)) : closingRecords stop = [⟨.done, 0⟩] := by
  unfold closingRecords
  split
  · exact absurd rfl (h _)
  · rfl

/-- The parameters whose formulas are evaluated when some are derived one after the other: all of
them, or those up to the first whose formula has no value. -/
def evaluatedFrom (limits : Limits) (below : Scope) : Values → List Placed → List Placed
  | _, [] => []
  | layer, m :: rest =>
    m :: match m.parameter.value limits (layer :: below) with
      | .ok v => evaluatedFrom limits below (layer.insert m.name v) rest
      | .error _ => []

theorem evaluatedFrom_isPrefix (limits : Limits) (below : Scope) (layer : Values)
    (members : List Placed) : evaluatedFrom limits below layer members <+: members := by
  induction members generalizing layer with
  | nil => exact List.prefix_refl []
  | cons m rest ih =>
    rw [evaluatedFrom, List.cons_prefix_cons]
    refine ⟨rfl, ?_⟩
    split
    · exact ih _
    · exact List.nil_prefix

/-- The record of a parameter stands for the stage in which the parameter is derived. -/
theorem Record.stage_of_mem_placed {t : Template} {m : Placed} (h : m ∈ t.placed)
    (role : DerivedRole) : Record.stage ⟨role.kind, m.place⟩ t = role.stage m.name := by
  have hname : (t.parameters[m.place]?.map Parameter.name).getD "" = m.name := by
    rw [Template.mem_placed.1 h]
    rfl
  cases role <;> simp only [stage, DerivedRole.kind, DerivedRole.stage, hname]

namespace Run

variable (engine : Engine) (t : Template) (role : DerivedRole) {r : Run}

/-- The parameters of a role whose formulas are evaluated when a run goes on to them: none when it was
stopped before, and none when they are in a circle. -/
def evaluated (r : Run) : List Placed :=
  if r.stop.isSome then []
  else match sequence engine.limits engine.order (t.derivedBy role.role) with
    | .ok members => evaluatedFrom engine.limits (role.below r) (role.layer r) members
    | .error _ => []

/-- A run that was stopped, though not because of a circle, was stopped in the stage that its last
record stands for. -/
def Attributed (r : Run) : Prop :=
  ∀ stop, r.stop = some stop → ¬ stop.IsCyclic →
    ∃ before last, r.trace = before ++ [last] ∧ last.stage t = stop.stage

/-! ### One step -/

variable {role} in
/-- Parameters that are derived leave the records of those whose formulas are evaluated. -/
theorem trace_deriveEach (limits : Limits) (members : List Placed) (hr : r.stop = none) :
    (r.deriveEach limits role members).trace =
      r.trace ++ role.records (evaluatedFrom limits (role.below r) (role.layer r) members) := by
  induction members generalizing r with
  | nil => simp [deriveEach, evaluatedFrom, DerivedRole.records]
  | cons m rest ih =>
    rw [deriveEach, evaluatedFrom]
    cases hv : m.parameter.value limits (role.layer r :: role.below r) with
    | error e =>
      rw [deriveOne_error hv, andThen_of_stop rfl]
      rfl
    | ok v =>
      have hone := deriveOne_ok hv
      have hstop : (r.deriveOne limits role m).stop = none := by
        rw [hone, ← hr]
        exact role.stop_withLayer _ r
      rw [andThen_of_eq_none hstop, ih hstop, hone, role.layer_withLayer,
        role.below_withLayer, List.append_assoc]
      rfl

/-- Deriving the parameters of a role leaves the records of those whose formulas are evaluated. -/
theorem trace_derive (r : Run) :
    (r.andThen (derive engine t role)).trace =
      r.trace ++ role.records (r.evaluated engine t role) := by
  cases hr : r.stop with
  | some stop => simp [andThen, evaluated, hr, DerivedRole.records]
  | none =>
    rw [andThen_of_eq_none hr, derive, evaluated, hr]
    cases sequence engine.limits engine.order (t.derivedBy role.role) with
    | error c => simp [fail, DerivedRole.records]
    | ok members => exact trace_deriveEach engine.limits members hr

/-- The primary formula leaves a record when it is evaluated. -/
theorem trace_evaluatePrimary (limits : Limits) (r : Run) :
    (r.andThen (evaluatePrimary limits t)).trace =
      r.trace ++ if r.stop.isNone then [⟨.main, 0⟩] else [] := by
  cases hr : r.stop with
  | some stop => simp [andThen, hr]
  | none =>
    rw [andThen_of_eq_none hr, evaluatePrimary]
    split <;> rfl

variable {t}

theorem attributed_of_stop_eq_none (h : r.stop = none) : r.Attributed t :=
  fun _ hstop => nomatch h.symm.trans hstop

theorem Attributed.andThen {next : Run → Run} (h : r.Attributed t)
    (hnext : r.stop = none → (next r).Attributed t) : (r.andThen next).Attributed t := by
  cases hr : r.stop with
  | some stop => rwa [andThen_of_stop hr]
  | none =>
    rw [andThen_of_eq_none hr]
    exact hnext hr

theorem attributed_validateInputs (supplied : Values) :
    (({} : Run).validateInputs t supplied).Attributed t := by
  unfold validateInputs
  split
  · exact attributed_of_stop_eq_none rfl
  · rintro stop ⟨⟩ -
    exact ⟨[], _, rfl, rfl⟩

/-- The parameter whose formula has no value is the last one that has left a record. -/
theorem attributed_derive (hr : r.stop = none) : (derive engine t role r).Attributed t := by
  unfold derive
  cases hsequence : sequence engine.limits engine.order (t.derivedBy role.role) with
  | error c =>
    rintro stop ⟨⟩ hcyclic
    exact absurd ⟨_, c, rfl, rfl⟩ hcyclic
  | ok members =>
    obtain ⟨last, -, h⟩ | ⟨before, m, after, last, e, rfl, -, -, h⟩ :=
      deriveEach_cases engine.limits role r members hr
    · exact attributed_of_stop_eq_none ((congrArg Run.stop h).trans
        ((role.stop_withLayer last r).trans hr))
    · have hm : m ∈ t.placed := by
        have hmem : m ∈ before ++ m :: after := by simp
        exact (Template.mem_derivedBy.1 ((sequence_perm hsequence).subset hmem)).1
      simp only [h]
      rintro stop ⟨⟩ -
      refine ⟨r.trace ++ role.records before, ⟨role.kind, m.place⟩, ?_, ?_⟩
      · simp [DerivedRole.records]
      · rw [Stop.stage_ofError]
        exact Record.stage_of_mem_placed hm role

theorem attributed_evaluatePrimary (limits : Limits) (hr : r.stop = none) :
    (evaluatePrimary limits t r).Attributed t := by
  simp only [evaluatePrimary]
  split
  · exact attributed_of_stop_eq_none hr
  · exact attributed_of_stop_eq_none hr
  · rintro stop ⟨⟩ -
    exact ⟨r.trace, _, rfl, (Stop.stage_ofError _ _).symm⟩

end Run

/-! ### Whole runs -/

open Run

variable (engine : Engine) (t : Template) (supplied : Values)

/-- The run of a template up to its inputs. -/
def calculateToInputs : Run := ({} : Run).validateInputs t supplied

def calculateToInternals : Run :=
  (calculateToInputs t supplied).andThen (derive engine t .internal)

/-- The parameters of a role whose formulas are evaluated in the run of a template. -/
def evaluatedOf : DerivedRole → List Placed
  | .internal => (calculateToInputs t supplied).evaluated engine t .internal
  | .output => (calculateToPrimary engine t supplied).evaluated engine t .output

theorem trace_calculateToInputs : (calculateToInputs t supplied).trace = [⟨.validation, 0⟩] := by
  unfold calculateToInputs validateInputs
  split <;> rfl

/-- A run leaves a record when it validates its inputs, one for each formula that it evaluates, and
one at its end, unless it crashes. -/
theorem calculate_trace :
    (calculate engine t supplied).trace =
      [⟨.validation, 0⟩] ++
        DerivedRole.internal.records (evaluatedOf engine t supplied .internal) ++
        (if (calculateToInternals engine t supplied).stop.isNone then [⟨.main, 0⟩] else []) ++
        DerivedRole.output.records (evaluatedOf engine t supplied .output) ++
        closingRecords (calculate engine t supplied).stop := by
  have hprimary : calculateToPrimary engine t supplied =
      (calculateToInternals engine t supplied).andThen (evaluatePrimary engine.limits t) := rfl
  simp only [calculate_eq_andThen, close, trace_derive, hprimary, trace_evaluatePrimary,
    calculateToInternals, trace_calculateToInputs]
  rfl

theorem attributed_calculateToPrimary : (calculateToPrimary engine t supplied).Attributed t :=
  ((attributed_validateInputs supplied).andThen (attributed_derive engine .internal)).andThen
    (attributed_evaluatePrimary engine.limits)

/-- A run that was stopped, though not because of a circle, was stopped in the stage that the last
record before its end stands for. -/
theorem calculate_attributed {stop : Stop} (hstop : (calculate engine t supplied).stop = some stop)
    (hcyclic : ¬ stop.IsCyclic) :
    ∃ before last, (calculate engine t supplied).trace =
      before ++ last :: closingRecords (some stop) ∧ last.stage t = stop.stage := by
  have hattributed := (attributed_calculateToPrimary engine t supplied).andThen
    (attributed_derive engine .output)
  obtain ⟨before, last, htrace, hstage⟩ := hattributed stop hstop hcyclic
  refine ⟨before, last, ?_, hstage⟩
  rw [← hstop, calculate_eq_andThen, close, htrace, List.append_assoc]
  rfl

/-- A run that crashes leaves no record of its end. -/
theorem done_notMem_trace {crash : Crash}
    (hcrash : (calculate engine t supplied).stop = some (.crashed crash)) (place : Nat) :
    ⟨.done, place⟩ ∉ (calculate engine t supplied).trace := by
  rw [calculate_trace, hcrash]
  simp [closingRecords, DerivedRole.records, DerivedRole.kind]

/-- The formulas that are evaluated are those of parameters of the role, each of them once. -/
theorem evaluatedOf_subperm (role : DerivedRole) :
    (evaluatedOf engine t supplied role).Subperm (t.derivedBy role.role) := by
  have hevaluated (r : Run) : (r.evaluated engine t role).Subperm (t.derivedBy role.role) := by
    unfold Run.evaluated
    split
    · exact List.nil_subperm
    · split
      · exact (evaluatedFrom_isPrefix ..).sublist.subperm.trans (sequence_perm ‹_›).subperm
      · exact List.nil_subperm
  cases role <;> exact hevaluated _

theorem nodup_places_evaluatedOf (role : DerivedRole) :
    ((evaluatedOf engine t supplied role).map Placed.place).Nodup := by
  obtain ⟨members, hperm, hsublist⟩ := evaluatedOf_subperm engine t supplied role
  rw [← (hperm.map Placed.place).nodup_iff, List.nodup_iff_pairwise_ne, List.pairwise_map]
  exact ((t.pairwise_derivedBy role.role).sublist hsublist).imp Nat.ne_of_lt

/-- The records of a run are those of what it validates and evaluates, one by one and in turn. The
place in a record is that of the parameter whose formula is evaluated then. The last record before
the end is that of the stage in which the run has failed, unless a circle is the reason. A run that
crashes leaves no record of its end, and its last record is that of the stage in which it has crashed;
but none crashes when no `NaN` is supplied. -/
theorem records_follow_run (engine : Engine) (t : Template) (supplied : Values) :
    let final := calculate engine t supplied
    final.trace =
      [⟨.validation, 0⟩] ++
        DerivedRole.internal.records (evaluatedOf engine t supplied .internal) ++
        (if (calculateToInternals engine t supplied).stop.isNone then [⟨.main, 0⟩] else []) ++
        DerivedRole.output.records (evaluatedOf engine t supplied .output) ++
        closingRecords final.stop ∧
    (∀ role, ((evaluatedOf engine t supplied role).map Placed.place).Nodup ∧
      ∀ m ∈ evaluatedOf engine t supplied role, t.parameters[m.place]? = some m.parameter ∧
        m.parameter.role = role.role ∧ m.parameter.formulaSource?.isSome ∧
        Record.stage ⟨role.kind, m.place⟩ t = role.stage m.name) ∧
    (∀ f, final.failure = some f → (∀ c, f.cause ≠ .cycle c) →
      ∃ before last, final.trace = before ++ [last, ⟨.done, 0⟩] ∧ last.stage t = f.stage) ∧
    (∀ crash, final.stop = some (.crashed crash) → (∀ place, ⟨.done, place⟩ ∉ final.trace) ∧
      ∃ before last, final.trace = before ++ [last] ∧ last.stage t = crash.stage) ∧
    (supplied.HasNoNaN → closingRecords final.stop = [⟨.done, 0⟩]) := by
  intro final
  refine ⟨calculate_trace engine t supplied, fun role => ?_, fun f hf hcause => ?_,
    fun crash hcrash => ?_, fun hsupplied => ?_⟩
  · refine ⟨nodup_places_evaluatedOf engine t supplied role, fun m hm => ?_⟩
    obtain ⟨hplaced, hrole, hformula⟩ :=
      Template.mem_derivedBy.1 ((evaluatedOf_subperm engine t supplied role).subset hm)
    exact ⟨Template.mem_placed.1 hplaced, hrole, hformula, Record.stage_of_mem_placed hplaced role⟩
  · refine calculate_attributed engine t supplied (failure_eq_some_iff.1 hf) ?_
    rintro ⟨_, c, ⟨⟩, hc⟩
    exact hcause c hc
  · refine ⟨done_notMem_trace engine t supplied hcrash, ?_⟩
    refine calculate_attributed engine t supplied hcrash ?_
    rintro ⟨_, c, ⟨⟩, -⟩
  · have hsound := sound_calculate isNumeric_not_isNaN engine t fun _ =>
      all_bindInputs isNumeric_not_isNaN t.parameters hsupplied
    exact closingRecords_of_ne_crashed hsound.stop

/-- The last record of a run that is supplied a `NaN` is that of its primary formula. -/
theorem not_forall_trace_done : ¬ ∀ (engine : Engine) (t : Template) (supplied : Values),
    ∃ before, (calculate engine t supplied).trace = before ++ [⟨.done, 0⟩] := by
  intro h
  obtain ⟨before, htrace⟩ := h {} boundTemplate boundValues
  have hlast := congrArg List.getLast? (execute_boundTemplate.2.symm.trans htrace)
  simp at hlast

end Formulary
