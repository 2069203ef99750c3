import Formulary.Proofs.Finite.Run
import Formulary.Proofs.Placement

/-!
# The shape of an outcome

An outcome tells in several ways how a run went: whether it succeeded, at which stage it stopped and
why, with one text of both, and which problems its inputs have. These always fit together. The
results have exactly the names that the stages add which the run has passed: none before the primary
formula has a value, then those of its value, and at the end those of the outputs as well. A run has
such an outcome unless it crashes, for which a `NaN` has to be supplied.

## Main definitions

* `Outcome.Consistent` : what an outcome tells of a failure fits together;
* `Outcome.NamesReached` : the results have the names that the run has come to.

## Main statements

* `Course.stage_eq_validation_iff` : the inputs have problems exactly in the first stage;
* `Derives.mem_names_iff` : deriving outputs adds their names to those of the primary result;
* `execute_shape` : every outcome is consistent and has the names that its run has come to.
-/
namespace Formulary

variable {engine : Engine} {t : Template} {supplied context results : Values} {r : Run}
  {f : Failure} {name : String}

namespace Outcome

variable {o : Outcome}

/-- What an outcome tells of a failure fits together. -/
structure Consistent (o : Outcome) : Prop where
  successful_iff_failure : o.wasSuccessful ↔ o.failure = none
  successful_iff_message : o.wasSuccessful ↔ o.errorMessage = none
  message : ∀ f, o.failure = some f → o.errorMessage = some (f.stage.text ++ ": " ++ f.message)
  errors_iff : o.validationErrors ≠ [] ↔ ∃ f, o.failure = some f ∧ f.stage = .validation
  joined : ∀ f, o.failure = some f → f.stage = .validation →
    f.message = String.intercalate "; " o.validationErrors

/-- The results have the names that the run has come to: none before the outputs, those of the
primary value as soon as there is one, and at the end also those of all outputs that have a
formula. -/
structure NamesReached (engine : Engine) (t : Template) (supplied context : Values)
    (o : Outcome) : Prop where
  before_outputs : ∀ f, o.failure = some f →
    (f.stage = .validation ∨ (∃ p, f.stage = .internal p) ∨ f.stage = .main) → o.results = .empty
  at_output : ∀ f p, o.failure = some f → f.stage = .output p →
    ∃ internals v, ReachesOutputs engine t supplied internals context v ∧
      (∀ name ∈ v.resultNames, name ∈ o.results.names) ∧
      ∀ name ∈ o.results.names,
        name ∈ v.resultNames ∨ name ∈ (t.derivedParameters .output).map Parameter.name
  at_end : o.failure = none →
    ∃ internals v, ReachesOutputs engine t supplied internals context v ∧
      ∀ name, name ∈ o.results.names ↔
        name ∈ v.resultNames ∨ name ∈ (t.derivedParameters .output).map Parameter.name

theorem validationErrors_of_cause {problems : List Problem} (hf : o.failure = some f)
    (hcause : f.cause = .problems problems) :
    o.validationErrors = problems.map Problem.message := by
  obtain ⟨stage, cause⟩ := f
  cases hcause
  simp [validationErrors, hf]

/-- Problems are listed only for a failure that they are the cause of. -/
theorem exists_cause_of_validationErrors (h : o.validationErrors ≠ []) :
    ∃ f problems, o.failure = some f ∧ f.cause = .problems problems := by
  unfold validationErrors at h
  split at h
  · rename_i stage problems hf
    exact ⟨_, problems, hf, rfl⟩
  · exact absurd rfl h

end Outcome

namespace Course

/-- A run stops in its first stage exactly when the inputs have problems. -/
theorem stage_eq_validation_iff (h : Course engine t supplied r) (hf : r.failure = some f) :
    f.stage = .validation ↔ ∃ problems ≠ [], f.cause = .problems problems := by
  cases h with
  | invalid _ hproblems =>
    cases hf
    exact ⟨fun _ => ⟨_, hproblems, rfl⟩, fun _ => rfl⟩
  | finished => cases hf
  | internalCycle | outputCycle =>
    cases hf
    simp
  | internalFailure | primaryFailure | outputFailure =>
    obtain rfl := Run.eq_of_failure_eq_some rfl hf
    simp

/-- What is reported of a run fits together. -/
theorem consistent (h : Course engine t supplied r) : r.outcome.Consistent where
  successful_iff_failure := Option.isNone_iff_eq_none
  successful_iff_message := Option.isNone_iff_eq_none.trans Option.map_eq_none_iff.symm
  message f hf := congrArg (Option.map Failure.text) hf
  errors_iff := by
    constructor
    · intro herrors
      obtain ⟨f, problems, hf, hcause⟩ := Outcome.exists_cause_of_validationErrors herrors
      have hne : problems ≠ [] := by
        rintro rfl
        exact herrors (Outcome.validationErrors_of_cause hf hcause)
      exact ⟨f, hf, (h.stage_eq_validation_iff hf).2 ⟨problems, hne, hcause⟩⟩
    · rintro ⟨f, hf, hstage⟩
      obtain ⟨problems, hne, hcause⟩ := (h.stage_eq_validation_iff hf).1 hstage
      rw [Outcome.validationErrors_of_cause hf hcause]
      exact mt List.map_eq_nil_iff.1 hne
  joined f hf hstage := by
    obtain ⟨problems, -, hcause⟩ := (h.stage_eq_validation_iff hf).1 hstage
    rw [Outcome.validationErrors_of_cause hf hcause, Failure.message, hcause, Cause.message,
      joinProblems]

end Course

/-- Deriving parameters adds their names to those of the primary result, and takes none away. -/
theorem Derives.mem_names_iff {limits : Limits} {below : Scope} {v : Value}
    {parameters : List Parameter} (h : Derives limits below (primaryResults v) parameters results) :
    name ∈ results.names ↔ name ∈ v.resultNames ∨ name ∈ parameters.map Parameter.name := by
  rw [NameMap.mem_names, h.isSome_get?, ← NameMap.mem_names, mem_names_primaryResults, or_comm]

/-- In whichever order they are derived, the parameters of a role have the names that the template
declares. -/
theorem mem_names_sequence {role : Role} {members : List Placed}
    (h : sequence engine.limits engine.order (t.derivedBy role) = .ok members) :
    name ∈ (members.map Placed.parameter).map Parameter.name ↔
      name ∈ (t.derivedParameters role).map Parameter.name := by
  rw [← t.map_derivedBy]
  exact (((sequence_perm h).map Placed.parameter).map Parameter.name).mem_iff

namespace Course

/-- The results have the names that the run has come to, unless it has crashed. -/
theorem namesReached (h : Course engine t supplied r)
    (hcrash : ∀ crash, r.stop ≠ some (.crashed crash)) :
    r.outcome.NamesReached engine t supplied r.context := by
  cases h with
  | invalid | internalCycle =>
    constructor
    · intro f hf hstage
      rfl
    · intro f p hf hstage
      cases hf
      cases hstage
    · intro hf
      cases hf
  | internalFailure | primaryFailure =>
    constructor
    · intro f hf hstage
      rfl
    · intro f p hf hstage
      obtain rfl := Run.eq_of_failure_eq_some rfl hf
      cases hstage
    · intro hf
      cases Run.stop_eq_none_of_failure hcrash hf
  | outputCycle hreach hcycle =>
    constructor
    · intro f hf hstage
      cases hf
      simp at hstage
    · intro f p hf hstage
      exact ⟨_, _, hreach, fun name => mem_names_primaryResults.2,
        fun name hname => .inl (mem_names_primaryResults.1 hname)⟩
    · intro hf
      cases hf
  | @outputFailure internals before after m context results v e hreach hsequence hderived hvalue =>
    constructor
    · intro f hf hstage
      obtain rfl := Run.eq_of_failure_eq_some rfl hf
      simp at hstage
    · intro f p hf hstage
      refine ⟨internals, v, hreach, fun name hname => hderived.mem_names_iff.2 (.inl hname), ?_⟩
      intro name hname
      refine (hderived.mem_names_iff.1 hname).imp_right fun hmem => ?_
      -- The outputs that were derived before the one that fails are some of all outputs.
      rw [← mem_names_sequence hsequence, List.map_append, List.map_append]
      exact List.mem_append_left _ hmem
    · intro hf
      cases Run.stop_eq_none_of_failure hcrash hf
  | finished hreach hsequence hderived =>
    constructor
    · intro f hf
      cases hf
    · intro f p hf
      cases hf
    · intro hf
      refine ⟨_, _, hreach, fun name => ?_⟩
      rw [← mem_names_sequence hsequence]
      exact hderived.mem_names_iff

end Course

/-- Whatever happens in a run, its outcome is consistent, and its results have the names of the
stages that it has come to. There is an outcome when no `NaN` is supplied. -/
theorem execute_shape (engine : Engine) (t : Template) (supplied : Values) :
    (∀ o, execute engine t supplied = .ok o →
      o.Consistent ∧ o.NamesReached engine t supplied (calculate engine t supplied).context) ∧
    (supplied.HasNoNaN → ∃ o, execute engine t supplied = .ok o) := by
  refine ⟨fun o ho => ?_, fun h => ⟨_, execute_eq_outcome engine t h⟩⟩
  obtain ⟨hcrash, rfl⟩ := Run.ending_eq_ok_iff.1 ho
  have hcourse : Course engine t supplied (calculate engine t supplied) :=
    calculate_course engine t supplied
  exact ⟨hcourse.consistent, hcourse.namesReached hcrash⟩

/-- A surface with two results, of which an output replaces one. -/
def surfaceTemplate : Template where
  name := "Surface"
  formula := "\x7b area: side * side, unit: 'm' \x7d"
  parameters := [
    { Parameter.input "side" .number with isRequired := true },
    .output "unit" .string "unit + '²'"]

/-- A run for a side of 3 has an outcome of this shape, and so has one for which no side is supplied. -/
theorem execute_shape_surfaceTemplate :
    let side : Values := .ofEntries [("side", .number 3)]
    (∃ o, execute {} surfaceTemplate side = .ok o ∧ o.Consistent ∧
      o.NamesReached {} surfaceTemplate side (calculate {} surfaceTemplate side).context) ∧
    ∃ o, execute {} surfaceTemplate .empty = .ok o ∧ o.Consistent ∧
      o.NamesReached {} surfaceTemplate .empty (calculate {} surfaceTemplate .empty).context := by
  intro side
  have hside : side.HasNoNaN := by decide +kernel
  obtain ⟨hshape, hsome⟩ := execute_shape {} surfaceTemplate side
  obtain ⟨hshape', hsome'⟩ := execute_shape {} surfaceTemplate .empty
  obtain ⟨o, ho⟩ := hsome hside
  obtain ⟨o', ho'⟩ := hsome' NameMap.all_empty
  exact ⟨⟨o, ho, hshape o ho⟩, o', ho', hshape' o' ho'⟩

end Formulary
