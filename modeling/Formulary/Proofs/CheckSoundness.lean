import Formulary.Proofs.Checked
import Formulary.Proofs.EvaluationErrors
import Formulary.Proofs.FirstFault
import Formulary.Proofs.InputAgreement

/-!
# The check of a template is sound

A run of a template in which the check finds nothing can still fail: for its inputs, for the
operands of an operation, or, in an output, for a name that only the primary result could have
bound. All other failures are ruled out for every input.

## Main definitions

* `Failure.EscapesCheck` : the failures that a check leaves to the runs.

## Main statements

* `Checked.isSome_context` : what is bound when a run goes on to its primary formula;
* `check_sound` : a run of a checked template fails in no other way.
-/
namespace Formulary

/-- The failures that a check without findings leaves to the runs. -/
structure Failure.EscapesCheck (engine : Engine) (t : Template) (f : Failure) : Prop where
  pattern : ∀ problems, f.cause = .problems problems → ∀ problem ∈ problems,
    ∀ pattern refusal, problem.violation ≠ .invalidPattern pattern refusal
  cycle : ∀ c, f.cause ≠ .cycle c
  reading : ∀ e, f.cause = .formula e → e.isOfReading = false
  /-- A name that is bound nowhere is read by an output, and it belongs to no input, to no internal
  and to no output that comes before. -/
  undefined : ∀ name, f.cause = .formula (.undefinedVariable name) →
    ∃ before m after, f.stage = .output m.name ∧
      sequence engine.limits engine.order (t.derivedBy .output) = .ok (before ++ m :: after) ∧
      (∀ p ∈ t.parameters, p.name = name → p.role = .output) ∧ name ∉ before.map Placed.name

variable {engine : Engine} {t : Template} {supplied context : Values} {internals : List Placed}
  {name : String}

theorem Failure.EscapesCheck.of_isOperational {stage : Stage} {e : FormulaError}
    (h : e.isOperational) : Failure.EscapesCheck engine t ⟨stage, .formula e⟩ where
  pattern := by simp
  cycle := by simp
  reading := by
    rintro _ ⟨⟩
    cases e <;> first | rfl | cases h
  undefined := by
    rintro name ⟨⟩
    cases h

/-- Evaluating a formula that can be parsed fails for operands or for a name that it reads. -/
theorem evaluate_blamed {limits : Limits} {source : String} {expr : Expr} {scope : Scope}
    {e : FormulaError} (hparse : Formula.parse limits source = .ok expr)
    (h : evaluate limits source scope = .error e) :
    e.isOperational ∨
      ∃ name ∈ expr.references, scope.lookup name = none ∧ e = .undefinedVariable name := by
  rw [evaluate, hparse] at h
  have hblamed := (expr.eval_blamed scope).of_error h
  simpa only [Expr.Blamed, Expr.mem_references] using hblamed

/-- No problem of an input whose pattern compiles is about the pattern itself. -/
theorem Parameter.violation?_ne_invalidPattern {p : Parameter}
    (hp : ∀ pattern refusal, p.pattern = some pattern →
      Pattern.compileAnchored pattern ≠ .error refusal)
    (pattern : String) (refusal : Pattern.Refusal) :
    p.violation? supplied ≠ some (.invalidPattern pattern refusal) := by
  have hpattern (s : String) : p.patternViolation? s ≠ some (.invalidPattern pattern refusal) := by
    unfold patternViolation?
    cases h : p.pattern with
    | none => simp
    | some source =>
      rw [Option.bind_some]
      split
      · split <;> simp
      · exact absurd ‹_› (hp source _ h)
  have hvalue (v : Value) : p.valueViolation? v ≠ some (.invalidPattern pattern refusal) := by
    unfold valueViolation? boundViolation?
    split
    case h_2 => exact hpattern _
    all_goals (repeat' split) <;> simp
  unfold violation?
  split
  · exact hvalue _
  · split <;> simp

namespace Checked

theorem value_blamed (h : Checked engine t) {m : Placed} (hm : m ∈ t.placed)
    (hrole : m.parameter.role ≠ .input) {scope : Scope} {e : FormulaError}
    (he : m.parameter.value engine.limits scope = .error e) :
    e.isOperational ∨
      ∃ name ∈ m.reads engine.limits, scope.lookup name = none ∧ e = .undefinedVariable name := by
  obtain ⟨source, expr, hsource, hparse⟩ :=
    h.derivedParses _ (Template.mem_parameters_of_mem_placed hm) hrole
  rw [Parameter.value_eq hsource] at he
  simpa [Placed.reads, Parameter.reads, hsource, hparse] using evaluate_blamed hparse he

/-- Inputs are bound from the start, and internals when they have been derived. -/
theorem isSome_get? {before : List Placed} {m : Placed}
    (hderived : Derives engine.limits [] (bindInputs t.parameters supplied)
      (before.map Placed.parameter) context)
    (hm : m ∈ t.placed) (hbound : m.parameter.role = .input ∨ m ∈ before) :
    (context.get? m.name).isSome := by
  rw [hderived.isSome_get?, bindInputs_isSome]
  rcases hbound with hinput | hbefore
  · exact .inr ⟨m.parameter, Template.mem_parameters_of_mem_placed hm,
      by simp [Parameter.isInput, hinput], rfl⟩
  · exact .inl (Placed.map_name before ▸ List.mem_map_of_mem hbefore)

/-- All inputs and internals are bound when a run goes on to its primary formula. -/
theorem isSome_context (h : Checked engine t)
    (hreach : ReachesPrimary engine t supplied internals context) {m : Placed}
    (hm : m ∈ t.placed) (hrole : m.parameter.role ≠ .output) :
    (context.get? m.name).isSome := by
  refine isSome_get? hreach.derived hm ?_
  cases hm' : m.parameter.role with
  | input => exact .inl rfl
  | internal =>
    exact .inr ((sequence_perm hreach.sequenced).mem_iff.2 (h.mem_derivedBy hm hm' (by simp)))
  | output => exact absurd hm' hrole

/-- A problem of the inputs is none of their patterns. -/
theorem problems_escapesCheck (h : Checked engine t) :
    Failure.EscapesCheck engine t ⟨.validation, .problems (validate t.parameters supplied)⟩ := by
  refine ⟨?_, by simp, by simp, by simp⟩
  rintro _ ⟨⟩ problem hproblem pattern refusal
  simp only [validate, List.mem_filterMap, Option.map_eq_some_iff] at hproblem
  obtain ⟨p, hp, violation, hviolation, rfl⟩ := hproblem
  rintro rfl
  exact Parameter.violation?_ne_invalidPattern
    (h.patternCompiles p (List.mem_of_mem_filter hp)) pattern refusal hviolation

/-- An internal fails for operands only: what it reads is bound. -/
theorem internal_isOperational (h : Checked engine t) {before after : List Placed} {m : Placed}
    (hsequence : sequence engine.limits engine.order (t.derivedBy .internal) =
      .ok (before ++ m :: after))
    (hderived : Derives engine.limits [] (bindInputs t.parameters supplied)
      (before.map Placed.parameter) context) {e : FormulaError}
    (he : m.parameter.value engine.limits [context] = .error e) : e.isOperational := by
  obtain ⟨hm, hrole, -⟩ := Template.mem_derivedBy.1
    ((sequence_perm hsequence).mem_iff.1 (List.mem_append_right before List.mem_cons_self))
  refine (h.value_blamed hm (by simp [hrole]) he).resolve_right ?_
  rintro ⟨name, hname, hnone, rfl⟩
  have hvisible := h.derivedReads m hm (by simp [hrole]) name hname
  simp only [Template.mayRead, hrole, bne_self_eq_false, Bool.false_and, Bool.or_false] at hvisible
  obtain ⟨n, hn, rfl, hbefore⟩ := Template.exists_of_visibleTo hvisible
  have hbound : n.parameter.role = .input ∨ n ∈ before :=
    hbefore.imp_right fun ⟨hinternal, hplace⟩ =>
      h.mem_before hsequence (h.mem_derivedBy hn hinternal (by simp)) hname hplace
  have hsome := isSome_get? hderived hn hbound
  rw [Scope.lookup_cons, Option.or_eq_none_iff] at hnone
  simp [hnone.1] at hsome

/-- The primary formula fails for operands only: what it reads is bound. -/
theorem primary_isOperational (h : Checked engine t)
    (hreach : ReachesPrimary engine t supplied internals context) {e : FormulaError}
    (he : evaluate engine.limits t.formula [context] = .error e) : e.isOperational := by
  obtain ⟨expr, hparse, hreads⟩ := h.primaryReads
  refine (evaluate_blamed hparse he).resolve_right ?_
  rintro ⟨name, hname, hnone, rfl⟩
  obtain ⟨n, hn, rfl, hrole⟩ := Template.exists_of_visibleToPrimary (hreads name hname)
  have hsome := h.isSome_context hreach hn hrole
  rw [Scope.lookup_cons, Option.or_eq_none_iff] at hnone
  simp [hnone.1] at hsome

/-- An output fails for operands, or for a name that is no input, no internal and no output before
it. -/
theorem output_escapesCheck (h : Checked engine t)
    (hreach : ReachesPrimary engine t supplied internals context) {before after : List Placed}
    {m : Placed} {start results : Values} {e : FormulaError}
    (hsequence : sequence engine.limits engine.order (t.derivedBy .output) =
      .ok (before ++ m :: after))
    (hderived : Derives engine.limits [context] start (before.map Placed.parameter) results)
    (he : m.parameter.value engine.limits [results, context] = .error e) :
    Failure.EscapesCheck engine t ⟨.output m.name, .formula e⟩ := by
  obtain ⟨hm, hrole, -⟩ := Template.mem_derivedBy.1
    ((sequence_perm hsequence).mem_iff.1 (List.mem_append_right before List.mem_cons_self))
  rcases h.value_blamed hm (by simp [hrole]) he with hoperational | ⟨name, -, hnone, rfl⟩
  · exact .of_isOperational hoperational
  · rw [Scope.lookup_cons, Scope.lookup_cons, Option.or_eq_none_iff, Option.or_eq_none_iff] at hnone
    obtain ⟨hresults, hcontext, -⟩ := hnone
    refine ⟨by simp, by simp, ?_, ?_⟩
    · rintro _ ⟨⟩
      rfl
    · rintro _ ⟨⟩
      refine ⟨before, m, after, rfl, hsequence, fun p hp hname => ?_, fun hbefore => ?_⟩
      · by_contra houtput
        obtain ⟨n, hn, rfl⟩ := Template.exists_placed hp
        have hsome := h.isSome_context hreach hn houtput
        rw [show n.name = name from hname, hcontext] at hsome
        cases hsome
      · have hsome := hderived.isSome_get?.2 (.inl (Placed.map_name before ▸ hbefore))
        rw [hresults] at hsome
        cases hsome

end Checked

/-- A run of a template in which the check finds nothing never fails for an error of reading a
formula, for a circle, for a pattern, or for a name that is bound nowhere, unless an output reads a
name that neither the inputs, the internals nor the outputs before it have. -/
theorem check_sound {failure : Failure} (hcheck : t.check engine = [])
    (hfailure : (execute engine t supplied).failure = some failure) :
    failure.EscapesCheck engine t := by
  have h := checked_of_check hcheck
  have hcourse := calculate_course engine t supplied
  replace hfailure : (calculate engine t supplied).failure = some failure :=
    (Run.failure_ending _).symm.trans hfailure
  generalize calculate engine t supplied = r at hcourse hfailure
  cases hcourse with
  | invalid hproblems =>
    cases hfailure
    exact hproblems ▸ h.problems_escapesCheck
  | internalCycle _ hcycle =>
    obtain ⟨members, hmembers⟩ := h.sequenced .internal (by simp)
    cases hcycle.symm.trans hmembers
  | internalFailure _ hsequence hderived he =>
    obtain rfl := Run.eq_of_failure_eq_some rfl hfailure
    exact .of_isOperational (h.internal_isOperational hsequence hderived he)
  | primaryFailure hreach he =>
    obtain rfl := Run.eq_of_failure_eq_some rfl hfailure
    exact .of_isOperational (h.primary_isOperational hreach he)
  | outputCycle _ hcycle =>
    obtain ⟨members, hmembers⟩ := h.sequenced .output (by simp)
    cases hcycle.symm.trans hmembers
  | outputFailure hreach hsequence hderived he =>
    obtain rfl := Run.eq_of_failure_eq_some rfl hfailure
    exact h.output_escapesCheck hreach.toReachesPrimary hsequence hderived he
  | finished => cases hfailure

/-- An output that reads a name which the primary result may bind. -/
def hopefulTemplate : Template where
  name := "Hopeful"
  formula := "source"
  parameters := [.input "source" .object, .output "copy" .string "field"]

/-- The name is bound by some results only. -/
theorem check_sound_hopefulTemplate :
    hopefulTemplate.check {} = [] ∧ ∃ failure,
      (execute {} hopefulTemplate .empty).failure = some failure ∧
        failure.EscapesCheck {} hopefulTemplate := by
  have hcheck : hopefulTemplate.check {} = [] := List.isEmpty_iff.1 (by decide +kernel)
  have hfails : (execute {} hopefulTemplate .empty).failure.isSome := by decide +kernel
  obtain ⟨failure, hfailure⟩ := Option.isSome_iff_exists.1 hfails
  exact ⟨hcheck, failure, hfailure, check_sound hcheck hfailure⟩

end Formulary
