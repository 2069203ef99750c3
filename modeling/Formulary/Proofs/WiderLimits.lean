import Formulary.Proofs.Course
import Formulary.Proofs.Parser.WiderLimits
import Formulary.Proofs.Placement

/-!
# Runs under wider limits

A run that comes to its end has parsed every formula on its way, and a formula that is parsed is the
same under wider limits. So are the names that it reads, and with them the order of the parameters
of a role; the order counts nothing for a formula that cannot be parsed, but a run that has come to
its end has none among those that it orders.

## Main statements

* `Parameter.reads_of_le` : a parameter with a value reads the same names;
* `sequence_of_le` : parameters that are derived come in the same order;
* `calculate_of_le` : a run without a failure takes the same steps;
* `parse_execute_of_le` : limits do nothing but refuse.
-/
namespace Formulary

section

variable {narrow wider : Limits} (hle : narrow ≤ wider)

include hle

/-- A formula that has a value is the same formula under wider limits. -/
theorem Formula.parse_of_evaluate_ok {source : String} {scope : Scope} {v : Value}
    (h : evaluate narrow source scope = .ok v) : parse wider source = parse narrow source := by
  cases hparse : parse narrow source with
  | error e =>
    rw [evaluate, hparse] at h
    cases h
  | ok e =>
    have hupholds := parse_upholds hle source
    rw [hparse] at hupholds
    refine hupholds fun e' he' => ?_
    cases he'

theorem evaluate_of_le {source : String} {scope : Scope} {v : Value}
    (h : evaluate narrow source scope = .ok v) : evaluate wider source scope = .ok v := by
  rw [← h, evaluate, evaluate, Formula.parse_of_evaluate_ok hle h]

/-- A parameter whose formula has a value reads the same names. -/
theorem Parameter.reads_of_le {p : Parameter} {scope : Scope} {v : Value}
    (h : p.value narrow scope = .ok v) : p.reads wider = p.reads narrow := by
  cases hsource : p.formulaSource? with
  | none => simp only [reads, hsource]
  | some source =>
    rw [value_eq hsource] at h
    simp only [reads, hsource, Formula.parse_of_evaluate_ok hle h]

namespace Derives

variable {below : Scope} {start last : Values} {parameters : List Parameter}

theorem of_le (h : Derives narrow below start parameters last) :
    Derives wider below start parameters last := by
  induction h with
  | nil layer => exact .nil layer
  | cons hv _ ih => exact .cons (evaluate_of_le hle hv) ih

/-- Parameters that are derived to the end all read the same names. -/
theorem reads_of_le (h : Derives narrow below start parameters last) :
    ∀ p ∈ parameters, p.reads wider = p.reads narrow := by
  induction h with
  | nil layer => simp
  | cons hv _ ih =>
    intro q hq
    rcases List.mem_cons.1 hq with rfl | hq
    · exact Parameter.reads_of_le hle hv
    · exact ih q hq

end Derives

/-- Parameters that are derived to the end come in the same order. -/
theorem sequence_of_le {order : EvaluationOrder} {group members : List Placed} {below : Scope}
    {start last : Values} (h : sequence narrow order group = .ok members)
    (hd : Derives narrow below start (members.map Placed.parameter) last) :
    sequence wider order group = .ok members := by
  cases order with
  | declared => exact h
  | dependency =>
    have hreads : ∀ m ∈ group, m.reads wider = m.reads narrow := by
      intro m hm
      have hmembers : m ∈ members := (sequence_perm h).symm.subset hm
      exact hd.reads_of_le hle _ (List.mem_map_of_mem hmembers)
    exact Schedule.resolve_congr (fun m hm => by rw [hreads m hm]) h

variable {order : EvaluationOrder} {t : Template} {supplied context results : Values}
  {internals outputs : List Placed} {v : Value}

/-- A run that comes to its end comes to the same end. -/
theorem Finishes.of_le
    (h : Finishes ⟨narrow, order⟩ t supplied internals context v outputs results) :
    Finishes ⟨wider, order⟩ t supplied internals context v outputs results where
  valid := h.valid
  sequenced := sequence_of_le hle h.sequenced h.derived
  derived := h.derived.of_le hle
  evaluated := evaluate_of_le hle h.evaluated
  sequencedOutputs := sequence_of_le hle h.sequencedOutputs h.derivedOutputs
  derivedOutputs := h.derivedOutputs.of_le hle

/-- A run that nothing stops takes the same steps. -/
theorem calculate_of_le (h : (calculate ⟨narrow, order⟩ t supplied).stop = none) :
    calculate ⟨wider, order⟩ t supplied = calculate ⟨narrow, order⟩ t supplied := by
  obtain ⟨internals, v, outputs, hfinishes⟩ := calculate_finishes h
  rw [(hfinishes.of_le hle).calculate_eq]
  exact hfinishes.calculate_eq.symm

end

/-- Limits do nothing but refuse. Under wider limits, every text that is not refused for its length
or its depth has the same expression or the same fault, and every run that succeeds has the same
outcome: it succeeds, with the same results. -/
theorem parse_execute_of_le (narrow wider : Limits) (h : narrow ≤ wider) :
    (∀ text, (∀ e, Formula.parse narrow text = .error e → e.isLimit = false) →
      Formula.parse wider text = Formula.parse narrow text) ∧
    ∀ order t supplied, (execute ⟨narrow, order⟩ t supplied).wasSuccessful →
      execute ⟨wider, order⟩ t supplied = execute ⟨narrow, order⟩ t supplied := by
  refine ⟨Formula.parse_upholds h, fun order t supplied hsuccess => ?_⟩
  have hstop : (calculate ⟨narrow, order⟩ t supplied).stop = none :=
    Run.wasSuccessful_ending.1 hsuccess
  exact congrArg Run.ending (calculate_of_le h hstop)

/-- A code that is written behind a sign, with two formulas that are declared behind those that read
them. -/
def signTemplate : Template where
  name := "Sign"
  formula := "sign"
  parameters := [
    .internal "sign" .string "mark + code",
    .internal "code" .string "'M' + '7'",
    .internal "mark" .string "'#'",
    .output "line" .string "sign + end",
    .output "end" .string "'.'"]

/-- Twelve bytes and two steps are enough for the formulas of the template, and for finding the
fault of a text. -/
theorem parse_execute_of_le_signTemplate :
    let narrow : Limits := ⟨12, 2⟩
    narrow ≤ {} ∧
      Formula.parse {} "area(code)" = .error (.unknownFunction "area") ∧
      execute ⟨{}, .dependency⟩ signTemplate .empty =
        execute ⟨narrow, .dependency⟩ signTemplate .empty ∧
      ((execute ⟨{}, .dependency⟩ signTemplate .empty).results.get? "line").bind Value.text? =
        some "#M7." := by
  intro narrow
  have h : narrow ≤ {} := by constructor <;> decide
  have hfault : (Formula.parse narrow "area(code)").map (fun _ => ()) =
      .error (.unknownFunction "area") := by decide +kernel
  obtain ⟨hparses, hexecutes⟩ := parse_execute_of_le narrow {} h
  cases hparse : Formula.parse narrow "area(code)" with
  | ok e =>
    rw [hparse] at hfault
    cases hfault
  | error e =>
    rw [hparse] at hfault
    obtain rfl : e = .unknownFunction "area" := Except.error.inj hfault
    have hlimit : ∀ e, Formula.parse narrow "area(code)" = .error e → e.isLimit = false := by
      intro e he
      cases hparse.symm.trans he
      rfl
    exact ⟨h, (hparses _ hlimit).trans hparse, hexecutes .dependency signTemplate .empty
      (by decide +kernel), by decide +kernel⟩

end Formulary
