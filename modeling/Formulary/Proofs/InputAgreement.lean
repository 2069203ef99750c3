import Formulary.Proofs.Course

/-!
# What a caller can change

A caller may supply a value under any name. A run looks at the names of the inputs only, once to
validate them and once to bind them, and both times null counts as nothing. So nothing that a caller
supplies under another name is ever seen: no internal, output or constant can be replaced from
outside.

## Main definitions

* `Values.Absent` : nothing is supplied under a name;
* `Template.AgreeOnInputs` : two callers supply the same to the inputs of a template.

## Main statements

* `Template.agreeOnInputs_iff` : such callers supply the same as validation and binding see it;
* `calculate_eq_of_agreeOnInputs` : their runs are the same in every step;
* `execute_insert_of_forall_ne` : a value under the name of no input changes nothing;
* `execute_eq_of_agreeOnInputs` : callers that agree are told the same.
-/
namespace Formulary

/-- Nothing is supplied under a name, or null. -/
def Values.Absent (supplied : Values) (name : String) : Prop :=
  supplied.get? name = none ∨ supplied.get? name = some .null

/-- Under the name of every input, two callers supply the same value, or both supply none. -/
def Template.AgreeOnInputs (t : Template) (supplied supplied' : Values) : Prop :=
  ∀ p ∈ t.inputs, supplied.get? p.name = supplied'.get? p.name ∨
    supplied.Absent p.name ∧ supplied'.Absent p.name

variable {engine : Engine} {t : Template} {parameters : List Parameter}
  {supplied supplied' : Values} {name : String}

namespace Parameter

theorem suppliedFor_eq_none_iff : suppliedFor name supplied = none ↔ supplied.Absent name := by
  unfold suppliedFor Values.Absent
  cases h : supplied.get? name with
  | none => simp
  | some v => cases v <;> simp [Value.isNull]

theorem get?_of_suppliedFor {v : Value} (h : suppliedFor name supplied = some v) :
    supplied.get? name = some v := by
  obtain ⟨hv, -⟩ := Option.filter_eq_some_iff.1 h
  exact hv

/-- The violation of an input depends on what is supplied for it. -/
theorem violation?_congr {p : Parameter}
    (h : suppliedFor p.name supplied = suppliedFor p.name supplied') :
    p.violation? supplied = p.violation? supplied' := by
  rw [violation?, violation?, h]

/-- The value of an input depends on what is supplied for it. -/
theorem bound_congr {p : Parameter}
    (h : suppliedFor p.name supplied = suppliedFor p.name supplied') :
    p.bound supplied = p.bound supplied' := by
  rw [bound, bound, h]

end Parameter

open Parameter

/-- Callers agree on the inputs exactly when the same is supplied for each of them. -/
theorem Template.agreeOnInputs_iff : t.AgreeOnInputs supplied supplied' ↔
    ∀ p ∈ t.inputs, suppliedFor p.name supplied = suppliedFor p.name supplied' := by
  refine forall₂_congr fun p _ => ⟨?_, fun h => ?_⟩
  · rintro (h | ⟨h, h'⟩)
    · rw [suppliedFor, suppliedFor, h]
    · rw [suppliedFor_eq_none_iff.2 h, suppliedFor_eq_none_iff.2 h']
  · cases hv : suppliedFor p.name supplied with
    | none =>
      have hv' : suppliedFor p.name supplied' = none := h.symm.trans hv
      exact .inr ⟨suppliedFor_eq_none_iff.1 hv, suppliedFor_eq_none_iff.1 hv'⟩
    | some v =>
      have hv' : suppliedFor p.name supplied' = some v := h.symm.trans hv
      exact .inl ((get?_of_suppliedFor hv).trans (get?_of_suppliedFor hv').symm)

/-- Validation reports the same, in the same order. -/
theorem validate_congr (h : ∀ p ∈ parameters.filter Parameter.isInput,
    suppliedFor p.name supplied = suppliedFor p.name supplied') :
    validate parameters supplied = validate parameters supplied' := by
  refine List.filterMap_congr fun p hp => ?_
  rw [violation?_congr (h p hp)]

/-- Binding starts a run from the same values. -/
theorem bindInputs_congr (h : ∀ p ∈ parameters.filter Parameter.isInput,
    suppliedFor p.name supplied = suppliedFor p.name supplied') :
    bindInputs parameters supplied = bindInputs parameters supplied' := by
  refine congrArg NameMap.ofEntries (List.map_congr_left fun p hp => ?_)
  rw [bound_congr (h p hp)]

/-- The names of the inputs are bound, and no other names. -/
theorem bindInputs_isSome :
    ((bindInputs parameters supplied).get? name).isSome ↔
      ∃ p ∈ parameters, p.isInput ∧ p.name = name := by
  rw [← NameMap.mem_names, bindInputs, NameMap.mem_names_ofEntries]
  simp [and_assoc]

/-- An input whose name no other input has is bound to its value. -/
theorem get?_bindInputs {p : Parameter}
    (hn : ((parameters.filter Parameter.isInput).map Parameter.name).Nodup)
    (hp : p ∈ parameters.filter Parameter.isInput) (supplied : Values) :
    (bindInputs parameters supplied).get? p.name = some (p.bound supplied) := by
  refine NameMap.get?_ofEntries_of_mem (e := (p.name, p.bound supplied)) ?_ ?_
  · rw [List.map_map]
    exact hn
  · exact List.mem_map_of_mem hp

/-- Validation and binding are all that a run does with what is supplied. -/
theorem calculate_congr
    (hvalidate : validate t.parameters supplied = validate t.parameters supplied')
    (hbind : bindInputs t.parameters supplied = bindInputs t.parameters supplied') :
    calculate engine t supplied = calculate engine t supplied' := by
  have hinputs : ({} : Run).validateInputs t supplied = ({} : Run).validateInputs t supplied' := by
    unfold Run.validateInputs
    rw [hvalidate, hbind]
  rw [calculate_eq_andThen, calculate_eq_andThen, calculateToPrimary, calculateToPrimary, hinputs]

/-- Callers that agree on the inputs cause the same run. -/
theorem calculate_eq_of_agreeOnInputs (h : t.AgreeOnInputs supplied supplied') :
    calculate engine t supplied = calculate engine t supplied' := by
  have hsupplied := Template.agreeOnInputs_iff.1 h
  exact calculate_congr (validate_congr hsupplied) (bindInputs_congr hsupplied)

/-- A value under a name that no input has changes nothing, whatever else has that name. -/
theorem execute_insert_of_forall_ne (v : Value) (h : ∀ p ∈ t.inputs, p.name ≠ name) :
    execute engine t (supplied.insert name v) = execute engine t supplied := by
  refine congrArg Run.ending (calculate_eq_of_agreeOnInputs fun p hp => .inl ?_)
  rw [NameMap.get?_insert, if_neg (h p hp).symm]

/-- Callers that agree on the inputs are told the same: the same results, the same success or
failure with its text, and the same problems. -/
theorem execute_eq_of_agreeOnInputs (engine : Engine) (t : Template) (supplied supplied' : Values)
    (h : t.AgreeOnInputs supplied supplied') :
    execute engine t supplied = execute engine t supplied' :=
  congrArg Run.ending (calculate_eq_of_agreeOnInputs h)

/-- A square of a side that may be missing, with a value of every role. -/
def squareTemplate : Template where
  name := "Square"
  formula := "area * Math.PI"
  parameters := [{ Parameter.input "side" .number with defaultText := some "2" },
    .internal "area" .number "side * side", .output "label" .string "'about ' + resultado"]

/-- A null for the side, and a value under every name that is not the caller's to set. -/
def intrudingValues : Values :=
  .ofEntries [("side", .null), ("area", .text "large"), ("label", .text "none"),
    ("resultado", .bool true), ("Math", .object [("PI", .text "three")])]

/-- What an intruder is told is what the caller of no values is told. -/
theorem execute_eq_of_agreeOnInputs_squareTemplate :
    squareTemplate.AgreeOnInputs intrudingValues .empty ∧
      execute {} squareTemplate intrudingValues = execute {} squareTemplate .empty ∧
      (execute {} squareTemplate intrudingValues).wasSuccessful := by
  have h : squareTemplate.AgreeOnInputs intrudingValues .empty := by
    have hinputs : squareTemplate.inputs =
        [{ Parameter.input "side" .number with defaultText := some "2" }] := rfl
    intro p hp
    obtain rfl := List.mem_singleton.1 (hinputs ▸ hp)
    exact .inr ⟨.inr rfl, .inl rfl⟩
  exact ⟨h, execute_eq_of_agreeOnInputs {} squareTemplate _ _ h, by decide +kernel⟩

end Formulary
