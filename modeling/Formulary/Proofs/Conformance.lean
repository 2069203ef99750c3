import Formulary.Proofs.InputAgreement

/-!
# Validated inputs have their declared types

A supplied value is looked at twice: validation decides whether its input accepts it, and binding
decides what the formulas see of it. The two agree. When validation finds no problem, every input is
bound to a value of its declared type that keeps to the constraints of the input; a text reaches an
input for dates only as the date that it stands for. Where nothing is supplied, the input is optional
and bound to its default.

## Main definitions

* `Parameter.Conforms` : a supplied value that an input accepts, and what it is bound to.

## Main statements

* `Parameter.conforms_iff` : the values without a violation conform, as they are coerced;
* `bindInputs_of_validate` : what validated inputs are bound to.
-/
namespace Formulary

namespace Parameter

variable {p : Parameter} {raw v : Value} {parameters : List Parameter} {supplied : Values}

/-- A number is neither below the least nor above the greatest number, where there is one. -/
def WithinBounds (p : Parameter) (x : Float) : Prop :=
  (∀ low ∈ p.minValue, ¬ x < low) ∧ ∀ high ∈ p.maxValue, ¬ high < x

/-- A text matches the pattern from end to end, where there is one. -/
def MatchesPattern (p : Parameter) (s : String) : Prop :=
  ∀ pattern ∈ p.pattern, ∃ r, Pattern.compileAnchored pattern = .ok r ∧ r.isMatch s

/-- An input accepts the value `raw` according to its type, and is bound to the value `v` for it. -/
inductive Conforms (p : Parameter) : (raw v : Value) → Prop
  | number {x : Float} : p.dataType = .number → x.isFinite → p.WithinBounds x →
      Conforms p (.number x) (.number x)
  | string {s : String} : p.dataType = .string → p.MatchesPattern s → Conforms p (.text s) (.text s)
  | boolean {b : Bool} : p.dataType = .boolean → Conforms p (.bool b) (.bool b)
  | date {t : Calendar.Instant} : p.dataType = .date → Conforms p (.date t) (.date t)
  | dateText {s : String} {t : Calendar.Instant} : p.dataType = .date →
      Calendar.readDate? s = some t → Conforms p (.text s) (.date t)
  | enum {raw allowed : Value} : p.dataType = .enum → allowed ∈ p.allowedValues →
      allowed.same raw → Conforms p raw raw
  | array {items : List Value} : p.dataType = .array → Conforms p (.array items) (.array items)
  | object {fields : List (String × Value)} : p.dataType = .object →
      Conforms p (.object fields) (.object fields)

theorem boundViolation?_eq_none_iff {x : Float} : p.boundViolation? x = none ↔ p.WithinBounds x := by
  have hbounds : p.isOutOfBounds x = false ↔ p.WithinBounds x := by
    simp only [isOutOfBounds, WithinBounds, Bool.or_eq_false_iff]
    cases p.minValue <;> cases p.maxValue <;> simp
  simp [boundViolation?, ← hbounds]

theorem patternViolation?_eq_none_iff {s : String} :
    p.patternViolation? s = none ↔ p.MatchesPattern s := by
  unfold patternViolation? MatchesPattern
  cases p.pattern with
  | none => simp
  | some pattern => cases h : Pattern.compileAnchored pattern <;> simp [h]

theorem allows_iff : p.allows raw ↔ ∃ allowed ∈ p.allowedValues, allowed.same raw := List.any_eq_true

/-- A value that has no violation conforms, as it is coerced. -/
theorem conforms_coerce (h : p.valueViolation? raw = none) :
    p.Conforms raw (p.dataType.coerce raw) := by
  unfold valueViolation? at h
  split at h
  · rename_i x htype
    rw [htype]
    obtain ⟨hfinite, hbound⟩ : x.isFinite ∧ p.boundViolation? x = none := by
      split at h
      · exact ⟨‹_›, h⟩
      · cases h
    exact .number htype hfinite (boundViolation?_eq_none_iff.1 hbound)
  · rename_i htype
    rw [htype]
    exact .string htype (patternViolation?_eq_none_iff.1 h)
  · rename_i htype
    rw [htype]
    exact .boolean htype
  · rename_i htype
    rw [htype]
    exact .date htype
  · rename_i s htype
    cases hread : Calendar.readDate? s with
    | none => simp [hread] at h
    | some t =>
      simp only [htype, DataType.coerce, hread]
      exact .dateText htype hread
  · rename_i htype
    rw [htype]
    exact .array htype
  · rename_i htype
    rw [htype]
    exact .object htype
  · rename_i htype
    rw [htype]
    split at h
    · obtain ⟨allowed, hallowed, hsame⟩ := allows_iff.1 ‹_›
      exact .enum htype hallowed hsame
    · cases h
  · cases h

/-- The values that conform are those without a violation, and they are bound as they are
coerced. -/
theorem conforms_iff : p.Conforms raw v ↔
    p.valueViolation? raw = none ∧ p.dataType.coerce raw = v := by
  constructor
  · intro h
    cases h with
    | number htype hfinite hbounds =>
      simp [valueViolation?, htype, hfinite, boundViolation?_eq_none_iff.2 hbounds, DataType.coerce]
    | string htype hmatch =>
      simp [valueViolation?, htype, patternViolation?_eq_none_iff.2 hmatch, DataType.coerce]
    | boolean htype | date htype | array htype | object htype =>
      simp [valueViolation?, htype, DataType.coerce]
    | dateText htype hread => simp [valueViolation?, htype, hread, DataType.coerce]
    | enum htype hallowed hsame =>
      simp [valueViolation?, htype, allows_iff.2 ⟨_, hallowed, hsame⟩, DataType.coerce]
  · rintro ⟨hvalid, rfl⟩
    exact conforms_coerce hvalid

/-- An input has no violation when what is supplied conforms, or nothing is supplied and need not
be. -/
theorem violation?_eq_none_iff : p.violation? supplied = none ↔
    (∀ raw, suppliedFor p.name supplied = some raw → p.Conforms raw (p.bound supplied)) ∧
      (supplied.Absent p.name → p.isRequired = false) := by
  rw [← suppliedFor_eq_none_iff]
  cases h : suppliedFor p.name supplied with
  | none => simp [violation?, h]
  | some raw => simp [violation?, bound, h, conforms_iff]

end Parameter

open Parameter

variable {parameters : List Parameter} {supplied : Values}

theorem validate_eq_nil_iff : validate parameters supplied = [] ↔
    ∀ p ∈ parameters.filter Parameter.isInput, p.violation? supplied = none := by
  simp [validate]

/-- When validation finds no problem, exactly the names of the inputs are bound. An input for which a
value is supplied is bound to a value that conforms to it; any other input is optional, and bound to
its default, or to null when it has none. -/
theorem bindInputs_of_validate (parameters : List Parameter) (supplied : Values)
    (hn : ((parameters.filter Parameter.isInput).map Parameter.name).Nodup)
    (hvalid : validate parameters supplied = []) :
    (∀ name, name ∈ (bindInputs parameters supplied).names ↔
      ∃ p ∈ parameters, p.isInput ∧ p.name = name) ∧
    ∀ p ∈ parameters, p.isInput →
      (∀ raw, supplied.get? p.name = some raw → raw.isNull = false →
        ∃ v, (bindInputs parameters supplied).get? p.name = some v ∧ p.Conforms raw v) ∧
      (supplied.Absent p.name → p.isRequired = false ∧
        (bindInputs parameters supplied).get? p.name = some (p.defaultValue?.getD .null)) := by
  refine ⟨fun name => NameMap.mem_names.trans bindInputs_isSome, fun p hp hinput => ?_⟩
  have hmem : p ∈ parameters.filter Parameter.isInput := List.mem_filter.2 ⟨hp, hinput⟩
  have hbound := get?_bindInputs hn hmem supplied
  obtain ⟨hconforms, hoptional⟩ := violation?_eq_none_iff.1 (validate_eq_nil_iff.1 hvalid p hmem)
  constructor
  · intro raw hraw hnull
    have hsupplied : suppliedFor p.name supplied = some raw := by simp [suppliedFor, hraw, hnull]
    exact ⟨_, hbound, hconforms raw hsupplied⟩
  · intro habsent
    refine ⟨hoptional habsent, ?_⟩
    rw [hbound, bound, suppliedFor_eq_none_iff.2 habsent]

/-- A delivery with a count within bounds, a day, a code with a pattern, and a grade that has a
default. -/
def deliveryParameters : List Parameter := [
  { Parameter.input "count" .number with minValue := some 1, maxValue := some 20 },
  { Parameter.input "day" .date with isRequired := true },
  { Parameter.input "code" .string with pattern := some "[A-Z]{2}" },
  { Parameter.input "grade" .enum with
    allowedValues := [.text "C20", .text "C25"], defaultText := some "C25" }]

/-- The day is supplied as a text and null for the grade. -/
def deliveryValues : Values :=
  .ofEntries [("count", .number 20), ("day", .text "2025-03-01"), ("code", .text "AB"),
    ("grade", .null), ("note", .bool true)]

/-- The text for the day is bound as a date, and the grade to its default. -/
theorem bindInputs_of_validate_delivery :
    validate deliveryParameters deliveryValues = [] ∧
    (bindInputs deliveryParameters deliveryValues).names = ["code", "count", "day", "grade"] ∧
    (∃ v, (bindInputs deliveryParameters deliveryValues).get? "day" = some v ∧ v.kind = .date) ∧
    ((bindInputs deliveryParameters deliveryValues).get? "grade").bind Value.text? =
      some "C25" := by
  have hvalid : validate deliveryParameters deliveryValues = [] := by
    refine List.isEmpty_iff.1 ?_
    decide +kernel
  obtain ⟨-, hbound⟩ :=
    bindInputs_of_validate deliveryParameters deliveryValues (by decide) hvalid
  obtain ⟨hday, -⟩ := hbound { Parameter.input "day" .date with isRequired := true }
    (by simp [deliveryParameters]) rfl
  have hsupplied : deliveryValues.get? "day" = some (.text "2025-03-01") := by
    simp [deliveryValues, NameMap.ofEntries, NameMap.insertAll]
  obtain ⟨v, hv, hconforms⟩ := hday (.text "2025-03-01") hsupplied rfl
  refine ⟨hvalid, by decide +kernel, ⟨v, hv, ?_⟩, by decide +kernel⟩
  cases hconforms with
  | dateText => rfl
  | string htype | enum htype => cases htype

end Formulary
