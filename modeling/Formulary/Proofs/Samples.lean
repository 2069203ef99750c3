import Formulary.Preview
import Formulary.Proofs.Checked
import Formulary.Proofs.Conformance
import Formulary.Proofs.Defaults
import Formulary.Proofs.Number.Midpoint
import Formulary.Proofs.Numbers

/-!
# Samples and their inputs

A sample is made up from the definition of an input, and validation looks at the same definition. The
two agree on inputs that do not contradict themselves, but for three cases. The sum of two bounds can
be too large for a double, though the number in their middle is not. The first allowed value can be
null, which counts as no value when the input is required. And `NaN` is not equal to itself, so a value
with a `NaN` in it is never among the allowed ones.

## Main definitions

* `Parameter.SampleFits` : none of these cases.

## Main statements

* `Value.same_self_iff` : the values that are equal to themselves;
* `Parameter.withinBounds_sampleNumber_iff` : when a number made up from bounds keeps to them;
* `validate_sample_iff` : the samples that are valid.
-/
namespace Formulary

open Calendar (Instant)

/-! ### Values that are equal to themselves -/

namespace Value

mutual

/-- A value that equals another one has no `NaN` in it. -/
theorem hasNoNaN_of_same : ∀ {a v : Value}, a.same v → v.HasNoNaN
  | .number x, .number y, h => all_number.2 (Number.not_isNaN_of_beq h).2
  | .array xs, .array ys, h => all_array.2 (hasNoNaN_of_sameItems h)
  | .object fs, .object gs, h => all_object.2 (hasNoNaN_of_sameFields h)
  | _, .null, _ | _, .bool _, _ | _, .text _, _ | _, .date _, _ => by simp

theorem hasNoNaN_of_sameItems :
    ∀ {xs ys : List Value}, sameItems xs ys → ∀ v ∈ ys, v.HasNoNaN
  | [], [], _ => by simp
  | x :: xs, y :: ys, h => by
    obtain ⟨hhead, hrest⟩ := Bool.and_eq_true_iff.1 h
    exact List.forall_mem_cons.2 ⟨hasNoNaN_of_same hhead, hasNoNaN_of_sameItems hrest⟩

theorem hasNoNaN_of_sameFields :
    ∀ {fs gs : Entries Value}, sameFields fs gs → ∀ f ∈ gs, f.2.HasNoNaN
  | [], [], _ => by simp
  | (m, x) :: fs, (n, y) :: gs, h => by
    obtain ⟨hhead, hrest⟩ := Bool.and_eq_true_iff.1 h
    exact List.forall_mem_cons.2
      ⟨hasNoNaN_of_same (Bool.and_eq_true_iff.1 hhead).2, hasNoNaN_of_sameFields hrest⟩

end

mutual

theorem HasNoNaN.same_self : ∀ {v : Value}, v.HasNoNaN → v.same v
  | .number x, h => Number.beq_self_iff.2 (all_number.1 h)
  | .array xs, h => sameItems_self (all_array.1 h)
  | .object fs, h => sameFields_self (all_object.1 h)
  | .null, _ | .bool _, _ | .text _, _ | .date _, _ => by simp [same]

theorem sameItems_self : ∀ {xs : List Value}, (∀ v ∈ xs, v.HasNoNaN) → sameItems xs xs
  | [], _ => rfl
  | x :: xs, h => by
    obtain ⟨hhead, hrest⟩ := List.forall_mem_cons.1 h
    exact Bool.and_eq_true_iff.2 ⟨hhead.same_self, sameItems_self hrest⟩

theorem sameFields_self : ∀ {fs : Entries Value}, (∀ f ∈ fs, f.2.HasNoNaN) → sameFields fs fs
  | [], _ => rfl
  | (n, x) :: fs, h => by
    obtain ⟨hhead, hrest⟩ := List.forall_mem_cons.1 h
    have hfield : (n == n && x.same x) = true :=
      Bool.and_eq_true_iff.2 ⟨beq_self_eq_true n, HasNoNaN.same_self hhead⟩
    exact Bool.and_eq_true_iff.2 ⟨hfield, sameFields_self hrest⟩

end

/-- The values that are equal to themselves are those without `NaN`. -/
theorem same_self_iff {v : Value} : v.same v ↔ v.HasNoNaN :=
  ⟨hasNoNaN_of_same, HasNoNaN.same_self⟩

end Value

namespace Parameter

variable {p : Parameter} {supplied : Values} {v : Value}

/-! ### Definitions without findings -/

/-- Without a finding, only a number has bounds, and the least is not above the greatest. -/
theorem bounds_of_constraintFindings (h : p.constraintFindings = []) :
    (p.dataType ≠ .number → p.minValue = none ∧ p.maxValue = none) ∧
      ∀ low ∈ p.minValue, ∀ high ∈ p.maxValue, ¬ high < low := by
  simp only [constraintFindings, List.append_eq_nil_iff] at h
  obtain ⟨⟨⟨⟨-, htype⟩, horder⟩, -⟩, -⟩ := h
  refine ⟨fun hne => ?_, fun low hlow high hhigh hlt => ?_⟩
  · simpa [hne] using htype
  · simp [Option.mem_def.1 hlow, Option.mem_def.1 hhigh, hlt] at horder

/-- Without a finding, the enums are the parameters that have allowed values. -/
theorem allowed_of_constraintFindings (h : p.constraintFindings = []) :
    p.dataType = .enum ↔ p.allowedValues ≠ [] := by
  simp only [constraintFindings, List.append_eq_nil_iff] at h
  obtain ⟨-, hallowed⟩ := h
  by_cases htype : p.dataType = .enum <;> simpa [htype] using hallowed

/-! ### Numbers made up from bounds -/

/-- The number that is made up from bounds keeps to them, unless their sum is too large. -/
theorem withinBounds_sampleNumber_iff (hlow : ∀ low ∈ p.minValue, low.isFinite)
    (hhigh : ∀ high ∈ p.maxValue, high.isFinite)
    (horder : ∀ low ∈ p.minValue, ∀ high ∈ p.maxValue, ¬ high < low) :
    ((sampleNumber p.minValue p.maxValue).isFinite ∧
        p.WithinBounds (sampleNumber p.minValue p.maxValue)) ↔
      ∀ low ∈ p.minValue, ∀ high ∈ p.maxValue, (low + high).isFinite := by
  unfold WithinBounds
  cases hmin : p.minValue with
  | none =>
    cases hmax : p.maxValue with
    | none =>
      have hten : (10.0 : Float).isFinite := rfl
      simpa [sampleNumber] using hten
    | some high => simpa [sampleNumber] using Number.not_lt_sub_one (hhigh high hmax)
  | some low =>
    cases hmax : p.maxValue with
    | none => simpa [sampleNumber] using Number.add_one_not_lt (hlow low hmin)
    | some high =>
      suffices h : ((low + high) / 2.0).isFinite ∧ ¬ (low + high) / 2.0 < low ∧
          ¬ high < (low + high) / 2.0 ↔ (low + high).isFinite by
        simpa [sampleNumber] using h
      exact ⟨fun h => Number.isFinite_of_isFinite_half h.1,
        Number.midpoint_between (hlow low hmin) (hhigh high hmax) (horder low hmin high hmax)⟩

/-! ### Samples -/

/-- The sum of the bounds of an input is finite, and its first allowed value, where there is one, has
no `NaN` in it and is not null when the input is required. -/
structure SampleFits (p : Parameter) : Prop where
  isFinite_sum : ∀ low ∈ p.minValue, ∀ high ∈ p.maxValue, (low + high).isFinite
  hasNoNaN_first : ∀ first ∈ p.allowedValues.head?, first.HasNoNaN
  isOptional : ∀ first ∈ p.allowedValues.head?, first.isNull → p.isRequired = false

theorem violation?_insert_self_eq_none_iff :
    p.violation? (supplied.insert p.name v) = none ↔
      (v.isNull = false → p.valueViolation? v = none) ∧ (v.isNull → p.isRequired = false) := by
  cases hnull : v.isNull with
  | false => simp [violation?, suppliedFor_insert_self hnull]
  | true => simp [violation?, suppliedFor_insert_null hnull]

theorem allows_first_iff {rest : List Value} (h : p.allowedValues = v :: rest) :
    p.allows v ↔ v.HasNoNaN := by
  rw [allows_iff, ← Value.same_self_iff]
  constructor
  · rintro ⟨allowed, -, hsame⟩
    exact Value.same_self_iff.2 (Value.hasNoNaN_of_same hsame)
  · intro hself
    exact ⟨v, by simp [h], hself⟩

theorem sampleFits_of_unconstrained (hmin : p.minValue = none) (hallowed : p.allowedValues = []) :
    p.SampleFits := by
  constructor <;> simp [hmin, hallowed]

theorem sampleFits_number_iff (hallowed : p.allowedValues = []) :
    p.SampleFits ↔ ∀ low ∈ p.minValue, ∀ high ∈ p.maxValue, (low + high).isFinite :=
  ⟨SampleFits.isFinite_sum, fun h => ⟨h, by simp [hallowed], by simp [hallowed]⟩⟩

theorem sampleFits_enum_iff {rest : List Value} (hmin : p.minValue = none)
    (hallowed : p.allowedValues = v :: rest) :
    p.SampleFits ↔ v.HasNoNaN ∧ (v.isNull → p.isRequired = false) := by
  constructor
  · rintro ⟨-, hnan, hoptional⟩
    exact ⟨hnan v (by simp [hallowed]), hoptional v (by simp [hallowed])⟩
  · rintro ⟨hnan, hoptional⟩
    exact ⟨by simp [hmin], by simpa [hallowed] using hnan, by simpa [hallowed] using hoptional⟩

/-- An input without findings and patterns has a sample, which is accepted exactly if it fits. -/
theorem exists_sample (now : Instant) (supplied : Values) (h : p.constraintFindings = [])
    (hlow : ∀ low ∈ p.minValue, low.isFinite) (hhigh : ∀ high ∈ p.maxValue, high.isFinite)
    (hpattern : p.pattern = none) :
    ∃ v, p.sample now = .ok v ∧
      (p.violation? (supplied.insert p.name v) = none ↔ p.SampleFits) := by
  simp only [violation?_insert_self_eq_none_iff]
  obtain ⟨hbounds, horder⟩ := bounds_of_constraintFindings h
  have hallowed := allowed_of_constraintFindings h
  cases htype : p.dataType with
  | number =>
    refine ⟨.number (sampleNumber p.minValue p.maxValue), by simp [sample, htype], ?_⟩
    have hnone : p.allowedValues = [] := by simpa [htype] using hallowed
    rw [sampleFits_number_iff hnone, ← withinBounds_sampleNumber_iff hlow hhigh horder,
      ← boundViolation?_eq_none_iff]
    by_cases hfinite : (sampleNumber p.minValue p.maxValue).isFinite <;>
      simp [valueViolation?, htype, Value.isNull, hfinite]
  | enum =>
    obtain ⟨v, rest, hvalues⟩ := List.exists_cons_of_ne_nil (hallowed.1 htype)
    refine ⟨v, by simp [sample, htype, hvalues], ?_⟩
    have hmin : p.minValue = none := (hbounds (by simp [htype])).1
    have hvalid : p.valueViolation? v = none ↔ v.HasNoNaN := by
      rw [← allows_first_iff hvalues]
      simp [valueViolation?, htype]
    rw [sampleFits_enum_iff hmin hvalues, hvalid]
    -- A null is not looked up among the allowed values, and there is no number in it.
    cases v <;> simp [Value.isNull]
  | string | boolean | date | array | object =>
    have hnone : p.allowedValues = [] := by simpa [htype] using hallowed
    have hmin : p.minValue = none := (hbounds (by simp [htype])).1
    refine ⟨_, by rw [sample, htype], ?_⟩
    simp [valueViolation?, htype, patternViolation?, hpattern, Value.isNull,
      sampleFits_of_unconstrained hmin hnone]

end Parameter

/-- An input whose definition has no finding, whose bounds are finite and which has no pattern has a
sample. The sample is valid exactly if the sum of its bounds is finite and the first value that it
allows has no `NaN` in it, and is not null when the input is required. -/
theorem validate_sample_iff (p : Parameter) (now : Instant) (hinput : p.isInput)
    (hfindings : p.constraintFindings = [])
    (hlow : ∀ low ∈ p.minValue, low.isFinite) (hhigh : ∀ high ∈ p.maxValue, high.isFinite)
    (hpattern : p.pattern = none) :
    ∃ v, p.sample now = .ok v ∧
      (validate [p] (NameMap.ofEntries [(p.name, v)]) = [] ↔ p.SampleFits) := by
  obtain ⟨v, hsample, hvalid⟩ := p.exists_sample now .empty hfindings hlow hhigh hpattern
  refine ⟨v, hsample, ?_⟩
  rw [← hvalid, validate_eq_nil_iff]
  simp [hinput, NameMap.ofEntries, NameMap.insertAll]

def loadParameter : Parameter :=
  { Parameter.input "load" .number with
    isRequired := true, minValue := some 2, maxValue := some 9 }

/-- The load that is made up is 5.5, and valid. -/
theorem validate_sample_iff_load :
    loadParameter.isInput ∧ loadParameter.constraintFindings = [] ∧ loadParameter.SampleFits ∧
    ∃ v, loadParameter.sample .epoch = .ok v ∧ v.same (.number 5.5) ∧
      validate [loadParameter] (NameMap.ofEntries [(loadParameter.name, v)]) = [] := by
  have hfindings : loadParameter.constraintFindings = [] := List.isEmpty_iff.1 (by decide +kernel)
  have hfits : loadParameter.SampleFits := by
    refine ⟨?_, by simp [loadParameter, Parameter.input], by simp [loadParameter, Parameter.input]⟩
    rintro low ⟨rfl⟩ high ⟨rfl⟩
    decide +kernel
  obtain ⟨v, hsample, hvalid⟩ := validate_sample_iff loadParameter .epoch rfl hfindings
    (by decide +kernel) (by decide +kernel) rfl
  refine ⟨rfl, hfindings, hfits, v, hsample, ?_, hvalid.2 hfits⟩
  obtain rfl := Except.ok.inj hsample
  decide +kernel

def spanParameter : Parameter :=
  { Parameter.input "x" .number with minValue := some 1e308, maxValue := some 1e308 }

/-- The sum of two bounds of `1e308` is infinite, and so is half of it, which is no valid span. -/
theorem not_forall_validate_sample : ¬ ∀ (p : Parameter) (now : Instant), p.isInput →
    p.constraintFindings = [] → (∀ low ∈ p.minValue, low.isFinite) →
    (∀ high ∈ p.maxValue, high.isFinite) → p.defaultText = none → p.pattern = none →
    ∃ v, p.sample now = .ok v ∧ validate [p] (NameMap.ofEntries [(p.name, v)]) = [] := by
  intro h
  obtain ⟨v, hsample, hvalid⟩ := h spanParameter .epoch rfl (List.isEmpty_iff.1 (by decide +kernel))
    (by decide +kernel) (by decide +kernel) rfl rfl
  obtain rfl := Except.ok.inj hsample
  refine absurd (List.isEmpty_iff.2 hvalid) ?_
  decide +kernel

end Formulary
