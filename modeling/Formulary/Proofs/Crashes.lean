import Formulary.Proofs.Finite.Run
import Formulary.Proofs.Samples

/-!
# Runs that crash

A `NaN` that the caller supplies reaches a bound of `clamp` inside an array, which validation does not
look into, and the run crashes. A preview does not crash of its own accord. The samples of two inputs
can be `NaN`, a number between infinite bounds and the first allowed value of an enum, but validation
refuses both of them.

## Main statements

* `execute_boundTemplate` : a run that crashes;
* `hasNoNaN_bindInputs_of_synthesize` : what is made up does not reach the formulas with a `NaN` in it;
* `exists_preview_eq_ok` : a preview tells something when no `NaN` is supplied.
-/
namespace Formulary

open Calendar (Instant)

/-- A number between bounds of which one is supplied in an array. -/
def boundTemplate : Template where
  id := ⟨3⟩
  name := "Bound"
  formula := "clamp(1, a[0], 2)"
  parameters := [.input "a" .array]

def boundValues : Values := .ofEntries [("a", .array [.number (0.0 / 0.0)])]

/-- The stages before the primary formula are passed; nothing is reported of them. -/
theorem execute_boundTemplate :
    execute {} boundTemplate boundValues = .error ⟨.main⟩ ∧
      (calculate {} boundTemplate boundValues).trace = [⟨.validation, 0⟩, ⟨.main, 0⟩] := by
  have hcrash : (execute {} boundTemplate boundValues).map (fun _ => ()) = .error ⟨.main⟩ := by
    decide +kernel
  refine ⟨?_, by decide +kernel⟩
  cases hexecute : execute {} boundTemplate boundValues with
  | ok o =>
    rw [hexecute] at hcrash
    cases hcrash
  | error crash =>
    rw [hexecute] at hcrash
    obtain rfl := Except.error.inj hcrash
    rfl

/-! ### Previews -/

variable {p : Parameter} {inputs : List Parameter} {supplied values : Values} {now : Instant}
  {v w : Value} {name : String}

/-- A sample that its input accepts has no `NaN` in it. -/
theorem Parameter.hasNoNaN_of_sample (hsample : p.sample now = .ok v) (h : p.Conforms v w) :
    v.HasNoNaN := by
  cases h with
  | number _ hfinite _ => exact Value.all_number.2 (Number.not_isNaN_of_isFinite hfinite)
  | enum _ _ hsame => exact Value.hasNoNaN_of_same hsame
  | string | boolean | date | dateText => simp
  | array htype | object htype =>
    rw [sample, htype] at hsample
    cases hsample
    simp

/-- Filling in an input changes nothing, or binds its name to its default or to a sample. -/
theorem fillIn_cases (h : fillIn now p supplied = .ok values) :
    values = supplied ∨ ∃ v, values = supplied.insert p.name v ∧
      (p.defaultValue? = some v ∨ p.sample now = .ok v) := by
  simp only [fillIn] at h
  split at h
  · exact .inl (Except.ok.inj h).symm
  · split at h
    · exact .inr ⟨_, (Except.ok.inj h).symm, .inl ‹_›⟩
    · obtain ⟨v, hv, hvalues⟩ := bind_eq_ok.1 h
      exact .inr ⟨v, (Except.ok.inj hvalues).symm, .inr hv⟩

/-- What stands under a name has no `NaN` in it, or it was made up for an input of that name. -/
theorem hasNoNaN_or_sample_of_foldlM (hsupplied : supplied.HasNoNaN)
    (h : inputs.foldlM (fun values p => fillIn now p values) supplied = .ok values)
    (hv : values.get? name = some v) :
    v.HasNoNaN ∨ ∃ p ∈ inputs, p.name = name ∧ p.sample now = .ok v := by
  suffices hfold : ∀ start : Values,
      inputs.foldlM (fun values p => fillIn now p values) start = .ok values →
        start.get? name = some v ∨ v.HasNoNaN ∨
          ∃ p ∈ inputs, p.name = name ∧ p.sample now = .ok v from
    (hfold supplied h).elim (fun hget => .inl (hsupplied.get? hget)) id
  clear h
  induction inputs with
  | nil =>
    intro start h
    obtain rfl := Except.ok.inj h
    exact .inl hv
  | cons p rest ih =>
    intro start h
    rw [List.foldlM_cons] at h
    obtain ⟨next, hnext, hrest⟩ := bind_eq_ok.1 h
    rcases ih next hrest with hget | hnan | ⟨q, hq, hqname, hsample⟩
    · rcases fillIn_cases hnext with rfl | ⟨w, rfl, hw⟩
      · exact .inl hget
      · rw [NameMap.get?_insert] at hget
        split at hget
        · obtain rfl := Option.some.inj hget
          rcases hw with hdefault | hsample
          · exact .inr (.inl (isNumeric_not_isNaN.all_of_isFinite
              (Parameter.isFinite_defaultValue? hdefault)))
          · exact .inr (.inr ⟨p, .head _, ‹_›, hsample⟩)
        · exact .inl hget
    · exact .inr (.inl hnan)
    · exact .inr (.inr ⟨q, .tail _ hq, hqname, hsample⟩)

/-- What validation accepts of values that are filled in has no `NaN` in it. -/
theorem hasNoNaN_bindInputs_of_synthesize {t : Template} (hsupplied : supplied.HasNoNaN)
    (h : synthesize now t supplied = .ok values) (hvalid : validate t.parameters values = []) :
    (bindInputs t.parameters values).HasNoNaN := by
  refine NameMap.all_ofEntries fun e he => ?_
  obtain ⟨p, hp, rfl⟩ := List.mem_map.1 he
  simp only [Parameter.bound]
  cases hv : Parameter.suppliedFor p.name values with
  | none =>
    cases hdefault : p.defaultValue? with
    | none => exact Value.all_null
    | some v => exact isNumeric_not_isNaN.all_of_isFinite (Parameter.isFinite_defaultValue? hdefault)
  | some v =>
    refine p.dataType.all_coerce ?_
    have hget : values.get? p.name = some v := (Option.filter_eq_some_iff.1 hv).1
    rcases hasNoNaN_or_sample_of_foldlM hsupplied h hget with hnan | ⟨q, hq, hname, hsample⟩
    · exact hnan
    · -- Whatever other inputs have the name, the sample is accepted by the one it was made up for.
      have hviolation := validate_eq_nil_iff.1 hvalid q hq
      obtain ⟨hconforms, -⟩ := Parameter.violation?_eq_none_iff.1 hviolation
      exact Parameter.hasNoNaN_of_sample hsample (hconforms v (hname ▸ hv))

/-- A preview that has no `NaN` to start from does not crash. -/
theorem exists_preview_eq_ok (engine : Engine) (now : Instant) (t : Template)
    (h : supplied.HasNoNaN) : ∃ shown, preview engine now t supplied = .ok shown := by
  cases hsynthesize : synthesize now t supplied with
  | error e => exact ⟨⟨supplied, .error e⟩, by rw [preview, hsynthesize]⟩
  | ok values =>
    have ho := execute_eq_outcome_of_bindInputs engine t
      (hasNoNaN_bindInputs_of_synthesize h hsynthesize)
    refine ⟨⟨values, .ok (calculate engine t values).outcome⟩, ?_⟩
    simp only [preview, hsynthesize, ho]
    rfl

end Formulary
