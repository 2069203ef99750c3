import Mathlib.Data.List.Nodup
import Formulary.Preview
import Formulary.Proofs.InputAgreement

/-!
# Defaults and supplied values

A default reaches the formulas in two ways. A run binds it when nothing is supplied for its input; a
preview supplies it first, so it is validated and coerced like any value of a caller. Both ways lead
to the same run, with one exception: the default of a date may be written as JSON for the text of a
date, and such a text becomes a date only when it is supplied.

## Main definitions

* `Parameter.Defaults` : the default of an optional input, which its input accepts;
* `Parameter.NoDateText` : a value that is bound as it is supplied.

## Main statements

* `validate_insert_default`, `bindInputs_insert_default` : what is supplied is neither refused nor
  changed;
* `preview_eq_execute` : a preview that makes nothing up is a run;
* `execute_insert_default` : supplying a default changes nothing, but for these texts;
* `not_forall_results_insert_default` : for one of them the results differ.
-/
namespace Formulary

namespace Parameter

variable {p : Parameter} {v : Value} {supplied : Values} {name : String}

/-- The input is optional, and the value is its default, which is null or valid. -/
structure Defaults (p : Parameter) (v : Value) : Prop where
  isOptional : p.isRequired = false
  decoded : p.defaultValue? = some v
  valid : v.isNull ∨ p.valueViolation? v = none

/-- The value is no text, or it is not meant to be a date. -/
def NoDateText (p : Parameter) (v : Value) : Prop := p.dataType = .date → v.text? = none

/-- Such a value is bound as it is supplied. -/
theorem coerce_of_noDateText (h : p.NoDateText v) : p.dataType.coerce v = v := by
  unfold NoDateText at h
  cases hdate : p.dataType with
  | date =>
    cases v with
    | text s => cases h hdate
    | _ => rfl
  | _ => rfl

theorem suppliedFor_insert_self (hv : v.isNull = false) :
    suppliedFor name (supplied.insert name v) = some v := by
  simp [suppliedFor, hv]

theorem suppliedFor_insert_of_ne {other : String} (h : other ≠ name) (v : Value) :
    suppliedFor name (supplied.insert other v) = suppliedFor name supplied := by
  simp [suppliedFor, h]

/-- What is lacking under a name is lacking still when another name is bound. -/
theorem absent_insert_iff_of_ne {other : String} (h : other ≠ name) (v : Value) :
    Values.Absent (supplied.insert other v) name ↔ supplied.Absent name := by
  rw [← suppliedFor_eq_none_iff, suppliedFor_insert_of_ne h, suppliedFor_eq_none_iff]

theorem suppliedFor_insert_null (hv : v.isNull) :
    suppliedFor name (supplied.insert name v) = none := by
  simp [suppliedFor, hv]

namespace Defaults

/-- A default that is meant to be a date and is a text is the text of a date, as it is valid. -/
theorem exists_date (h : p.Defaults v) (htext : ¬ p.NoDateText v) :
    ∃ s d, v = .text s ∧ Calendar.readDate? s = some d ∧ p.dataType.coerce v = .date d := by
  obtain ⟨hdate, hv⟩ := Classical.not_imp.1 htext
  cases v with
  | text s =>
    have hvalid : p.valueViolation? (.text s) = none :=
      h.valid.resolve_left (by simp [Value.isNull])
    cases hread : Calendar.readDate? s with
    | none => simp [valueViolation?, hdate, hread] at hvalid
    | some d => exact ⟨s, d, rfl, hread, by simp [hdate, DataType.coerce, hread]⟩
  | _ => exact absurd rfl hv

/-- Without a value, the input is bound to its default. -/
theorem bound_of_absent (h : p.Defaults v) (habsent : supplied.Absent p.name) :
    p.bound supplied = v := by
  simp only [bound, suppliedFor_eq_none_iff.2 habsent, h.decoded, Option.getD_some]

/-- A supplied default is coerced. -/
theorem bound_insert (h : p.Defaults v) (supplied : Values) :
    p.bound (supplied.insert p.name v) = p.dataType.coerce v := by
  cases hv : v.isNull with
  | false => simp only [bound, suppliedFor_insert_self hv]
  | true =>
    have hcoerce : p.dataType.coerce v = v := by
      refine coerce_of_noDateText fun _ => ?_
      cases v <;> first | rfl | cases hv
    simp only [bound, suppliedFor_insert_null hv, h.decoded, Option.getD_some, hcoerce]

/-- There is no problem with the input, whether its default is supplied or not. -/
theorem violation?_insert (h : p.Defaults v) (habsent : supplied.Absent p.name) :
    p.violation? (supplied.insert p.name v) = p.violation? supplied := by
  have hnone : p.violation? supplied = none := by
    simp [violation?, suppliedFor_eq_none_iff.2 habsent, h.isOptional]
  cases hv : v.isNull with
  | false =>
    have hvalid : p.valueViolation? v = none := h.valid.resolve_left (by simp [hv])
    rw [hnone, violation?, suppliedFor_insert_self hv]
    exact hvalid
  | true =>
    rw [hnone, violation?, suppliedFor_insert_null hv, h.isOptional]
    rfl

end Defaults

end Parameter

open Parameter

variable {engine : Engine} {t : Template} {p : Parameter} {v : Value} {supplied : Values}

theorem Template.nodup_names_inputs (hn : (t.parameters.map Parameter.name).Nodup) :
    (t.inputs.map Parameter.name).Nodup :=
  (List.filter_sublist.map Parameter.name).nodup hn

/-- Supplying a default causes no problem and hides none. -/
theorem validate_insert_default (hn : (t.parameters.map Parameter.name).Nodup) (hp : p ∈ t.inputs)
    (h : p.Defaults v) (habsent : supplied.Absent p.name) :
    validate t.parameters (supplied.insert p.name v) = validate t.parameters supplied := by
  refine List.filterMap_congr fun q hq => ?_
  by_cases hname : q.name = p.name
  · obtain rfl := List.inj_on_of_nodup_map (t.nodup_names_inputs hn) hq hp hname
    rw [h.violation?_insert habsent]
  · rw [violation?_congr (suppliedFor_insert_of_ne (Ne.symm hname) v)]

/-- Supplying a default binds what is bound without it. -/
theorem bindInputs_insert_default (hn : (t.parameters.map Parameter.name).Nodup)
    (hp : p ∈ t.inputs) (h : p.Defaults v) (habsent : supplied.Absent p.name)
    (htext : p.NoDateText v) :
    bindInputs t.parameters (supplied.insert p.name v) = bindInputs t.parameters supplied := by
  refine congrArg NameMap.ofEntries (List.map_congr_left fun q hq => ?_)
  by_cases hname : q.name = p.name
  · obtain rfl := List.inj_on_of_nodup_map (t.nodup_names_inputs hn) hq hp hname
    rw [h.bound_insert, h.bound_of_absent habsent, coerce_of_noDateText htext]
  · rw [bound_congr (suppliedFor_insert_of_ne (Ne.symm hname) v)]

variable (engine) in
/-- A default that is no text of a date can be supplied as well as left out. -/
theorem execute_insert_of_noDateText (hn : (t.parameters.map Parameter.name).Nodup)
    (hp : p ∈ t.inputs) (h : p.Defaults v) (habsent : supplied.Absent p.name)
    (htext : p.NoDateText v) :
    execute engine t (supplied.insert p.name v) = execute engine t supplied := by
  have hvalidate := validate_insert_default hn hp h habsent
  have hbind := bindInputs_insert_default hn hp h habsent htext
  exact congrArg Run.ending (calculate_congr hvalidate hbind)

/-- An input without a value is filled in with its default. -/
theorem fillIn_of_absent (h : p.Defaults v) (habsent : supplied.Absent p.name)
    (now : Calendar.Instant) : fillIn now p supplied = .ok (supplied.insert p.name v) := by
  simp only [fillIn, suppliedFor_eq_none_iff.2 habsent, h.decoded]

variable (engine) in
/-- Filling in one input after the other keeps the outcome. -/
theorem exists_fillIn (now : Calendar.Instant) (hn : (t.parameters.map Parameter.name).Nodup)
    {inputs : List Parameter} (hinputs : inputs.Sublist t.inputs)
    (h : ∀ p ∈ inputs, supplied.Absent p.name → ∃ v, p.Defaults v ∧ p.NoDateText v) :
    ∃ values, inputs.foldlM (fun values p => fillIn now p values) supplied = .ok values ∧
      execute engine t values = execute engine t supplied := by
  induction inputs generalizing supplied with
  | nil => exact ⟨supplied, rfl, rfl⟩
  | cons p rest ih =>
    have hp : p ∈ t.inputs := hinputs.subset List.mem_cons_self
    have hrest : rest.Sublist t.inputs := .trans (List.sublist_cons_self p rest) hinputs
    cases hsupplied : suppliedFor p.name supplied with
    | some v =>
      have hfill : fillIn now p supplied = .ok supplied := by simp only [fillIn, hsupplied]
      rw [List.foldlM_cons, hfill]
      exact ih hrest fun q hq => h q (.tail _ hq)
    | none =>
      have habsent := suppliedFor_eq_none_iff.1 hsupplied
      obtain ⟨v, hv, htext⟩ := h p List.mem_cons_self habsent
      have hnames := (hinputs.map Parameter.name).nodup (t.nodup_names_inputs hn)
      -- The inputs that are left have other names, so they lack what they lacked.
      have hkept : ∀ q ∈ rest, Values.Absent (supplied.insert p.name v) q.name →
          ∃ w, q.Defaults w ∧ q.NoDateText w := by
        intro q hq hlacking
        have hne : p.name ≠ q.name := by grind
        exact h q (.tail _ hq) ((absent_insert_iff_of_ne hne v).1 hlacking)
      obtain ⟨values, hvalues, hsame⟩ := ih hrest hkept
      have hinsert := execute_insert_of_noDateText engine hn hp hv habsent htext
      rw [List.foldlM_cons, fillIn_of_absent hv habsent]
      exact ⟨values, hvalues, hsame.trans hinsert⟩

/-- A preview that has a default for every input without a value makes nothing up: it tells what a
run tells. -/
theorem preview_eq_execute (now : Calendar.Instant)
    (hn : (t.parameters.map Parameter.name).Nodup)
    (h : ∀ p ∈ t.inputs, supplied.Absent p.name → ∃ v, p.Defaults v ∧ p.NoDateText v) :
    ∃ values, preview engine now t supplied =
      (execute engine t supplied).map fun o => ⟨values, .ok o⟩ := by
  obtain ⟨values, hvalues, hsame⟩ :=
    exists_fillIn engine now hn (List.Sublist.refl t.inputs) h
  refine ⟨values, ?_⟩
  rw [preview, synthesize, hvalues, ← hsame]
  rfl

/-- Where nothing is supplied for an optional input, its default may be: nothing is told apart,
unless the input is a date and its default a text. Then the run starts from that text when nothing
is supplied, and from the date of that text when the text is. -/
theorem execute_insert_default (engine : Engine) (t : Template) (p : Parameter) (v : Value)
    (supplied : Values) (hn : (t.parameters.map Parameter.name).Nodup) (hp : p ∈ t.inputs)
    (h : p.Defaults v) (habsent : supplied.Absent p.name) :
    (p.NoDateText v →
      execute engine t (supplied.insert p.name v) = execute engine t supplied) ∧
    (¬ p.NoDateText v → ∃ s d, Calendar.readDate? s = some d ∧
      (bindInputs t.parameters supplied).get? p.name = some (.text s) ∧
      (bindInputs t.parameters (supplied.insert p.name v)).get? p.name = some (.date d)) := by
  refine ⟨execute_insert_of_noDateText engine hn hp h habsent, fun htext => ?_⟩
  obtain ⟨s, d, hv, hread, hcoerce⟩ := h.exists_date htext
  refine ⟨s, d, hread, ?_, ?_⟩
  · rw [get?_bindInputs (t.nodup_names_inputs hn) hp, h.bound_of_absent habsent, hv]
  · rw [get?_bindInputs (t.nodup_names_inputs hn) hp, h.bound_insert, hcoerce]

/-- An appointment, which is on a given day when nothing else is said. -/
def appointmentTemplate (day : String) : Template where
  name := "Appointment"
  formula := "start"
  parameters := [{ Parameter.input "start" .date with defaultText := some day }]

/-- A day that is written as such may be supplied or left out. -/
theorem execute_insert_default_appointmentTemplate :
    let t := appointmentTemplate "2024-01-15"
    ∃ v, v.kind = .date ∧ execute {} t (NameMap.insert .empty "start" v) = execute {} t .empty ∧
      (execute {} t .empty).wasSuccessful := by
  intro t
  let p : Parameter := { Parameter.input "start" .date with defaultText := some "2024-01-15" }
  have hread : (Calendar.readDate? "2024-01-15").isSome := by decide +kernel
  obtain ⟨d, hd⟩ := Option.isSome_iff_exists.1 hread
  have htrim : Text.trim "2024-01-15" = "2024-01-15" := by decide +kernel
  have hdecoded : p.defaultValue? = some (.date d) := by
    simp [p, Parameter.input, defaultValue?, DataType.readLiteral, DataType.readTyped?, htrim, hd]
  have hdefaults : p.Defaults (.date d) := ⟨rfl, hdecoded, .inr rfl⟩
  obtain ⟨hsame, -⟩ := execute_insert_default {} t p (.date d) .empty (by decide)
    List.mem_cons_self hdefaults (.inl rfl)
  exact ⟨.date d, rfl, hsame fun _ => rfl, by decide +kernel⟩

/-- The day that is written as JSON for its text stays a text as a default, and is a date when it is
supplied. -/
theorem not_forall_results_insert_default :
    ¬ ∀ (engine : Engine) (t : Template) (p : Parameter) (v : Value) (supplied : Values),
      (t.parameters.map Parameter.name).Nodup → p ∈ t.inputs → p.Defaults v →
        supplied.Absent p.name →
        (execute engine t (supplied.insert p.name v)).results =
          (execute engine t supplied).results := by
  intro h
  let t := appointmentTemplate "\"2024-01-15\""
  let p : Parameter := { Parameter.input "start" .date with defaultText := some "\"2024-01-15\"" }
  have hdefaults : p.Defaults (.text "2024-01-15") := ⟨rfl, by rfl, .inr (by rfl)⟩
  have hsame := h {} t p (.text "2024-01-15") .empty (by decide) List.mem_cons_self hdefaults
    (.inl rfl)
  have htext := congrArg (fun results => (results.get? primaryName).bind Value.text?) hsame
  revert htext
  decide +kernel

end Formulary
