import Mathlib.Data.List.Find
import Formulary.Proofs.Crashes

/-!
# Previews of previews

A preview fills in the inputs that nothing is supplied for, one after the other, and each looks at the
values that were filled in before. Inputs with different names do not see each other there. What was
filled in is kept when it is supplied again. Where it is null, because a default is null or the first
allowed value is, it is filled in once more, with null again. So the dates of a preview stay those of
the first one, and the preview of its values is the same preview.

## Main definitions

* `Parameter.filler` : what an input is filled in with;
* `Parameter.lacksFiller` : nothing is supplied for an input, and there is nothing to fill it in with;
* `FilledIn` : what supplied values are filled in to.

## Main statements

* `foldlM_fillIn_eq_error_iff` : the first input that lacks a filler is reported;
* `filledIn_of_foldlM` : each input is filled in or kept, and all else is kept;
* `foldlM_fillIn_of_settled` : what would be filled in with the same again stays as it is;
* `preview_sampleInputs` : a preview of what a preview supplies is the same;
* `preview_preview` : what a preview supplies, and the preview of that.
-/
namespace Formulary

open Calendar (Instant)

theorem NameMap.insert_eq_self {α : Type} {m : NameMap α} {name : String} {v : α}
    (h : m.get? name = some v) : m.insert name v = m := by
  refine NameMap.eq_of_get? fun other => ?_
  rw [NameMap.get?_insert]
  split
  · rename_i hname
    rw [← hname, h]
  · rfl

namespace Parameter

variable {p : Parameter} {v : Value} {supplied values : Values} {now : Instant} {e : NoSample}

/-- What an input without a value is filled in with: its default, else a sample. -/
def filler (now : Instant) (p : Parameter) : Except NoSample Value :=
  match p.defaultValue? with
  | some v => .ok v
  | none => p.sample now

/-- Nothing is supplied for an input that allows no value and has no default. -/
def lacksFiller (supplied : Values) (p : Parameter) : Bool :=
  p.dataType == .enum && p.allowedValues.isEmpty && p.defaultText.isNone &&
    (suppliedFor p.name supplied).isNone

theorem lacksFiller_iff : p.lacksFiller supplied ↔
    p.dataType = .enum ∧ p.allowedValues = [] ∧ p.defaultText = none ∧
      supplied.Absent p.name := by
  rw [← suppliedFor_eq_none_iff]
  simp [lacksFiller, and_assoc]

theorem lacksFiller_insert_of_ne {name : String} (h : name ≠ p.name) (v : Value) :
    p.lacksFiller (supplied.insert name v) = p.lacksFiller supplied := by
  rw [lacksFiller, suppliedFor_insert_of_ne h, lacksFiller]

/-- Only an enum without allowed values and without a default has no filler. -/
theorem filler_eq_error_iff : p.filler now = .error e ↔
    (p.dataType = .enum ∧ p.allowedValues = [] ∧ p.defaultText = none) ∧ e = ⟨p.name⟩ := by
  unfold filler defaultValue?
  cases hdefault : p.defaultText with
  | some text => simp
  | none =>
    cases htype : p.dataType with
    | enum =>
      cases hallowed : p.allowedValues with
      | nil => simp [sample, htype, hallowed, eq_comm]
      | cons v rest => simp [sample, htype, hallowed]
    | _ => simp [sample, htype]

/-- The time is not null, so a null that an input is filled in with does not depend on it. -/
theorem filler_of_isNull (h : p.filler now = .ok v) (hv : v.isNull) (now' : Instant) :
    p.filler now' = .ok v := by
  unfold filler at h ⊢
  cases hdefault : p.defaultValue? with
  | some w => simpa only [hdefault] using h
  | none =>
    rw [hdefault] at h
    rw [← h]
    cases htype : p.dataType with
    | date =>
      obtain rfl : Value.date now = v := by simpa [sample, htype] using h
      cases hv
    | _ => simp [sample, htype]

end Parameter

open Parameter

variable {engine : Engine} {t : Template} {p : Parameter} {inputs : List Parameter}
  {supplied values : Values} {now : Instant} {v : Value} {e : NoSample}

theorem fillIn_of_supplied (h : suppliedFor p.name values = some v) :
    fillIn now p values = .ok values := by
  rw [fillIn, h]

theorem fillIn_of_lacking (h : suppliedFor p.name values = none) :
    fillIn now p values = (p.filler now).map (values.insert p.name) := by
  simp only [fillIn, filler, h]
  cases p.defaultValue? with
  | some v => rfl
  | none => cases p.sample now <;> rfl

/-! ### Inputs that cannot be filled in -/

/-- The first input that lacks a filler is reported, whatever the time is. -/
theorem foldlM_fillIn_eq_error_iff (hn : (inputs.map Parameter.name).Nodup) :
    inputs.foldlM (fun values p => fillIn now p values) supplied = .error e ↔
      ∃ p, inputs.find? (fun p => p.lacksFiller supplied) = some p ∧ e = ⟨p.name⟩ := by
  induction inputs generalizing supplied with
  | nil => simp [pure, Except.pure]
  | cons p rest ih =>
    obtain ⟨hp, hrest⟩ := List.nodup_cons.1 hn
    rw [List.foldlM_cons]
    cases hsupplied : suppliedFor p.name supplied with
    | some v =>
      have hlacks : p.lacksFiller supplied = false := by simp [lacksFiller, hsupplied]
      rw [fillIn_of_supplied hsupplied, List.find?_cons_of_neg (by simp [hlacks])]
      exact ih hrest
    | none =>
      rw [fillIn_of_lacking hsupplied]
      cases hfiller : p.filler now with
      | error e' =>
        obtain ⟨⟨htype, hallowed, hdefault⟩, rfl⟩ := filler_eq_error_iff.1 hfiller
        have hlacks : p.lacksFiller supplied :=
          lacksFiller_iff.2 ⟨htype, hallowed, hdefault, suppliedFor_eq_none_iff.1 hsupplied⟩
        rw [List.find?_cons_of_pos hlacks]
        simp [Except.map, bind, Except.bind, eq_comm]
      | ok v =>
        have hlacks : ¬ p.lacksFiller supplied := by
          intro h
          obtain ⟨htype, hallowed, hdefault, -⟩ := lacksFiller_iff.1 h
          have herror : p.filler now = .error ⟨p.name⟩ :=
            filler_eq_error_iff.2 ⟨⟨htype, hallowed, hdefault⟩, rfl⟩
          cases hfiller.symm.trans herror
        -- The inputs that are left have other names, so they lack what they lacked.
        have hsame : rest.find? (fun q => q.lacksFiller (supplied.insert p.name v)) =
            rest.find? (fun q => q.lacksFiller supplied) := by
          refine List.find?_congr fun q hq => lacksFiller_insert_of_ne ?_ v
          intro h
          exact hp (h ▸ List.mem_map_of_mem hq)
        rw [List.find?_cons_of_neg hlacks, ← hsame]
        exact ih hrest

/-! ### Inputs that are filled in -/

/-- What supplied values are filled in to: the inputs without a value have their fillers, and all other
names are bound to what they were bound to. -/
structure FilledIn (now : Instant) (inputs : List Parameter) (supplied values : Values) : Prop where
  filled : ∀ p ∈ inputs, supplied.Absent p.name →
    ∃ v, p.filler now = .ok v ∧ values.get? p.name = some v
  kept : ∀ name, (supplied.Absent name → ∀ p ∈ inputs, p.name ≠ name) →
    values.get? name = supplied.get? name

/-- Filling in one input after the other fills in each as if it were the only one. -/
theorem filledIn_of_foldlM (hn : (inputs.map Parameter.name).Nodup)
    (h : inputs.foldlM (fun values p => fillIn now p values) supplied = .ok values) :
    FilledIn now inputs supplied values := by
  induction inputs generalizing supplied with
  | nil =>
    cases h
    exact ⟨fun _ h => (List.not_mem_nil h).elim, fun _ _ => rfl⟩
  | cons p rest ih =>
    obtain ⟨hp, hrest⟩ := List.nodup_cons.1 hn
    rw [List.foldlM_cons] at h
    cases hsupplied : suppliedFor p.name supplied with
    | some v =>
      rw [fillIn_of_supplied hsupplied] at h
      obtain ⟨hfilled, hkept⟩ := ih hrest h
      refine ⟨?_, fun name hname => hkept name fun habsent q hq => hname habsent q (.tail _ hq)⟩
      intro q hq habsent
      rcases List.mem_cons.1 hq with rfl | hq
      · cases hsupplied.symm.trans (suppliedFor_eq_none_iff.2 habsent)
      · exact hfilled q hq habsent
    | none =>
      rw [fillIn_of_lacking hsupplied] at h
      cases hfiller : p.filler now with
      | error e => rw [hfiller] at h; cases h
      | ok v =>
        rw [hfiller] at h
        obtain ⟨hfilled, hkept⟩ := ih hrest h
        have hne : ∀ q ∈ rest, p.name ≠ q.name := by
          intro q hq h
          exact hp (h ▸ List.mem_map_of_mem hq)
        constructor
        · intro q hq habsent
          rcases List.mem_cons.1 hq with rfl | hq
          · refine ⟨v, hfiller, ?_⟩
            rw [hkept _ fun _ r hr => (hne r hr).symm, NameMap.get?_insert, if_pos rfl]
          · exact hfilled q hq ((absent_insert_iff_of_ne (hne q hq) v).2 habsent)
        · intro name hname
          have hpname : p.name ≠ name := by
            rintro rfl
            exact hname (suppliedFor_eq_none_iff.1 hsupplied) p List.mem_cons_self rfl
          rw [hkept name fun habsent q hq =>
            hname ((absent_insert_iff_of_ne hpname v).1 habsent) q (.tail _ hq),
            NameMap.get?_insert, if_neg hpname]

/-- An input that has no value, and is bound to what it would be filled in with, stays as it is. -/
theorem foldlM_fillIn_of_settled (h : ∀ p ∈ inputs, values.Absent p.name →
      ∃ v, p.filler now = .ok v ∧ values.get? p.name = some v) :
    inputs.foldlM (fun values p => fillIn now p values) values = .ok values := by
  induction inputs with
  | nil => rfl
  | cons p rest ih =>
    have hfill : fillIn now p values = .ok values := by
      cases hsupplied : suppliedFor p.name values with
      | some v => exact fillIn_of_supplied hsupplied
      | none =>
        obtain ⟨v, hfiller, hv⟩ := h p List.mem_cons_self (suppliedFor_eq_none_iff.1 hsupplied)
        rw [fillIn_of_lacking hsupplied, hfiller]
        exact congrArg Except.ok (NameMap.insert_eq_self hv)
    rw [List.foldlM_cons, hfill]
    exact ih fun q hq => h q (.tail _ hq)

namespace FilledIn

/-- The inputs that still have no value are bound to null, and would be again at any time. -/
theorem settled (h : FilledIn now inputs supplied values) (now' : Instant) :
    ∀ p ∈ inputs, values.Absent p.name →
      ∃ v, p.filler now' = .ok v ∧ values.get? p.name = some v := by
  intro p hp habsent
  by_cases hsupplied : supplied.Absent p.name
  · obtain ⟨v, hfiller, hv⟩ := h.filled p hp hsupplied
    have hnull : v.isNull := by
      rcases habsent with hnone | hnull
      · cases hv.symm.trans hnone
      · obtain rfl := Option.some.inj (hv.symm.trans hnull)
        rfl
    exact ⟨v, filler_of_isNull hfiller hnull now', hv⟩
  · have hsame : values.get? p.name = supplied.get? p.name :=
      h.kept p.name fun habsent => absurd habsent hsupplied
    exact absurd (by rwa [Values.Absent, hsame] at habsent) hsupplied

theorem isSome_get? (h : FilledIn now inputs supplied values) (hp : p ∈ inputs) :
    (values.get? p.name).isSome := by
  by_cases hsupplied : supplied.Absent p.name
  · obtain ⟨v, -, hv⟩ := h.filled p hp hsupplied
    exact Option.isSome_of_eq_some hv
  · rw [h.kept p.name fun habsent => absurd habsent hsupplied]
    cases hget : supplied.get? p.name with
    | none => exact absurd (.inl hget) hsupplied
    | some v => rfl

/-- What was supplied is kept, unless it was null for an input. -/
theorem get?_of_kept (h : FilledIn now inputs supplied values) {name : String}
    (hv : supplied.get? name = some v)
    (hkept : v.isNull = false ∨ ∀ p ∈ inputs, p.name ≠ name) : values.get? name = some v := by
  rw [← hv]
  refine h.kept name fun habsent => hkept.resolve_left fun hnull => ?_
  rcases habsent with hnone | hnull'
  · cases hv.symm.trans hnone
  · obtain rfl := Option.some.inj (hv.symm.trans hnull')
    cases hnull

/-- Only inputs are filled in. -/
theorem supplied_or_input (h : FilledIn now inputs supplied values) {name : String}
    (hname : (values.get? name).isSome) :
    (supplied.get? name).isSome ∨ ∃ p ∈ inputs, p.name = name := by
  by_contra hneither
  obtain ⟨hnone, hnames⟩ := not_or.1 hneither
  rw [h.kept name fun _ p hp hpname => hnames ⟨p, hp, hpname⟩] at hname
  exact hnone hname

end FilledIn

/-! ### Previews -/

variable {shown : Preview}

/-- A preview shows what is missing, or the outcome of a run on what was made up. -/
theorem preview_eq_ok_iff : preview engine now t supplied = .ok shown ↔
    (∃ e, synthesize now t supplied = .error e ∧ shown = ⟨supplied, .error e⟩) ∨
    ∃ values o, synthesize now t supplied = .ok values ∧ execute engine t values = .ok o ∧
      shown = ⟨values, .ok o⟩ := by
  cases hsynthesize : synthesize now t supplied with
  | error e => simp [preview, hsynthesize, eq_comm]
  | ok values =>
    have hpreview : preview engine now t supplied =
        (execute engine t values >>= fun o => .ok ⟨values, .ok o⟩) := by
      rw [preview, hsynthesize]
      rfl
    rw [hpreview, bind_eq_ok]
    simp [eq_comm]

/-- There is an error when some enum without allowed values and without a default is not supplied. -/
theorem exists_error_preview_iff (hn : (t.inputs.map Parameter.name).Nodup) :
    (∃ shown, preview engine now t supplied = .ok shown ∧ shown.error.isSome) ↔
      ∃ p ∈ t.inputs, p.dataType = .enum ∧ p.allowedValues = [] ∧ p.defaultText = none ∧
        supplied.Absent p.name := by
  simp only [← lacksFiller_iff, ← List.find?_isSome]
  constructor
  · rintro ⟨shown, hshown, herror⟩
    obtain ⟨e, hsynthesize, rfl⟩ | ⟨values, o, -, -, rfl⟩ := preview_eq_ok_iff.1 hshown
    · obtain ⟨p, hp, -⟩ := (foldlM_fillIn_eq_error_iff hn).1 hsynthesize
      simp [hp]
    · cases herror
  · intro h
    obtain ⟨p, hp⟩ := Option.isSome_iff_exists.1 h
    have hsynthesize : synthesize now t supplied = .error ⟨p.name⟩ :=
      (foldlM_fillIn_eq_error_iff hn).2 ⟨p, hp, rfl⟩
    exact ⟨_, preview_eq_ok_iff.2 (.inl ⟨_, hsynthesize, rfl⟩), rfl⟩

/-- Without an error, what is shown is what the supplied values are filled in to. -/
theorem filledIn_of_error_eq_none (hn : (t.inputs.map Parameter.name).Nodup)
    (hshown : preview engine now t supplied = .ok shown) (herror : shown.error = none) :
    FilledIn now t.inputs supplied shown.sampleInputs := by
  obtain ⟨e, -, rfl⟩ | ⟨values, o, hsynthesize, -, rfl⟩ := preview_eq_ok_iff.1 hshown
  · cases herror
  · exact filledIn_of_foldlM hn hsynthesize

/-- What a preview supplies is filled in to itself, or lacks what was lacking, at any time. -/
theorem preview_sampleInputs (hn : (t.inputs.map Parameter.name).Nodup)
    (hshown : preview engine now t supplied = .ok shown) (now' : Instant) :
    preview engine now' t shown.sampleInputs = .ok shown := by
  obtain ⟨e, hsynthesize, rfl⟩ | ⟨values, o, hsynthesize, ho, rfl⟩ := preview_eq_ok_iff.1 hshown
  · have hagain : synthesize now' t supplied = .error e :=
      (foldlM_fillIn_eq_error_iff hn).2 ((foldlM_fillIn_eq_error_iff hn).1 hsynthesize)
    exact preview_eq_ok_iff.2 (.inl ⟨e, hagain, rfl⟩)
  · have hfilled : FilledIn now t.inputs supplied values := filledIn_of_foldlM hn hsynthesize
    have hagain : synthesize now' t values = .ok values :=
      foldlM_fillIn_of_settled (hfilled.settled now')
    exact preview_eq_ok_iff.2 (.inr ⟨values, o, hagain, ho, rfl⟩)

/-- A preview tells the same as a preview of the values that it supplied, which may be at another time.
There is an error when some enum without allowed values and without a default is not supplied.
Otherwise all inputs are bound: what was supplied is kept, unless it was null for an input, and there
are no other names. A preview that has no `NaN` to start from shows something. -/
theorem preview_preview (engine : Engine) (now : Instant) (t : Template) (supplied : Values)
    (hn : (t.parameters.map Parameter.name).Nodup) :
    ((∃ shown, preview engine now t supplied = .ok shown ∧ shown.error.isSome) ↔
      ∃ p ∈ t.inputs, p.dataType = .enum ∧ p.allowedValues = [] ∧ p.defaultText = none ∧
        supplied.Absent p.name) ∧
    (∀ shown, preview engine now t supplied = .ok shown →
      (shown.error = none →
        (∀ p ∈ t.inputs, (shown.sampleInputs.get? p.name).isSome) ∧
        (∀ name v, supplied.get? name = some v →
          v.isNull = false ∨ (∀ p ∈ t.inputs, p.name ≠ name) →
            shown.sampleInputs.get? name = some v) ∧
        (∀ name, (shown.sampleInputs.get? name).isSome →
          (supplied.get? name).isSome ∨ ∃ p ∈ t.inputs, p.name = name)) ∧
      ∀ now', preview engine now' t shown.sampleInputs = .ok shown) ∧
    (supplied.HasNoNaN → ∃ shown, preview engine now t supplied = .ok shown) := by
  have hinputs := t.nodup_names_inputs hn
  refine ⟨exists_error_preview_iff hinputs, fun shown hshown => ⟨fun hnone => ?_,
    preview_sampleInputs hinputs hshown⟩, exists_preview_eq_ok engine now t⟩
  have hfilled := filledIn_of_error_eq_none hinputs hshown hnone
  refine ⟨fun p hp => hfilled.isSome_get? hp, ?_, fun name => hfilled.supplied_or_input⟩
  exact fun name v hv hkept => hfilled.get?_of_kept hv hkept

/-- A visit on some day, whose grade may be null, as may be the number of guests. -/
def visitTemplate : Template where
  name := "Visit"
  formula := "day"
  parameters := [.input "day" .date,
    { Parameter.input "grade" .enum with allowedValues := [.null, .text "C25"] },
    { Parameter.input "guests" .number with defaultText := some "null" }]

/-- A preview of a visit in 1970 tells the same a day later. -/
theorem preview_preview_visitTemplate :
    let supplied : Values := .ofEntries [("guests", .null), ("note", .null)]
    let nextDay : Instant := ⟨86400, 0, by decide, by decide, by decide⟩
    (visitTemplate.parameters.map Parameter.name).Nodup ∧
      ∃ shown, preview {} .epoch visitTemplate supplied = .ok shown ∧ shown.error = none ∧
        shown.wasSuccessful ∧ shown.sampleInputs.names = ["day", "grade", "guests", "note"] ∧
        preview {} nextDay visitTemplate shown.sampleInputs = .ok shown := by
  intro supplied nextDay
  have hn : (visitTemplate.parameters.map Parameter.name).Nodup := by decide
  have hfacts : (preview {} .epoch visitTemplate supplied).toOption.map (fun shown =>
      (shown.error, shown.wasSuccessful, shown.sampleInputs.names)) =
        some (none, true, ["day", "grade", "guests", "note"]) := by decide +kernel
  obtain ⟨-, hreturned, hsome⟩ := preview_preview {} .epoch visitTemplate supplied hn
  obtain ⟨shown, hshown⟩ := hsome (by decide +kernel)
  simp only [hshown, Except.toOption, Option.map_some, Option.some.injEq, Prod.mk.injEq] at hfacts
  obtain ⟨herror, hsuccess, hnames⟩ := hfacts
  exact ⟨hn, shown, hshown, herror, hsuccess, hnames, (hreturned shown hshown).2 nextDay⟩

end Formulary
