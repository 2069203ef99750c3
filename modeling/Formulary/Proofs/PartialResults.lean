import Formulary.Proofs.Course
import Formulary.Proofs.Placement

/-!
# What is left when an output fails

The outputs are derived one after the other, so one that fails leaves the results of those before it.
They are the results of the template without that output and without those that come after it: the
outputs that are left come in the same order as before, although fewer names count for it, because
none of them reads an output that comes later. When some outputs read each other in a circle, none of
them is derived, and the results are those of the template without outputs.

## Main definitions

* `Template.dropOutputs` : a template without some of its outputs.

## Main statements

* `Schedule.resolve_filter`, `sequence_filter` : the order of a group without the members that come
  last;
* `ReachesOutputs.dropOutputs` : outputs play no part before they are derived;
* `execute_output_failure` : the results of a run that fails at an output.
-/
namespace Formulary

namespace Schedule

variable {reads : Placed → List String}

/-- The first ready member is taken out of its place. -/
theorem takeReady?_append {ready : Placed → Bool} {before after : List Placed} {m : Placed}
    (hbefore : ∀ n ∈ before, ready n = false) (hm : ready m) :
    takeReady? ready (before ++ m :: after) = some (m, before ++ after) := by
  induction before with
  | nil => simp [takeReady?, hm]
  | cons first rest ih =>
    have hrest := ih fun n hn => hbefore n (.tail _ hn)
    simp [takeReady?, hbefore first List.mem_cons_self, hrest]

/-- A member of the front part reads what is done, or other members of the front part. -/
theorem Respects.mem_names {done : List String} {before after : List Placed}
    (h : Respects reads done (before ++ after)) {m : Placed} (hm : m ∈ before) {name : String}
    (hname : name ∈ reads m) : name ∈ done ∨ name ∈ before.map Placed.name := by
  induction before generalizing done with
  | nil => cases hm
  | cons first rest ih =>
    rcases List.mem_cons.1 hm with rfl | hm
    · exact .inl (h.1 name hname)
    · rcases ih h.2 hm with hdone | hrest
      · rcases List.mem_cons.1 hdone with rfl | hdone
        · exact .inr List.mem_cons_self
        · exact .inl hdone
      · exact .inr (.tail _ hrest)

/-- A member that is kept has a counterpart in each list of the parameters that are kept. -/
theorem exists_of_map_eq_filter {keep : Parameter → Bool} {front back members : List Placed}
    {m : Placed} (hm : keep m.parameter)
    (h : members.map Placed.parameter = ((front ++ m :: back).map Placed.parameter).filter keep) :
    ∃ front' n back', members = front' ++ n :: back' ∧ n.parameter = m.parameter ∧
      front'.map Placed.parameter = (front.map Placed.parameter).filter keep ∧
      (front' ++ back').map Placed.parameter =
        ((front ++ back).map Placed.parameter).filter keep := by
  rw [List.map_append, List.map_cons, List.filter_append, List.filter_cons_of_pos hm] at h
  obtain ⟨front', tail, rfl, hfront, htail⟩ := List.map_eq_append_iff.1 h
  obtain ⟨n, back', rfl, hn, hback⟩ := List.map_eq_cons_iff.1 htail
  refine ⟨front', n, back', rfl, hn, hfront, ?_⟩
  rw [List.map_append, List.map_append, List.filter_append, hfront, hback]

/-- Of pending members, take away those that are resolved last. The others are resolved as before: in
each round the first ready one of them is the one that was taken, since whoever stands before it was
not ready. Only the parameters count, not their places. -/
theorem resolve_filter {f f' : Parameter → List String} {keep : Parameter → Bool}
    {count count' : Nat} {done : List String} {pending pending' before after : List Placed}
    (h : resolve (fun m => f m.parameter) count done pending = .ok (before ++ after))
    (hc : pending.length ≤ count) (hkeep : ∀ m ∈ before, keep m.parameter)
    (hdrop : ∀ m ∈ after, keep m.parameter = false)
    (hf : ∀ m ∈ before, f' m.parameter = f m.parameter)
    (hpending : pending'.map Placed.parameter = (pending.map Placed.parameter).filter keep)
    (hc' : pending'.length ≤ count') :
    ∃ members, resolve (fun m => f' m.parameter) count' done pending' = .ok members ∧
      members.map Placed.parameter = before.map Placed.parameter := by
  induction before generalizing count count' done pending pending' with
  | nil =>
    obtain ⟨hperm, -⟩ := resolve_ok h hc
    have hempty : (pending.map Placed.parameter).filter keep = [] := by
      refine List.filter_eq_nil_iff.2 fun p hp => ?_
      obtain ⟨m, hm, rfl⟩ := List.mem_map.1 hp
      simp [hdrop m (hperm.symm.subset hm)]
    obtain rfl : pending' = [] := List.map_eq_nil_iff.1 (hpending.trans hempty)
    cases count' <;> exact ⟨[], rfl, rfl⟩
  | cons m rest ih =>
    cases count with
    | zero => cases h
    | succ count =>
      obtain ⟨-, hnil⟩ | ⟨_, others, _, htake, hrest, heq⟩ := resolve_succ_ok h
      · cases hnil
      obtain ⟨rfl, rfl⟩ := List.cons.inj heq
      obtain ⟨hm, front, back, rfl, rfl, hfront⟩ := takeReady?_some htake
      obtain ⟨front', n, back', rfl, hn, hfront', hothers'⟩ :=
        exists_of_map_eq_filter (hkeep m List.mem_cons_self) hpending
      have hc : (front ++ back).length ≤ count := by simp at hc ⊢; omega
      obtain ⟨hperm, -⟩ := resolve_ok hrest hc
      have hnotReady : ∀ k ∈ front', (f' k.parameter).all done.contains = false := by
        intro k hk
        obtain ⟨hmem, hkept⟩ := List.mem_filter.1 (hfront' ▸ List.mem_map_of_mem hk)
        obtain ⟨j, hj, hjk⟩ := List.mem_map.1 hmem
        rw [← hjk] at hkept ⊢
        -- It is kept, so it is resolved in a later round.
        have hlater : j ∈ rest ++ after := hperm.symm.subset (List.mem_append_left _ hj)
        have hj' : j ∈ rest := (List.mem_append.1 hlater).resolve_right fun hafter =>
          Bool.false_ne_true ((hdrop j hafter).symm.trans hkept)
        rw [hf j (.tail _ hj')]
        exact hfront j hj
      have hready : (f' n.parameter).all done.contains := by
        rw [hn, hf m List.mem_cons_self]
        exact hm
      cases count' with
      | zero => simp at hc'
      | succ count' =>
        have hfewer : (front' ++ back').length ≤ count' := by simp at hc' ⊢; omega
        obtain ⟨members, hmembers, hsame⟩ := ih hrest hc (fun k hk => hkeep k (.tail _ hk))
          (fun k hk => hf k (.tail _ hk)) hothers' hfewer
        have hname : n.name = m.name := congrArg Parameter.name hn
        refine ⟨n :: members, ?_, by rw [List.map_cons, List.map_cons, hn, hsame]⟩
        simp [resolve, takeReady?_append hnotReady hready, hname, hmembers, bind, Except.bind, pure,
          Except.pure]

end Schedule

variable {limits : Limits} {order : EvaluationOrder} {group group' before after : List Placed}

open Schedule in
/-- Take away the members of a group that come last. The others have the same sequence: none of them
reads a member that is taken away. -/
theorem sequence_filter {keep : Parameter → Bool}
    (h : sequence limits order group = .ok (before ++ after))
    (hkeep : ∀ m ∈ before, keep m.parameter) (hdrop : ∀ m ∈ after, keep m.parameter = false)
    (hgroup : group'.map Placed.parameter = (group.map Placed.parameter).filter keep) :
    ∃ members, sequence limits order group' = .ok members ∧
      members.map Placed.parameter = before.map Placed.parameter := by
  cases order with
  | declared =>
    obtain rfl : group = before ++ after := Except.ok.inj h
    refine ⟨group', rfl, ?_⟩
    have hbefore : (before.map Placed.parameter).filter keep = before.map Placed.parameter := by
      simpa using hkeep
    have hafter : (after.map Placed.parameter).filter keep = [] := by simpa using hdrop
    rw [hgroup, List.map_append, List.filter_append, hbefore, hafter, List.append_nil]
  | dependency =>
    obtain ⟨hperm, hrespects⟩ := resolve_ok h (Nat.le_refl _)
    have hsub : before.map Placed.name ⊆ group'.map Placed.name := by
      intro name hname
      obtain ⟨m, hm, rfl⟩ := List.mem_map.1 hname
      have hmem : m.parameter ∈ group'.map Placed.parameter := by
        refine hgroup ▸ List.mem_filter.2 ⟨List.mem_map_of_mem ?_, hkeep m hm⟩
        exact hperm.subset (List.mem_append_left _ hm)
      rw [← Placed.map_name]
      exact List.mem_map_of_mem hmem
    have hsup : group'.map Placed.name ⊆ group.map Placed.name := by
      rw [← Placed.map_name, ← Placed.map_name, hgroup]
      exact (List.filter_sublist.map Parameter.name).subset
    let f (group : List Placed) (p : Parameter) :=
      (p.reads limits).filter (group.map Placed.name).contains
    have hreads : ∀ m ∈ before, f group' m.parameter = f group m.parameter := by
      intro m hm
      refine List.filter_congr fun name hname => ?_
      refine Bool.eq_iff_iff.2 ⟨fun hin => ?_, fun hin => ?_⟩
      · simpa using hsup (by simpa using hin)
      · have hread := hrespects.mem_names hm (List.mem_filter.2 ⟨hname, hin⟩)
        simpa using hsub (hread.resolve_left List.not_mem_nil)
    exact resolve_filter (f := f group) h (Nat.le_refl _) hkeep hdrop hreads hgroup (Nat.le_refl _)

/-! ### Templates without some outputs -/

namespace Template

variable (dropped : String → Bool) (t : Template)

/-- Whether a parameter stays when outputs are taken away by their names. -/
def keeps (p : Parameter) : Bool := p.role != .output || !dropped p.name

/-- A template without the outputs of some names. -/
def dropOutputs : Template := { t with parameters := t.parameters.filter (keeps dropped) }

theorem inputs_dropOutputs : (t.dropOutputs dropped).inputs = t.inputs := by
  simp only [inputs, dropOutputs, List.filter_filter]
  refine List.filter_congr fun p _ => ?_
  cases hrole : p.role <;> simp [keeps, Parameter.isInput, hrole]

theorem validate_dropOutputs (supplied : Values) :
    validate (t.dropOutputs dropped).parameters supplied = validate t.parameters supplied := by
  have h := t.inputs_dropOutputs dropped
  unfold inputs at h
  rw [validate, validate, h]

theorem bindInputs_dropOutputs (supplied : Values) :
    bindInputs (t.dropOutputs dropped).parameters supplied =
      bindInputs t.parameters supplied := by
  have h := t.inputs_dropOutputs dropped
  unfold inputs at h
  rw [bindInputs, bindInputs, h]

theorem derivedParameters_dropOutputs (role : Role) :
    (t.dropOutputs dropped).derivedParameters role =
      (t.derivedParameters role).filter (keeps dropped) := by
  simp only [derivedParameters, dropOutputs, List.filter_filter]
  exact List.filter_congr fun p _ => Bool.and_comm _ _

/-- The parameters of a role are those of the template that stay. -/
theorem map_derivedBy_dropOutputs (role : Role) :
    ((t.dropOutputs dropped).derivedBy role).map Placed.parameter =
      ((t.derivedBy role).map Placed.parameter).filter (keeps dropped) := by
  rw [map_derivedBy, map_derivedBy, derivedParameters_dropOutputs]

end Template

open Template

variable {engine : Engine} {t : Template} {supplied context results : Values}
  {internals : List Placed} {v : Value}

/-- A run reaches its outputs with the same context and the same primary result, whatever outputs
there are. -/
theorem ReachesOutputs.dropOutputs (h : ReachesOutputs engine t supplied internals context v)
    (dropped : String → Bool) : ∃ internals',
      ReachesOutputs engine (t.dropOutputs dropped) supplied internals' context v := by
  have hkeep : ∀ m ∈ internals, keeps dropped m.parameter := by
    intro m hm
    obtain ⟨-, hrole, -⟩ := mem_derivedBy.1 ((sequence_perm h.sequenced).subset hm)
    simp [keeps, hrole]
  have hsequence : sequence engine.limits engine.order (t.derivedBy .internal) =
      .ok (internals ++ []) := by
    rw [List.append_nil]
    exact h.sequenced
  obtain ⟨internals', hinternals', hsame⟩ := sequence_filter hsequence hkeep
    (by simp) (t.map_derivedBy_dropOutputs dropped .internal)
  have hvalid : validate (t.dropOutputs dropped).parameters supplied = [] := by
    rw [validate_dropOutputs]
    exact h.valid
  have hderived : Derives engine.limits []
      (bindInputs (t.dropOutputs dropped).parameters supplied) (internals'.map Placed.parameter)
      context := by
    rw [bindInputs_dropOutputs, hsame]
    exact h.derived
  exact ⟨internals', ⟨hvalid, hinternals', hderived⟩, h.evaluated⟩

/-- The outputs that come first in a sequence, derived alone, are all outputs of a template without
the others. -/
theorem ReachesOutputs.execute_dropOutputs {before after : List Placed}
    {dropped : String → Bool} (h : ReachesOutputs engine t supplied internals context v)
    (houtputs : sequence engine.limits engine.order (t.derivedBy .output) = .ok (before ++ after))
    (hderived : Derives engine.limits [context] (primaryResults v) (before.map Placed.parameter)
      results)
    (hbefore : ∀ m ∈ before, dropped m.name = false) (hafter : ∀ m ∈ after, dropped m.name) :
    (execute engine (t.dropOutputs dropped) supplied).wasSuccessful ∧
      (execute engine (t.dropOutputs dropped) supplied).results = results := by
  have hdrop : ∀ m ∈ after, keeps dropped m.parameter = false := by
    intro m hm
    obtain ⟨-, hrole, -⟩ :=
      mem_derivedBy.1 ((sequence_perm houtputs).subset (List.mem_append_right _ hm))
    have hdropped : dropped m.parameter.name := hafter m hm
    simp [keeps, hrole, hdropped]
  have hkeep : ∀ m ∈ before, keeps dropped m.parameter := by
    intro m hm
    have hkept : dropped m.parameter.name = false := hbefore m hm
    simp [keeps, hkept]
  obtain ⟨internals', hreach⟩ := h.dropOutputs dropped
  obtain ⟨outputs, houtputs', hsame⟩ := sequence_filter houtputs hkeep hdrop
    (t.map_derivedBy_dropOutputs dropped .output)
  refine execute_finishes_iff.2 ⟨internals', context, v, outputs, hreach, houtputs', ?_⟩
  rw [hsame]
  exact hderived

/-- Without outputs, the primary result is all that there is. -/
theorem ReachesOutputs.execute_dropAll (h : ReachesOutputs engine t supplied internals context v) :
    (execute engine (t.dropOutputs fun _ => true) supplied).wasSuccessful ∧
      (execute engine (t.dropOutputs fun _ => true) supplied).results = primaryResults v := by
  obtain ⟨internals', hreach⟩ := h.dropOutputs fun _ => true
  have hnone : (t.dropOutputs fun _ => true).derivedBy .output = [] := by
    refine List.map_eq_nil_iff.1 ((t.map_derivedBy_dropOutputs _ .output).trans ?_)
    refine List.filter_eq_nil_iff.2 fun p hp => ?_
    obtain ⟨m, hm, rfl⟩ := List.mem_map.1 hp
    simp [keeps, (mem_derivedBy.1 hm).2.1]
  refine execute_finishes_iff.2 ⟨internals', context, v, [], hreach, ?_, .nil _⟩
  rw [hnone]
  cases engine.order <;> rfl

/-- A run that fails at an output for another reason than a circle leaves the results of the template
without that output and the outputs that come after it, whose run succeeds. A run that fails at its
outputs for a circle leaves the results of the template without outputs, whose run succeeds too. -/
theorem execute_output_failure (engine : Engine) (t : Template) (supplied : Values)
    (hn : (t.parameters.map Parameter.name).Nodup) (name : String) (cause : Cause)
    (h : (execute engine t supplied).failure = some ⟨.output name, cause⟩) :
    ((∀ c, cause ≠ .cycle c) → ∃ before m after,
      sequence engine.limits engine.order (t.derivedBy .output) = .ok (before ++ m :: after) ∧
      m.name = name ∧
      let shortened := t.dropOutputs ((m :: after).map Placed.name).contains
      (execute engine shortened supplied).wasSuccessful ∧
        (execute engine shortened supplied).results = (execute engine t supplied).results) ∧
    ∀ c, cause = .cycle c →
      let shortened := t.dropOutputs fun _ => true
      (execute engine shortened supplied).wasSuccessful ∧
        (execute engine shortened supplied).results = (execute engine t supplied).results := by
  have hcourse := calculate_course engine t supplied
  have hfailure : (calculate engine t supplied).failure = some ⟨.output name, cause⟩ :=
    (Run.failure_ending _).symm.trans h
  have hresults : (execute engine t supplied).results = (calculate engine t supplied).results :=
    Run.results_ending (by simp [Run.failure_eq_some_iff.1 hfailure])
  rw [hresults]
  generalize calculate engine t supplied = r at hcourse hfailure
  cases hcourse with
  | outputCycle hreach hcycle =>
    cases hfailure
    refine ⟨fun hno => absurd rfl (hno _), fun c _ => ?_⟩
    exact hreach.execute_dropAll
  | outputFailure hreach houtputs hderived he =>
    obtain ⟨⟨⟩, rfl⟩ := Failure.mk.inj (Run.eq_of_failure_eq_some rfl hfailure)
    refine ⟨fun _ => ⟨_, _, _, houtputs, rfl, ?_⟩, nofun⟩
    have hnodup := ((sequence_perm houtputs).map Placed.name).nodup_iff.2
      ((t.names_derivedBy_sublist .output).nodup hn)
    rw [List.map_append, List.nodup_append] at hnodup
    refine hreach.execute_dropOutputs houtputs hderived (fun k hk => ?_) fun k hk => ?_
    · have hother := hnodup.2.2 k.name (List.mem_map_of_mem hk)
      grind
    · simpa using List.mem_map_of_mem hk
  | invalid | internalCycle | finished => cases hfailure
  | internalFailure | primaryFailure => cases Run.eq_of_failure_eq_some rfl hfailure

/-- A gross price, declared before the net price and the tax that it is the sum of. The tax reads
what is bound nowhere. -/
def taxTemplate : Template where
  name := "Tax"
  formula := "price"
  parameters := [
    { Parameter.input "price" .number with defaultText := some "4" },
    .output "gross" .number "net + tax",
    .output "net" .number "price * 2",
    .output "tax" .number "net * rate"]

/-- The run fails at the tax, and leaves the net price that the tax reads. -/
theorem execute_output_failure_taxTemplate :
    (taxTemplate.parameters.map Parameter.name).Nodup ∧
    ∃ cause, (execute ⟨{}, .dependency⟩ taxTemplate .empty).failure = some ⟨.output "tax", cause⟩ ∧
    (execute ⟨{}, .dependency⟩ taxTemplate .empty).results.names = ["net", "resultado"] ∧
    ∃ before m after,
      sequence {} .dependency (taxTemplate.derivedBy .output) = .ok (before ++ m :: after) ∧
      m.name = "tax" ∧
      let shortened := taxTemplate.dropOutputs ((m :: after).map Placed.name).contains
      (execute ⟨{}, .dependency⟩ shortened .empty).wasSuccessful ∧
        (execute ⟨{}, .dependency⟩ shortened .empty).results =
          (execute ⟨{}, .dependency⟩ taxTemplate .empty).results := by
  have hstopped : (execute ⟨{}, .dependency⟩ taxTemplate .empty).failure.any (fun f =>
      decide (f.stage = .output "tax") && !(f.cause matches .cycle _)) = true := by
    decide +kernel
  have hnames : (execute ⟨{}, .dependency⟩ taxTemplate .empty).results.names =
      ["net", "resultado"] := by
    decide +kernel
  obtain ⟨⟨stage, cause⟩, hfailure, hkind⟩ := (Option.any_eq_true _ _).1 hstopped
  simp only [Bool.and_eq_true, decide_eq_true_eq] at hkind
  obtain ⟨rfl, hcause⟩ := hkind
  have hother : ∀ c, cause ≠ .cycle c := by
    rintro c rfl
    simp at hcause
  have hn : (taxTemplate.parameters.map Parameter.name).Nodup := by decide
  obtain ⟨htruncated, -⟩ := execute_output_failure ⟨{}, .dependency⟩ taxTemplate .empty hn "tax"
    cause hfailure
  exact ⟨hn, cause, hfailure, hnames, htruncated hother⟩

end Formulary
