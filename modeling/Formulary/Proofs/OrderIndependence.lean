import Formulary.Proofs.Course
import Formulary.Proofs.Placement

/-!
# The order of a declaration does not matter

When derived parameters are ordered by what they read, a run comes to its end exactly when the
parameters of both roles can be ordered at all and their equations have a solution; the solution is
what it results in. None of this depends on the order in which the parameters are declared.

Each formula is evaluated in the state that the run has come to, and later formulas write to that
state. No later write touches what an earlier formula has read; so at the end of a run every derived
value is still the value of its formula.

## Main definitions

* `Orderable` : parameters that have an order in which none reads ahead;
* `Solution` : the equations of a whole template.

## Main statements

* `exists_derives_iff` : deriving a group in sequence is solving its equations;
* `exists_finishes_iff` : coming to the end is having a solution;
* `Solution.perm` : the equations of a template have no order;
* `execute_perm` : templates that declare the same parameters in different orders agree;
* `calculate_equations` : a run that comes to its end leaves all equations of its template true.
-/
namespace Formulary

/-- Bindings of different names can be made in any order. -/
theorem NameMap.ofEntries_perm {α : Type} {entries entries' : Entries α}
    (hp : entries.Perm entries') (hn : (entries.map (·.1)).Nodup) :
    ofEntries entries = ofEntries entries' := by
  refine hp.foldl_eq' (fun x hx y hy m => ?_) _
  by_cases hname : x.1 = y.1
  · rw [List.inj_on_of_nodup_map hn hx hy hname]
  · refine eq_of_get? fun name => ?_
    simp only [get?_insert]
    grind

variable {limits : Limits} {t : Template} {parameters : List Parameter} {supplied : Values}

/-- Whether there is a problem does not depend on the order of the inputs. -/
theorem validate_eq_nil_of_perm (hp : parameters.Perm t.parameters)
    (h : validate t.parameters supplied = []) : validate parameters supplied = [] := by
  have hproblems := (hp.filter Parameter.isInput).filterMap fun p =>
    (p.violation? supplied).map fun violation => (⟨p.name, violation⟩ : Problem)
  exact List.perm_nil.1 (h ▸ hproblems)

/-- Inputs of different names are bound in any order. -/
theorem bindInputs_perm (hp : parameters.Perm t.parameters)
    (hn : (parameters.map Parameter.name).Nodup) :
    bindInputs parameters supplied = bindInputs t.parameters supplied := by
  refine NameMap.ofEntries_perm ((hp.filter _).map _) ?_
  rw [List.map_map]
  exact (List.filter_sublist.map Parameter.name).nodup hn

/-- The parameters have an order in which none reads ahead. -/
def Orderable (limits : Limits) (parameters : List Parameter) : Prop :=
  ∃ ordered : List Parameter, ordered.Perm parameters ∧ Ordered limits ordered

variable (limits) in
/-- A group can be sequenced and derived exactly when it can be ordered and its equations have
the solution that is found. -/
theorem exists_derives_iff {group : List Placed} (below : Scope) (start last : Values)
    (hn : (group.map Placed.name).Nodup) (hm : mathName ∉ group.map Placed.name) :
    (∃ members, sequence limits .dependency group = .ok members ∧
      Derives limits below start (members.map Placed.parameter) last) ↔
      Orderable limits (group.map Placed.parameter) ∧
        Solves limits below (group.map Placed.parameter) start last := by
  constructor
  · rintro ⟨members, hsequence, hderives⟩
    obtain ⟨hperm, hordered⟩ := sequence_ok hn hsequence
    have hnodup := (hperm.map Placed.name).nodup_iff.2 hn
    have hmath := fun h => hm ((hperm.map Placed.name).subset h)
    have hparameters := hperm.map Placed.parameter
    refine ⟨⟨_, hparameters, hordered⟩, Solves.perm ?_ hparameters⟩
    exact hderives.solves hordered (Placed.map_name members ▸ hnodup)
      (Placed.map_name members ▸ hmath)
  · rintro ⟨⟨ordered, hp, ho⟩, hsolves⟩
    obtain ⟨members, hsequence⟩ := exists_sequence hp ho
    obtain ⟨hperm, hordered⟩ := sequence_ok hn hsequence
    have hmath := fun h => hm ((hperm.map Placed.name).subset h)
    refine ⟨members, hsequence, Solves.derives ?_ hordered (Placed.map_name members ▸ hmath)⟩
    exact hsolves.perm (hperm.map Placed.parameter).symm

/-- What a template says of its results, as equations. -/
structure Solution (limits : Limits) (t : Template) (supplied context : Values) (v : Value)
    (results : Values) : Prop where
  valid : validate t.parameters supplied = []
  orderableInternals : Orderable limits (t.derivedParameters .internal)
  internals : Solves limits [] (t.derivedParameters .internal)
    (bindInputs t.parameters supplied) context
  primary : evaluate limits t.formula [context] = .ok v
  orderableOutputs : Orderable limits (t.derivedParameters .output)
  outputs : Solves limits [context] (t.derivedParameters .output) (primaryResults v) results

/-- The parameters of a role are sequenced and derived exactly when they can be ordered and their
equations have the solution that is found. -/
theorem exists_derives_role_iff (hn : (t.parameters.map Parameter.name).Nodup)
    (hm : mathName ∉ t.parameters.map Parameter.name) (role : Role) (below : Scope)
    (start last : Values) :
    (∃ members, sequence limits .dependency (t.derivedBy role) = .ok members ∧
      Derives limits below start (members.map Placed.parameter) last) ↔
      Orderable limits (t.derivedParameters role) ∧
        Solves limits below (t.derivedParameters role) start last := by
  have hsub := t.names_derivedBy_sublist role
  rw [← t.map_derivedBy]
  exact exists_derives_iff limits below start last (hsub.nodup hn) fun h => hm (hsub.subset h)

/-- A run that comes to its end has found a solution of its template. -/
theorem Finishes.solution {internals outputs : List Placed} {context results : Values} {v : Value}
    (h : Finishes ⟨limits, .dependency⟩ t supplied internals context v outputs results)
    (hn : (t.parameters.map Parameter.name).Nodup)
    (hm : mathName ∉ t.parameters.map Parameter.name) :
    Solution limits t supplied context v results := by
  obtain ⟨hinternals, hcontext⟩ :=
    (exists_derives_role_iff hn hm .internal _ _ _).1 ⟨_, h.sequenced, h.derived⟩
  obtain ⟨houtputs, hresults⟩ :=
    (exists_derives_role_iff hn hm .output _ _ _).1 ⟨_, h.sequencedOutputs, h.derivedOutputs⟩
  exact ⟨h.valid, hinternals, hcontext, h.evaluated, houtputs, hresults⟩

/-- A run that orders by what is read comes to its end exactly when the template has a solution. -/
theorem exists_finishes_iff {results : Values} (hn : (t.parameters.map Parameter.name).Nodup)
    (hm : mathName ∉ t.parameters.map Parameter.name) :
    (∃ internals context v outputs,
      Finishes ⟨limits, .dependency⟩ t supplied internals context v outputs results) ↔
      ∃ context v, Solution limits t supplied context v results := by
  constructor
  · rintro ⟨internals, context, v, outputs, h⟩
    exact ⟨context, v, h.solution hn hm⟩
  · rintro ⟨context, v, h⟩
    obtain ⟨internals, hinternals, hcontext⟩ :=
      (exists_derives_role_iff hn hm .internal _ _ _).2 ⟨h.orderableInternals, h.internals⟩
    obtain ⟨outputs, houtputs, hresults⟩ :=
      (exists_derives_role_iff hn hm .output _ _ _).2 ⟨h.orderableOutputs, h.outputs⟩
    exact ⟨internals, context, v, outputs, ⟨⟨h.valid, hinternals, hcontext⟩, h.primary⟩,
      houtputs, hresults⟩

/-- A solution of a template solves it with its parameters in any order. -/
theorem Solution.perm {context results : Values} {v : Value}
    (h : Solution limits t supplied context v results) (hp : parameters.Perm t.parameters)
    (hn : (parameters.map Parameter.name).Nodup) :
    Solution limits { t with parameters } supplied context v results := by
  have hrole (role : Role) :
      (Template.derivedParameters { t with parameters } role).Perm (t.derivedParameters role) :=
    hp.filter _
  have horderable {role : Role} (h : Orderable limits (t.derivedParameters role)) :
      Orderable limits (Template.derivedParameters { t with parameters } role) :=
    let ⟨ordered, hordered, ho⟩ := h
    ⟨ordered, hordered.trans (hrole role).symm, ho⟩
  refine ⟨validate_eq_nil_of_perm hp h.valid, horderable h.orderableInternals, ?_, h.primary,
    horderable h.orderableOutputs, h.outputs.perm (hrole .output).symm⟩
  rw [bindInputs_perm hp hn]
  exact h.internals.perm (hrole .internal).symm

/-- A run that comes to its end does so with the same results when the parameters are declared in
another order. -/
theorem execute_successful_of_perm (hp : parameters.Perm t.parameters)
    (hn : (t.parameters.map Parameter.name).Nodup)
    (hm : mathName ∉ t.parameters.map Parameter.name)
    (h : (execute ⟨limits, .dependency⟩ t supplied).wasSuccessful) :
    (execute ⟨limits, .dependency⟩ { t with parameters } supplied).wasSuccessful ∧
      (execute ⟨limits, .dependency⟩ { t with parameters } supplied).results =
        (execute ⟨limits, .dependency⟩ t supplied).results := by
  have hnames := hp.map Parameter.name
  have hn' := hnames.nodup_iff.2 hn
  obtain ⟨context, v, hsolution⟩ := (exists_finishes_iff hn hm).1 (execute_finishes_iff.1 ⟨h, rfl⟩)
  refine execute_finishes_iff.2 ((exists_finishes_iff hn' fun h => hm (hnames.subset h)).2 ?_)
  exact ⟨context, v, hsolution.perm hp hn'⟩

/-- With formulas ordered by what they read, the order in which parameters are declared changes
neither whether a run comes to its end nor what it results in. -/
theorem execute_perm (limits : Limits) (t : Template) (parameters : List Parameter)
    (supplied : Values) (hp : parameters.Perm t.parameters)
    (hn : (t.parameters.map Parameter.name).Nodup)
    (hm : mathName ∉ t.parameters.map Parameter.name) :
    let outcome := execute ⟨limits, .dependency⟩ t supplied
    let outcome' := execute ⟨limits, .dependency⟩ { t with parameters } supplied
    outcome'.wasSuccessful = outcome.wasSuccessful ∧
      (outcome.wasSuccessful → outcome'.results = outcome.results) := by
  intro outcome outcome'
  have hnames := hp.map Parameter.name
  have hback : outcome'.wasSuccessful → outcome.wasSuccessful := fun h =>
    (execute_successful_of_perm (t := { t with parameters }) hp.symm (hnames.nodup_iff.2 hn)
      (fun hmem => hm (hnames.subset hmem)) h).1
  exact ⟨Bool.eq_iff_iff.2 ⟨hback, fun h => (execute_successful_of_perm hp hn hm h).1⟩,
    fun h => (execute_successful_of_perm hp hn hm h).2⟩

/-- An output that is declared before the internal that it reads. -/
def forwardTemplate : Template where
  name := "Forward"
  formula := "true"
  parameters := [.output "copy" .string "base", .internal "base" .string "'text'"]

/-- The output can be declared last just as well. -/
theorem execute_forwardTemplate_reverse :
    let outcome := execute ⟨{}, .dependency⟩ forwardTemplate .empty
    let parameters := forwardTemplate.parameters.reverse
    let outcome' := execute ⟨{}, .dependency⟩ { forwardTemplate with parameters } .empty
    outcome.wasSuccessful ∧ outcome'.wasSuccessful ∧ outcome'.results = outcome.results := by
  intro outcome parameters outcome'
  have hsuccess : outcome.wasSuccessful = true := by decide +kernel
  have h := execute_perm {} forwardTemplate parameters .empty (List.reverse_perm _) (by decide)
    (by decide)
  exact ⟨hsuccess, h.1.trans hsuccess, h.2 hsuccess⟩

end Formulary

namespace Formulary

/-! ### The final state -/

variable {limits : Limits} {t : Template} {supplied context results : Values} {v : Value}
  {p : Parameter} {source : String}

theorem Template.mem_derivedParameters {role : Role} :
    p ∈ t.derivedParameters role ↔
      p ∈ t.parameters ∧ p.role = role ∧ p.formulaSource?.isSome := by
  simp [derivedParameters]

/-- A parameter with a formula has an equation in every solution of its group. -/
theorem Solves.equation_of_source {below : Scope} {start last : Values} {role : Role}
    (h : Solves limits below (t.derivedParameters role) start last) (hp : p ∈ t.parameters)
    (hrole : p.role = role) (hsource : p.formulaSource? = some source) :
    ∃ v, evaluate limits source (last :: below) = .ok v ∧ last.get? p.name = some v := by
  have hmem : p ∈ t.derivedParameters role :=
    Template.mem_derivedParameters.2 ⟨hp, hrole, by simp [hsource]⟩
  obtain ⟨v, hv, hget⟩ := h.equation p hmem
  rw [Parameter.value_eq hsource] at hv
  exact ⟨v, hv, hget⟩

/-- At the end of a run that orders by what is read, all equations of the template hold: internals
have the values of their formulas in the context, the primary formula has there the value that was
merged into the results and that the outputs leave as it is elsewhere, and outputs have the values
of their formulas in the results before the context. -/
theorem calculate_equations (limits : Limits) (t : Template) (supplied : Values)
    (hn : (t.parameters.map Parameter.name).Nodup)
    (hm : mathName ∉ t.parameters.map Parameter.name)
    (h : (execute ⟨limits, .dependency⟩ t supplied).wasSuccessful) :
    let final := calculate ⟨limits, .dependency⟩ t supplied
    (∀ p ∈ t.parameters, p.role = .internal → ∀ source, p.formulaSource? = some source →
      ∃ v, evaluate limits source [final.context] = .ok v ∧
        final.context.get? p.name = some v) ∧
    (∃ v, evaluate limits t.formula [final.context] = .ok v ∧
      (calculateToPrimary ⟨limits, .dependency⟩ t supplied).results = primaryResults v ∧
      ∀ name ∉ (t.derivedParameters .output).map Parameter.name,
        final.results.get? name = (primaryResults v).get? name) ∧
    ∀ p ∈ t.parameters, p.role = .output → ∀ source, p.formulaSource? = some source →
      ∃ v, evaluate limits source [final.results, final.context] = .ok v ∧
        final.results.get? p.name = some v := by
  intro final
  have hstop : final.stop = none := Run.wasSuccessful_ending.1 h
  obtain ⟨internals, v, outputs, hfinishes⟩ := calculate_finishes hstop
  have hsolution := hfinishes.solution hn hm
  refine ⟨?_, ⟨v, hsolution.primary, ?_, hsolution.outputs.unchanged⟩, ?_⟩
  · intro p hp hrole source hsource
    exact hsolution.internals.equation_of_source hp hrole hsource
  · rw [hfinishes.calculateToPrimary_eq]
  · intro p hp hrole source hsource
    exact hsolution.outputs.equation_of_source hp hrole hsource

/-- An internal reads a later one, and an output reads a field that a later output replaces. -/
def labelTemplate : Template where
  name := "Label"
  formula := "\x7b title: line, note: 'draft' \x7d"
  parameters := [
    .output "caption" .string "title + note",
    .internal "line" .string "word + '!'",
    .output "note" .string "'final'",
    .internal "word" .string "'Slab'"]

/-- The caption is made of the note that replaces the one of the primary object. -/
theorem calculate_equations_labelTemplate :
    let final := calculate ⟨{}, .dependency⟩ labelTemplate .empty
    (∃ v, evaluate {} "word + '!'" [final.context] = .ok v ∧
        final.context.get? "line" = some v) ∧
      (∃ v, evaluate {} "title + note" [final.results, final.context] = .ok v ∧
        final.results.get? "caption" = some v) ∧
      (final.context.get? "line").bind Value.text? = some "Slab!" ∧
      (final.results.get? "caption").bind Value.text? = some "Slab!final" := by
  intro final
  have hsuccess : (execute ⟨{}, .dependency⟩ labelTemplate .empty).wasSuccessful = true := by
    decide +kernel
  obtain ⟨hinternals, -, houtputs⟩ :=
    calculate_equations {} labelTemplate .empty (by decide) (by decide) hsuccess
  refine ⟨?_, ?_, by decide +kernel, by decide +kernel⟩
  · exact hinternals _ (.tail _ (.head _)) rfl _ (by decide)
  · exact houtputs _ (.head _) rfl _ (by decide)

end Formulary
