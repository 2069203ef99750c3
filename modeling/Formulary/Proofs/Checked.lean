import Formulary.Proofs.Placement
import Formulary.Proofs.Schedule
import Formulary.Template.Check

/-!
# What a check without findings establishes

A template in which the check finds nothing has parameters of different names, formulas that can be
parsed and that read visible names only, patterns that compile, and groups that can be put in order.

## Main definitions

* `Checked` : a template that its check finds nothing in, as facts about its parts.

## Main statements

* `checked_of_check` : the check establishes them;
* `Checked.mem_before` : a visible name of a group is derived before the formulas that read it.
-/
namespace Formulary

/-- The names that the primary formula adds to the results, if it can be parsed. -/
def Template.primaryKeys (limits : Limits) (t : Template) : Option PrimaryKeys :=
  (Formula.parse limits t.formula).toOption.map PrimaryKeys.ofExpr

/-- A template that its check finds nothing in. -/
structure Checked (engine : Engine) (t : Template) : Prop where
  nodup : (t.parameters.map Parameter.name).Nodup
  patternCompiles : ∀ p ∈ t.parameters, ∀ pattern refusal, p.pattern = some pattern →
    Pattern.compileAnchored pattern ≠ .error refusal
  primaryReads : ∃ e, Formula.parse engine.limits t.formula = .ok e ∧
    ∀ name ∈ e.references, t.visibleToPrimary name
  derivedParses : ∀ p ∈ t.parameters, p.role ≠ .input → ∃ source e,
    p.formulaSource? = some source ∧ Formula.parse engine.limits source = .ok e
  derivedReads : ∀ m ∈ t.placed, m.parameter.role ≠ .input → ∀ name ∈ m.reads engine.limits,
    t.mayRead engine.order (t.primaryKeys engine.limits) m name
  sequenced : ∀ role, role ≠ .input →
    ∃ members, sequence engine.limits engine.order (t.derivedBy role) = .ok members

namespace Template

variable {t : Template} {name : String}

theorem declared?_some {m : Placed} (h : t.declared? name = some m) :
    m ∈ t.placed ∧ m.name = name :=
  ⟨List.mem_of_find?_eq_some h, by simpa using List.find?_some h⟩

/-- What the primary formula may read is an input or an internal. -/
theorem exists_of_visibleToPrimary (h : t.visibleToPrimary name) :
    ∃ m ∈ t.placed, m.name = name ∧ m.parameter.role ≠ .output := by
  unfold visibleToPrimary at h
  split at h
  · obtain ⟨hm, hname⟩ := declared?_some ‹_›
    exact ⟨_, hm, hname, by simpa using h⟩
  · cases h

/-- What an internal may read is an input, or an internal that comes before it. -/
theorem exists_of_visibleTo {order : EvaluationOrder} {place : Nat}
    (h : t.visibleTo order .internal place name) :
    ∃ m ∈ t.placed, m.name = name ∧ (m.parameter.role = .input ∨
      m.parameter.role = .internal ∧ (order = .dependency ∨ m.place < place)) := by
  unfold visibleTo at h
  split at h
  · cases h
  · rename_i m hdeclared
    obtain ⟨hm, hname⟩ := declared?_some hdeclared
    refine ⟨m, hm, hname, ?_⟩
    cases hrole : m.parameter.role with
    | input => exact .inl rfl
    | internal => exact .inr ⟨rfl, by simpa [hrole] using h⟩
    | output => simp [hrole] at h

/-- Without a finding on its definition, a parameter has a formula exactly if it is derived, and
its pattern compiles. -/
theorem of_constraintFindings {p : Parameter} (h : p.constraintFindings = []) :
    p.hasFormulaIfDerived ∧ ∀ pattern refusal, p.pattern = some pattern →
      Pattern.compileAnchored pattern ≠ .error refusal := by
  simp only [Parameter.constraintFindings, List.append_eq_nil_iff] at h
  obtain ⟨⟨⟨⟨⟨hformula, -⟩, -⟩, -⟩, hpattern⟩, -⟩ := h
  refine ⟨?_, fun pattern refusal hp he => ?_⟩
  · by_contra hne
    rw [if_neg hne] at hformula
    split at hformula <;> cases hformula
  · simp [hp, he] at hpattern

/-- Without a finding on names and definitions, the names are all different, and no definition
contradicts itself. -/
theorem of_definitionIssues {seen : List String} {parameters : List Parameter}
    (h : definitionIssues seen parameters = []) :
    (parameters.map Parameter.name).Nodup ∧ (∀ p ∈ parameters, p.name ∉ seen) ∧
      ∀ p ∈ parameters, p.constraintFindings = [] := by
  induction parameters generalizing seen with
  | nil => simp
  | cons p rest ih =>
    simp only [definitionIssues, List.append_eq_nil_iff, List.map_eq_nil_iff] at h
    obtain ⟨⟨hname, hp⟩, hrest⟩ := h
    have hnamed : Text.allBlank p.name = false := by
      by_contra hblank
      rw [Bool.not_eq_false] at hblank
      simp [hblank] at hname
    have hnew : p.name ∉ seen := fun hseen => by simp [hnamed, hseen] at hname
    simp only [hnamed, Bool.false_eq_true, if_false] at hrest
    obtain ⟨hnodup, hunseen, hfindings⟩ := ih hrest
    refine ⟨List.nodup_cons.2 ⟨fun hmem => ?_, hnodup⟩, ?_, ?_⟩
    · obtain ⟨q, hq, heq⟩ := List.mem_map.1 hmem
      exact hunseen q hq (heq ▸ List.mem_cons_self)
    · rintro q (_ | ⟨_, hq⟩)
      · exact hnew
      · exact fun hseen => hunseen q hq (List.mem_cons_of_mem _ hseen)
    · rintro q (_ | ⟨_, hq⟩)
      · exact hp
      · exact hfindings q hq

variable {engine : Engine} {m : Placed}

/-- Without an issue, the primary formula can be parsed and reads visible names. -/
theorem of_primaryIssues (h : t.primaryIssues (Formula.parse engine.limits t.formula) = []) :
    ∃ e, Formula.parse engine.limits t.formula = .ok e ∧
      ∀ name ∈ e.references, t.visibleToPrimary name := by
  cases hparse : Formula.parse engine.limits t.formula with
  | error e => simp [primaryIssues, hparse] at h
  | ok e =>
    refine ⟨e, rfl, fun name hname => ?_⟩
    simp only [primaryIssues, hparse, List.map_eq_nil_iff, List.filter_eq_nil_iff] at h
    simpa using h name hname

/-- Without an issue, the formula of a derived parameter can be parsed and reads visible names. -/
theorem of_formulaIssues {keys : Option PrimaryKeys} {source : String}
    (h : t.formulaIssues engine keys m = []) (hrole : m.parameter.role ≠ .input)
    (hsource : m.parameter.formulaSource? = some source) :
    ∃ e, m.parameter.formulaSource? = some source ∧ Formula.parse engine.limits source = .ok e ∧
      ∀ name ∈ e.references, t.mayRead engine.order keys m name := by
  simp only [formulaIssues, Parameter.isInput_eq_false hrole, hsource] at h
  cases hparse : Formula.parse engine.limits source with
  | error e => simp [hparse] at h
  | ok e =>
    refine ⟨e, hsource, rfl, fun name hname => ?_⟩
    simp only [hparse, Bool.false_eq_true, if_false, List.map_eq_nil_iff,
      List.filter_eq_nil_iff] at h
    simpa using h name hname

/-- When all derived parameters have formulas, those of a role are all evaluated. -/
theorem derivedBy_eq_withRole {role : Role} (hrole : role ≠ .input)
    (h : ∀ p ∈ t.parameters, p.role ≠ .input → p.formulaSource?.isSome) :
    t.derivedBy role = t.withRole role := by
  refine List.filter_eq_self.2 fun m hm => ?_
  obtain ⟨hplaced, rfl⟩ := mem_withRole.1 hm
  exact h _ (mem_parameters_of_mem_placed hplaced) hrole

end Template

open Template in
/-- A check without findings establishes all that it looks at. -/
theorem checked_of_check {engine : Engine} {t : Template} (h : t.check engine = []) :
    Checked engine t := by
  simp only [check, List.append_eq_nil_iff, List.flatMap_eq_nil_iff] at h
  obtain ⟨⟨⟨⟨⟨-, hdefinitions⟩, hprimary⟩, hissues⟩, hinternals⟩, houtputs⟩ := h
  obtain ⟨hnodup, -, hfindings⟩ := of_definitionIssues hdefinitions
  have hformula : ∀ p ∈ t.parameters, p.role ≠ .input → p.formulaSource?.isSome := by
    intro p hp hrole
    simpa [Parameter.hasFormulaIfDerived, Parameter.isInput_eq_false hrole] using
      (of_constraintFindings (hfindings p hp)).1
  have hsequence : ∀ role, role ≠ .input → t.cycleIssues engine role = [] →
      ∃ members, sequence engine.limits engine.order (t.derivedBy role) = .ok members := by
    intro role hrole hcycle
    rw [derivedBy_eq_withRole hrole hformula]
    unfold cycleIssues at hcycle
    split at hcycle
    · exact ⟨_, ‹_›⟩
    · cases hcycle
  have hderived : ∀ m ∈ t.placed, m.parameter.role ≠ .input → ∃ source e,
      m.parameter.formulaSource? = some source ∧ Formula.parse engine.limits source = .ok e ∧
        ∀ name ∈ e.references, t.mayRead engine.order (t.primaryKeys engine.limits) m name := by
    intro m hm hrole
    obtain ⟨source, hsource⟩ :=
      Option.isSome_iff_exists.1 (hformula _ (mem_parameters_of_mem_placed hm) hrole)
    exact ⟨source, of_formulaIssues (hissues m hm) hrole hsource⟩
  constructor
  case nodup => exact hnodup
  case patternCompiles => exact fun p hp => (of_constraintFindings (hfindings p hp)).2
  case primaryReads => exact of_primaryIssues hprimary
  case derivedParses =>
    intro p hp hrole
    obtain ⟨m, hm, rfl⟩ := exists_placed hp
    obtain ⟨source, e, hsource, hparse, -⟩ := hderived m hm hrole
    exact ⟨source, e, hsource, hparse⟩
  case derivedReads =>
    intro m hm hrole
    obtain ⟨source, e, hsource, hparse, hreads⟩ := hderived m hm hrole
    simpa [Placed.reads, Parameter.reads, hsource, hparse] using hreads
  case sequenced =>
    rintro (_ | _ | _) hrole
    · exact absurd rfl hrole
    · exact hsequence _ hrole hinternals
    · exact hsequence _ hrole houtputs

namespace Checked

open Template

variable {engine : Engine} {t : Template} {role : Role} {members before after : List Placed}
  {m n : Placed}

/-- A parameter of a role is in the group that is derived. -/
theorem mem_derivedBy (h : Checked engine t) (hm : m ∈ t.placed) (hrole : m.parameter.role = role)
    (hderived : role ≠ .input) : m ∈ t.derivedBy role := by
  obtain ⟨source, e, hsource, -⟩ :=
    h.derivedParses _ (mem_parameters_of_mem_placed hm) (hrole ▸ hderived)
  exact Template.mem_derivedBy.2 ⟨hm, hrole, by rw [hsource]; rfl⟩

/-- A parameter of the group comes before those that read it, if in declared order it is declared
before them. -/
theorem mem_before (h : Checked engine t)
    (hsequence : sequence engine.limits engine.order (t.derivedBy role) =
      .ok (before ++ m :: after))
    (hn : n ∈ t.derivedBy role) (hread : n.name ∈ m.reads engine.limits)
    (hplace : engine.order = .dependency ∨ n.place < m.place) : n ∈ before := by
  have hmem : n ∈ before ∨ n ∈ m :: after :=
    List.mem_append.1 ((sequence_perm hsequence).mem_iff.2 hn)
  refine hmem.resolve_right fun hlater => ?_
  cases horder : engine.order with
  | declared =>
    -- Later members of a group are declared later.
    have hgroup : t.derivedBy role = before ++ m :: after := by
      simpa [sequence, horder] using hsequence
    have hplaces := (t.pairwise_placed.sublist (t.derivedBy_sublist role))
    rw [hgroup] at hplaces
    have hafter := (List.pairwise_cons.1 (List.pairwise_append.1 hplaces).2.1).1
    have hlt : n.place < m.place := hplace.resolve_left (by simp [horder])
    rcases List.mem_cons.1 hlater with rfl | hlater
    · omega
    · have := hafter n hlater
      omega
  | dependency =>
    rw [horder] at hsequence
    obtain ⟨-, hordered⟩ := sequence_ok ((t.names_derivedBy_sublist role).nodup h.nodup) hsequence
    rw [List.map_append] at hordered
    refine hordered.of_append.1 n.name hread ?_
    exact List.mem_map_of_mem (f := Parameter.name) (List.mem_map_of_mem hlater)

end Checked

end Formulary
