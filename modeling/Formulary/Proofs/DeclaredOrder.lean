import Formulary.Proofs.Course
import Formulary.Proofs.Placement

/-!
# Declarations that are in order already

When every formula reads only what is declared before its parameter, there is nothing to reorder.
The first parameter that waits is then always ready, whatever names are shared and whichever
formulas cannot be parsed; so a run that orders by what is read takes the same steps as one that
follows the declarations, and ends in the same way.

## Main definitions

* `Template.DeclaredInOrder` : no derived parameter reads its own name or a later one of its role.

## Main statements

* `Template.DeclaredInOrder.calculate_eq` : the runs in both orders are the same in every step;
* `Template.declaredInOrder_iff` : without shared names, nothing else is left as it is;
* `execute_dependency_eq_declared` : the groups stay as they are, and so does all that is reported.
-/
namespace Formulary

variable {limits : Limits} {t : Template}

namespace Template

/-- No parameter with a formula reads the name of one of its role that is declared at its own place
or later. A formula that cannot be parsed reads nothing. -/
def DeclaredInOrder (limits : Limits) (t : Template) : Prop :=
  ∀ role : DerivedRole, ∀ m ∈ t.derivedBy role.role, ∀ n ∈ t.derivedBy role.role,
    m.place ≤ n.place → n.name ∉ m.reads limits

namespace DeclaredInOrder

/-- Neither order moves a parameter. -/
theorem sequence_eq (h : t.DeclaredInOrder limits) (order : EvaluationOrder) (role : DerivedRole) :
    sequence limits order (t.derivedBy role.role) = .ok (t.derivedBy role.role) := by
  have hordered : Ordered limits ((t.derivedBy role.role).map Placed.parameter) :=
    (ordered_iff_of_ascending (t.pairwise_derivedBy role.role)).2 (h role)
  exact sequence_eq_self hordered order

/-- The parameters of a role are derived in the same way in both orders. -/
theorem derive_eq (h : t.DeclaredInOrder limits) (role : DerivedRole) :
    Run.derive ⟨limits, .dependency⟩ t role = Run.derive ⟨limits, .declared⟩ t role := by
  funext r
  simp only [Run.derive, h.sequence_eq]

/-- A run takes the same steps in both orders, also when it fails. -/
theorem calculate_eq (h : t.DeclaredInOrder limits) (supplied : Values) :
    calculate ⟨limits, .dependency⟩ t supplied = calculate ⟨limits, .declared⟩ t supplied := by
  simp only [calculate, h.derive_eq]

end DeclaredInOrder

/-- Where no two parameters share a name, only such declarations stay as they are. -/
theorem declaredInOrder_iff (hn : (t.parameters.map Parameter.name).Nodup) :
    t.DeclaredInOrder limits ↔ ∀ role : DerivedRole,
      sequence limits .dependency (t.derivedBy role.role) = .ok (t.derivedBy role.role) := by
  refine ⟨fun h => h.sequence_eq .dependency, fun h role => ?_⟩
  obtain ⟨-, hordered⟩ := sequence_ok ((t.names_derivedBy_sublist role.role).nodup hn) (h role)
  exact (ordered_iff_of_ascending (t.pairwise_derivedBy role.role)).1 hordered

end Template

/-- When no parameter reads ahead, ordering by what is read leaves the parameters of each role as
they are declared; every run then has the same outcome in both orders: the same results, the same
failure with its text, and the same problems. -/
theorem execute_dependency_eq_declared (limits : Limits) (t : Template) (supplied : Values)
    (h : t.DeclaredInOrder limits) :
    (∀ role : DerivedRole,
      sequence limits .dependency (t.derivedBy role.role) = .ok (t.derivedBy role.role)) ∧
    execute ⟨limits, .dependency⟩ t supplied = execute ⟨limits, .declared⟩ t supplied :=
  ⟨h.sequence_eq .dependency, congrArg Run.ending (h.calculate_eq supplied)⟩

/-- Two internals of one name, an output that reads what is bound nowhere, and one that cannot be
parsed. -/
def repeatedTemplate : Template where
  name := "Repeated"
  formula := "rate"
  parameters := [
    .output "label" .string "'at ' + rate",
    .internal "base" .string "'text'",
    .internal "rate" .string "base + 'ure'",
    .internal "rate" .string "base + '!'",
    .output "total" .string "label + tax",
    .output "rest" .string "total +"]

/-- The run fails in both orders at the output that reads what is bound nowhere, after the first
label and with the second rate. -/
theorem execute_dependency_eq_declared_repeatedTemplate :
    repeatedTemplate.DeclaredInOrder {} ∧
      execute ⟨{}, .dependency⟩ repeatedTemplate .empty =
        execute ⟨{}, .declared⟩ repeatedTemplate .empty ∧
      (execute ⟨{}, .dependency⟩ repeatedTemplate .empty).errorMessage =
        some "output:total: undefined variable 'tax'" ∧
      ((execute ⟨{}, .dependency⟩ repeatedTemplate .empty).results.get? "label").bind Value.text? =
        some "at text!" := by
  have h : repeatedTemplate.DeclaredInOrder {} := by
    intro role
    cases role with
    | internal | output => decide +kernel
  exact ⟨h, (execute_dependency_eq_declared {} repeatedTemplate .empty h).2, by decide +kernel,
    by decide +kernel⟩

end Formulary
