import Formulary.Proofs.Computed
import Formulary.Proofs.Constants
import Formulary.Proofs.Course
import Formulary.Template.Check

/-!
# The names of the primary result

The check of a template tells from the outermost form of the primary formula which names it adds to
the results. It is right about literals of objects, and about all operators and functions that
compute a value, which is never an object. It takes the logical operators and `coalesce` for such
too, but these pass on an operand; when that is an object, its fields become the results.

## Main definitions

* `Expr.yieldsOperand` : the forms whose value is the one of an operand;
* `Expr.Disguises` : such a form has an object as its value, with other names than expected.

## Main statements

* `Expr.mem_resultNames_iff` : the analysis is right about all other forms;
* `primaryKeys_exact` : it is right exactly when no object is disguised, and then every output finds
  the names bound;
* `not_forall_mem_names_evaluatePrimary` : it is not right in general.
-/
namespace Formulary

section

variable {α : Type}

theorem NameMap.entries_insertAll (m : NameMap α) (entries : Entries α) :
    (m.insertAll entries).entries =
      entries.foldl (fun sorted e => Entries.insert e.1 e.2 sorted) m.entries := by
  induction entries generalizing m with
  | nil => rfl
  | cons e rest ih => exact ih (m.insert e.1 e.2)

/-- Sorting entries keeps their names. -/
theorem Entries.mem_names_sort {entries : Entries α} {name : String} :
    name ∈ (sort entries).map (·.1) ↔ name ∈ entries.map (·.1) := by
  have h : name ∈ (NameMap.ofEntries entries).names ↔ name ∈ entries.map (·.1) :=
    NameMap.mem_names_ofEntries
  rwa [NameMap.names, NameMap.ofEntries, NameMap.entries_insertAll] at h

end

namespace Grammar

/-- No formula writes an object as a constant. -/
theorem Leaf.kind_ne_object : HoldsOfLeaves fun v => v.kind ≠ .object := by
  intro t e h
  cases h <;> simp [Expr.constants, Value.kind]

end Grammar

namespace Expr

/-- Whether the value of an expression is the one of an operand or an argument. -/
def yieldsOperand : Expr → Bool
  | .binary op _ _ => op.isLogical
  | .call function _ => function == .coalesce
  | _ => false

/-- An operand is passed on that is an object, with other names than the one that a value is known
by. -/
def Disguises (e : Expr) (v : Value) : Prop :=
  e.yieldsOperand ∧ v.kind = .object ∧ ¬ ∀ name, name ∈ v.resultNames ↔ name = primaryName

variable {s : Scope} {e : Expr} {keys : List String} {v : Value} {name : String}

/-- The values of entries stand under the names of the entries. -/
theorem evalEntries_names (s : Scope) (entries : List (String × Expr)) :
    Gives (fun values => values.map (·.1) = entries.map (·.1)) (evalEntries s entries) := by
  induction entries with
  | nil =>
    simp only [evalEntries]
    exact .ok rfl
  | cons entry rest ih =>
    obtain ⟨key, item⟩ := entry
    simp only [evalEntries]
    exact .bind_any fun v => ih.bind fun vs hvs => .pure (by simp [hvs])

/-- The names of a literal of an object are those of its entries. -/
theorem eval_object_names (s : Scope) (entries : List (String × Expr)) :
    Gives (fun v => ∀ name, name ∈ v.resultNames ↔ name ∈ entries.map (·.1))
      (eval s (.object entries)) := by
  simp only [eval]
  refine (evalEntries_names s entries).bind fun values hvalues => .pure fun name => ?_
  simp only [Value.resultNames, Entries.mem_names_sort, hvalues]

/-- The value of a form that is taken for no object is none, unless it is the one of an operand. -/
theorem eval_kind_ne_object (hconstants : ∀ c ∈ e.constants, c.kind ≠ .object)
    (hkeys : PrimaryKeys.ofExpr e = .known keys) (hobject : ∀ entries, e ≠ .object entries)
    (hoperand : e.yieldsOperand = false) : Gives (fun v => v.kind ≠ .object) (e.eval s) := by
  cases e with
  | const value =>
    simp only [eval]
    exact .ok (hconstants value (by simp [constants]))
  | unary op operand =>
    simp only [eval]
    exact .bind_any fun a => (applyUnary_computed op a).mono fun _ h => h.kind_ne_object
  | binary op left right =>
    simp only [eval]
    refine .bind_any fun l => ?_
    have hdecides : leftDecides op l = false := by
      cases op with
      | and | or | nullish => cases hoperand
      | _ => rfl
    simp only [hdecides, Bool.false_eq_true, if_false]
    exact .bind_any fun r =>
      (applyBinary_computed hoperand l r).mono fun _ h => h.kind_ne_object
  | array items =>
    simp only [eval]
    exact .bind_any fun values => .pure nofun
  | call function arguments =>
    have hfunction : function ≠ .coalesce := by simpa [yieldsOperand] using hoperand
    simp only [eval]
    exact .bind_any fun values =>
      (function.apply_computed values hfunction).mono fun _ h => h.kind_ne_object
  | object entries => exact absurd rfl (hobject entries)
  | var | member | index | conditional => cases hkeys

/-- The names that the analysis tells are those of the value, unless it is the one of an operand. -/
theorem mem_resultNames_iff (hconstants : ∀ c ∈ e.constants, c.kind ≠ .object)
    (hkeys : PrimaryKeys.ofExpr e = .known keys) (hoperand : e.yieldsOperand = false)
    (hv : e.eval s = .ok v) : name ∈ v.resultNames ↔ name ∈ keys := by
  by_cases hobject : ∃ entries, e = .object entries
  · obtain ⟨entries, rfl⟩ := hobject
    cases hkeys
    exact (eval_object_names s entries).of_ok hv name
  · have hkind : v.kind ≠ .object :=
      (eval_kind_ne_object hconstants hkeys (by simpa using hobject) hoperand).of_ok hv
    rw [Value.resultNames_eq hkind]
    cases e with
    | object entries => exact absurd ⟨entries, rfl⟩ hobject
    | const | unary | binary | array | call => cases hkeys; rfl
    | var | member | index | conditional => cases hkeys

/-- An operand is expected under the name of a value. -/
theorem keys_of_yieldsOperand (h : e.yieldsOperand) (hkeys : PrimaryKeys.ofExpr e = .known keys) :
    keys = [primaryName] := by
  cases e with
  | binary | call => cases hkeys; rfl
  | _ => cases h

/-- The names that the analysis tells are those of the value exactly when no object is disguised. -/
theorem forall_mem_resultNames_iff (hconstants : ∀ c ∈ e.constants, c.kind ≠ .object)
    (hkeys : PrimaryKeys.ofExpr e = .known keys) (hv : e.eval s = .ok v) :
    (∀ name, name ∈ v.resultNames ↔ name ∈ keys) ↔ ¬e.Disguises v := by
  cases hoperand : e.yieldsOperand with
  | false =>
    have hexact (name : String) : name ∈ v.resultNames ↔ name ∈ keys :=
      mem_resultNames_iff hconstants hkeys hoperand hv
    simp [Disguises, hoperand, hexact]
  | true =>
    obtain rfl := keys_of_yieldsOperand hoperand hkeys
    by_cases hkind : v.kind = .object
    · simp [Disguises, hoperand, hkind]
    · simp [Disguises, hoperand, hkind, Value.resultNames_eq hkind]

end Expr

theorem evaluate_eq_eval {limits : Limits} {source : String} {e : Expr}
    (h : Formula.parse limits source = .ok e) (scope : Scope) :
    evaluate limits source scope = e.eval scope := by
  rw [evaluate, h]
  rfl

/-- The names of the results stay bound while outputs are derived. -/
theorem Run.isSome_results_deriveEach (limits : Limits) {r : Run} (hr : r.stop = none)
    (outputs : List Placed) {name : String} (h : (r.results.get? name).isSome) :
    ((r.deriveEach limits .output outputs).results.get? name).isSome := by
  rcases deriveEach_cases limits .output r outputs hr with
    ⟨results, hderived, heq⟩ | ⟨before, m, after, results, e, -, hderived, -, heq⟩
  · rw [heq]
    exact hderived.isSome_get?.2 (.inr h)
  · rw [heq]
    exact hderived.isSome_get?.2 (.inr h)

/-- The check knows the names of the primary result exactly when no object is disguised; then every
output finds each of them bound, whichever outputs were derived before it. -/
theorem primaryKeys_exact (engine : Engine) (t : Template) (e : Expr) (keys : List String)
    (hparse : Formula.parse engine.limits t.formula = .ok e)
    (hkeys : PrimaryKeys.ofExpr e = .known keys) :
    (∀ (r : Run) (v : Value), r.results = {} → e.eval [r.context] = .ok v →
      ((∀ name, name ∈ (r.evaluatePrimary engine.limits t).results.names ↔ name ∈ keys) ↔
        ¬e.Disguises v)) ∧
    ∀ (supplied : Values) (outputs : List Placed),
      let r := calculateToPrimary engine t supplied
      r.stop = none → (∀ v, e.eval [r.context] = .ok v → ¬e.Disguises v) → ∀ name ∈ keys,
        ((DerivedRole.output.scope (r.deriveEach engine.limits .output outputs)).lookup
          name).isSome := by
  have hconstants := Formula.forall_constants Grammar.Leaf.kind_ne_object hparse
  constructor
  · intro r v hr hv
    have hresults : (r.evaluatePrimary engine.limits t).results = primaryResults v := by
      rcases Run.evaluatePrimary_cases engine t r hr with ⟨w, hw, heq⟩ | ⟨error, herror, -⟩
      · rw [evaluate_eq_eval hparse] at hw
        cases hv.symm.trans hw
        rw [heq]
      · rw [evaluate_eq_eval hparse] at herror
        cases hv.symm.trans herror
    simp only [hresults, mem_names_primaryResults]
    exact Expr.forall_mem_resultNames_iff hconstants hkeys hv
  · intro supplied outputs r hstop hdisguise name hname
    obtain ⟨internals, v, hreach⟩ := exists_reachesOutputs hstop
    have hv : e.eval [r.context] = .ok v := (evaluate_eq_eval hparse _).symm.trans hreach.evaluated
    have hexact := (Expr.forall_mem_resultNames_iff hconstants hkeys hv).2 (hdisguise v hv)
    have hbound : (r.results.get? name).isSome := by
      rw [← NameMap.mem_names, show r.results = primaryResults v from
        congrArg Run.results hreach.calculateToPrimary_eq, mem_names_primaryResults]
      exact (hexact name).2 hname
    have hstays := Run.isSome_results_deriveEach engine.limits hstop outputs hbound
    obtain ⟨value, hvalue⟩ := Option.isSome_iff_exists.1 hstays
    simp [DerivedRole.scope, Scope.lookup, hvalue]

def fallbackTemplate : Template where
  name := "Fallback"
  formula := "size ?? 'none'"
  parameters := [.input "size" .string, .output "label" .string "resultado + '!'"]

/-- An operand that is no object is known by the name of a value. -/
theorem primaryKeys_exact_fallbackTemplate : ∃ e,
    Formula.parse {} fallbackTemplate.formula = .ok e ∧
      PrimaryKeys.ofExpr e = .known [primaryName] ∧
      (calculateToPrimary {} fallbackTemplate .empty).stop = none ∧
      ((DerivedRole.output.scope ((calculateToPrimary {} fallbackTemplate .empty).deriveEach {}
        .output (fallbackTemplate.derivedBy .output))).lookup primaryName).isSome := by
  let r := calculateToPrimary {} fallbackTemplate .empty
  have hstop : r.stop = none := Option.isNone_iff_eq_none.1 (by decide +kernel)
  have hfacts : (Formula.parse {} fallbackTemplate.formula).toOption.map (fun e =>
      (e.yieldsOperand, (e.eval [r.context]).toOption.map Value.kind)) =
        some (true, some .string) := by decide +kernel
  cases hparse : Formula.parse {} fallbackTemplate.formula with
  | error error => simp [hparse, Except.toOption] at hfacts
  | ok e =>
    simp only [hparse, Except.toOption, Option.map_some, Option.some.injEq, Prod.mk.injEq] at hfacts
    obtain ⟨hoperand, hkind⟩ := hfacts
    have hkeys : PrimaryKeys.ofExpr e = .known [primaryName] := by
      cases e with
      | binary | call => rfl
      | _ => cases hoperand
    refine ⟨e, rfl, hkeys, hstop, (primaryKeys_exact {} fallbackTemplate e _ hparse hkeys).2
      .empty _ hstop (fun v hv hdisguise => ?_) primaryName (.head _)⟩
    rw [show e.eval [r.context] = .ok v from hv] at hkind
    simp [hdisguise.2.1] at hkind

/-- A primary formula with a guard before an object, and an output that reads the name of a
value. -/
def guardedTemplate : Template where
  name := "Guarded"
  formula := "true && \x7b area: 'six' \x7d"
  parameters := [.output "copy" .object "resultado"]

/-- The check finds nothing in the guarded object, its runs fail, and the names of its result are not
the ones that the check knows. -/
theorem not_forall_mem_names_evaluatePrimary :
    (guardedTemplate.check {} = [] ∧ (execute {} guardedTemplate .empty).wasSuccessful = false) ∧
    ¬∀ (limits : Limits) (t : Template) (e : Expr) (keys : List String) (r : Run) (v : Value),
      Formula.parse limits t.formula = .ok e → PrimaryKeys.ofExpr e = .known keys →
      r.results = {} → e.eval [r.context] = .ok v →
      ∀ name, name ∈ (r.evaluatePrimary limits t).results.names ↔ name ∈ keys := by
  refine ⟨⟨List.isEmpty_iff.1 (by decide +kernel), by decide +kernel⟩, fun h => ?_⟩
  have hnames : (({} : Run).evaluatePrimary {} guardedTemplate).results.names = ["area"] := by
    decide +kernel
  have hform : (Formula.parse {} guardedTemplate.formula).toOption.map Expr.yieldsOperand =
      some true := by decide +kernel
  cases hparse : Formula.parse {} guardedTemplate.formula with
  | error error => simp [hparse, Except.toOption] at hform
  | ok e =>
    simp only [hparse, Except.toOption, Option.map_some, Option.some.injEq] at hform
    have hkeys : PrimaryKeys.ofExpr e = .known [primaryName] := by
      cases e with
      | binary | call => rfl
      | _ => cases hform
    rcases Run.evaluatePrimary_cases {} guardedTemplate {} rfl with
      ⟨v, hv, -⟩ | ⟨error, -, heq⟩
    · rw [evaluate_eq_eval hparse] at hv
      have harea := h {} guardedTemplate e _ {} v hparse hkeys rfl hv "area"
      simp [hnames, primaryName] at harea
    · rw [show ({} : Engine).limits = {} from rfl] at heq
      rw [heq] at hnames
      cases hnames

end Formulary
