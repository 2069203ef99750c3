import Formulary.Formula.Parser
import Formulary.Proofs.EvaluationErrors

/-!
# What references determine

The order of derivation and the check of a template go by the references of a formula, the names
that it is said to read. They determine its result but for one name: `Math` in front of a member
is no reference, yet its binding takes the place of the constants. What a formula misses is a
reference of it, as `Math` in front of a member is not missed.

## Main statements

* `Expr.eval_eq_of_agreeOn_references` : references and the `Math` of a member determine the
  result;
* `not_forall_eval_eq_of_agreeOn_references` : references alone do not;
* `Expr.eval_undefinedVariable` : the variables for which an evaluation fails.
-/
namespace Formulary

/-- Scopes that agree on the references of an expression, and on `Math` when it stands in the
expression, give the same value or the same error. -/
theorem Expr.eval_eq_of_agreeOn_references (e : Expr) (s s' : Scope)
    (h : s.AgreeOn e.references s')
    (hm : mathName ∈ e.vars → s.lookup mathName = s'.lookup mathName) :
    e.eval s = e.eval s' := by
  refine eval_eq_of_agreeOn_vars fun name hname => ?_
  obtain rfl | hread := eq_mathName_or_mem_reads hname
  · exact hm hname
  · exact h name (mem_references.2 hread)

def circumference : Expr :=
  .binary .mul (.member (.var mathName) "PI") (.var "diameter")

/-- The circumference does not depend on the layer that binds the diameter, nor on what is bound
below it. -/
theorem eval_circumference_shadowed :
    circumference.references = ["diameter"] ∧
      circumference.eval
          [NameMap.ofEntries [("diameter", .number 2)], NameMap.ofEntries [("diameter", .null)]] =
        circumference.eval
          [NameMap.ofEntries [("color", .text "red")],
            NameMap.ofEntries [("diameter", .number 2)]] := by
  have hreferences : circumference.references = ["diameter"] := by decide +kernel
  refine ⟨hreferences, Expr.eval_eq_of_agreeOn_references _ _ _ ?_ fun _ => by rfl⟩
  intro name hname
  obtain rfl : name = "diameter" := by simpa [hreferences] using hname
  rfl

/-- The formula `Math.PI` has no references, and a bound `Math` changes its value. -/
theorem not_forall_eval_eq_of_agreeOn_references :
    ¬ ∀ (limits : Limits) (text : String) (e : Expr) (s s' : Scope),
      Formula.parse limits text = .ok e → s.AgreeOn e.references s' → e.eval s = e.eval s' := by
  intro h
  let bound : Scope := [NameMap.ofEntries [("Math", .object [("PI", .text "three")])]]
  have hreferences :
      (Formula.parse {} "Math.PI").toOption.map Expr.references = some [] := by decide +kernel
  have htexts : (Formula.parse {} "Math.PI").toOption.map (fun e =>
      ((e.eval []).toOption.bind Value.text?, (e.eval bound).toOption.bind Value.text?)) =
        some (none, some "three") := by decide +kernel
  cases hparse : Formula.parse {} "Math.PI" with
  | error e => simp [hparse, Except.toOption] at hreferences
  | ok e =>
    simp only [hparse, Except.toOption, Option.map_some, Option.some.injEq, Prod.mk.injEq]
      at hreferences htexts
    have heq : e.eval [] = e.eval bound :=
      h {} "Math.PI" e [] bound hparse fun name hname => by simp [hreferences] at hname
    rw [← heq] at htexts
    exact absurd (htexts.1.symm.trans htexts.2) (by decide)

/-! ### Missing variables -/

/-- A name means nothing when no layer binds it. -/
theorem Scope.lookup_eq_none_iff {s : Scope} {name : String} :
    s.lookup name = none ↔ ∀ layer ∈ s, name ∉ layer.names := by
  rw [lookup, List.findSome?_eq_none_iff]
  refine forall₂_congr fun layer _ => ?_
  rw [NameMap.mem_names, Option.not_isSome_iff_eq_none]

/-- The variable for which an evaluation fails is a reference, and no layer binds it. So no
evaluation fails for a variable when all references are bound, whether `Math` is or not. -/
theorem Expr.eval_undefinedVariable (e : Expr) (s : Scope) :
    (∀ name, e.eval s = .error (.undefinedVariable name) →
      name ∈ e.references ∧ ∀ layer ∈ s, name ∉ layer.names) ∧
    ((∀ name ∈ e.references, ∃ layer ∈ s, name ∈ layer.names) →
      ∀ name, e.eval s ≠ .error (.undefinedVariable name)) := by
  have hmissing (name : String) (h : e.eval s = .error (.undefinedVariable name)) :
      name ∈ e.references ∧ ∀ layer ∈ s, name ∉ layer.names := by
    cases (e.eval_explained s).of_error h with
    | reported h => cases h
    | unbound hread hnone => exact ⟨mem_references.2 hread, Scope.lookup_eq_none_iff.1 hnone⟩
  refine ⟨hmissing, fun hbound name h => ?_⟩
  obtain ⟨hreference, hnone⟩ := hmissing name h
  obtain ⟨layer, hlayer, hname⟩ := hbound name hreference
  exact hnone layer hlayer hname

/-- The circumference misses the diameter only, and with it nothing, even where `Math` is bound. -/
theorem eval_circumference_undefinedVariable :
    (circumference.eval [NameMap.ofEntries [("color", .text "red")]] =
        .error (.undefinedVariable "diameter") ∧
      "diameter" ∈ circumference.references ∧
      ∀ layer ∈ [NameMap.ofEntries [("color", Value.text "red")]], "diameter" ∉ layer.names) ∧
    ∀ name, circumference.eval [NameMap.ofEntries [("Math", .null)],
        NameMap.ofEntries [("diameter", .number 2)]] ≠ .error (.undefinedVariable name) := by
  have hmissing : circumference.eval [NameMap.ofEntries [("color", .text "red")]] =
      .error (.undefinedVariable "diameter") := by rfl
  refine ⟨⟨hmissing, (Expr.eval_undefinedVariable _ _).1 _ hmissing⟩, ?_⟩
  refine (Expr.eval_undefinedVariable _ _).2 fun name hname => ?_
  have hreferences : circumference.references = ["diameter"] := by decide +kernel
  obtain rfl : name = "diameter" := by simpa [hreferences] using hname
  exact ⟨_, List.mem_cons_of_mem _ List.mem_cons_self, by decide⟩

end Formulary
