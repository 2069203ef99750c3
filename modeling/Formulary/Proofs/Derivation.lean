import Formulary.Calculation
import Formulary.Proofs.Evaluation
import Formulary.Proofs.Schedule

/-!
# Derived values as solutions of equations

The derived parameters of one role write their values into one layer of bindings, which is the
first layer that their formulas see. Each formula is an equation for the name of its parameter. In
an order in which none reads ahead, deriving the parameters one after the other finds the only
solution of the equations, and fails when there is none.

## Main definitions

* `Derives` : parameters are derived in turn, from one layer to another;
* `Solves` : a layer satisfies the equations of parameters and is unchanged elsewhere.

## Main statements

* `Derives.solves`, `Solves.derives` : the two agree where none reads ahead;
* `Solves.perm` : the equations have no order.
-/
namespace Formulary

variable {limits : Limits} {below : Scope} {start last : Values} {p : Parameter}
  {parameters : List Parameter}

/-- There is no empty formula. -/
theorem Formula.parse_empty : Formula.parse limits "" = .error (.malformed 0 .empty) := by
  simp [Formula.parse, lex, Lexer.lexFrom, Parser.wholeFormula, bind, Except.bind]

def Parameter.value (limits : Limits) (p : Parameter) (scope : Scope) :
    Except FormulaError Value :=
  evaluate limits (p.formulaSource?.getD "") scope

namespace Parameter

theorem value_eq {source : String} (h : p.formulaSource? = some source) (scope : Scope) :
    p.value limits scope = evaluate limits source scope := by
  rw [value, h, Option.getD_some]

/-- The value of a parameter depends on the names that it reads, and on `Math`. -/
theorem value_congr {s s' : Scope} (h : s.AgreeOn (p.reads limits) s')
    (hm : s.lookup mathName = s'.lookup mathName) : p.value limits s = p.value limits s' := by
  cases hsource : p.formulaSource? with
  | none => simp only [value, hsource, Option.getD_none, evaluate, Formula.parse_empty]; rfl
  | some source =>
    rw [value_eq hsource, value_eq hsource, evaluate, evaluate]
    cases hparse : Formula.parse limits source with
    | error e => rfl
    | ok e =>
      refine e.eval_congr hm fun name hname => h name ?_
      simpa [reads, hsource, hparse, Expr.mem_references] using hname

end Parameter

theorem Scope.lookup_cons (layer : Values) (below : Scope) (name : String) :
    Scope.lookup (layer :: below) name = (layer.get? name).or (below.lookup name) := by
  simp only [lookup, List.findSome?_cons]
  cases layer.get? name <;> rfl

/-- Parameters are derived in turn, each in the layer that those before it leave. -/
inductive Derives (limits : Limits) (below : Scope) : Values → List Parameter → Values → Prop
  | nil (layer : Values) : Derives limits below layer [] layer
  | cons {layer last : Values} {p : Parameter} {rest : List Parameter} {v : Value} :
      p.value limits (layer :: below) = .ok v →
      Derives limits below (layer.insert p.name v) rest last →
      Derives limits below layer (p :: rest) last

/-- A layer gives each parameter the value of its formula, and is as before elsewhere. -/
structure Solves (limits : Limits) (below : Scope) (parameters : List Parameter)
    (start last : Values) : Prop where
  unchanged : ∀ name ∉ parameters.map Parameter.name, last.get? name = start.get? name
  equation : ∀ p ∈ parameters, ∃ v,
    p.value limits (last :: below) = .ok v ∧ last.get? p.name = some v

namespace Derives

/-- Deriving parameters binds their names, and keeps the names that are bound. -/
theorem isSome_get? (h : Derives limits below start parameters last) {name : String} :
    (last.get? name).isSome ↔
      name ∈ parameters.map Parameter.name ∨ (start.get? name).isSome := by
  induction h with
  | nil layer => simp
  | cons _ _ ih =>
    rw [ih, NameMap.get?_insert, List.map_cons, List.mem_cons]
    split <;> grind

/-- Parameters are derived in one way only. -/
theorem unique {last' : Values} (h : Derives limits below start parameters last)
    (h' : Derives limits below start parameters last') : last = last' := by
  induction h generalizing last' with
  | nil layer => cases h'; rfl
  | cons hv _ ih =>
    cases h' with
    | cons hw hrest =>
      cases hv.symm.trans hw
      exact ih hrest

/-- What is derived first does not depend on what comes after it. -/
theorem split {before after : List Parameter}
    (h : Derives limits below start (before ++ after) last) :
    ∃ layer, Derives limits below start before layer ∧ Derives limits below layer after last := by
  induction before generalizing start with
  | nil => exact ⟨start, .nil start, h⟩
  | cons p rest ih =>
    cases h with
    | cons hv hrest =>
      obtain ⟨layer, hbefore, hafter⟩ := ih hrest
      exact ⟨layer, .cons hv hbefore, hafter⟩

/-- Every formula on the way to the end has a value. -/
theorem exists_value {before after : List Parameter} {layer : Values}
    (h : Derives limits below start (before ++ p :: after) last)
    (hbefore : Derives limits below start before layer) :
    ∃ v, p.value limits (layer :: below) = .ok v := by
  obtain ⟨layer', hbefore', hafter⟩ := h.split
  obtain rfl := hbefore.unique hbefore'
  cases hafter with
  | cons hv _ => exact ⟨_, hv⟩

end Derives

/-- The value of a parameter is the same in a layer that differs in names only which it does not
read. -/
theorem Parameter.value_eq_of_unchanged {names : List String}
    (hreads : ∀ name ∈ p.reads limits, name ∉ names) (hm : mathName ∉ names)
    (h : ∀ name ∉ names, last.get? name = start.get? name) :
    p.value limits (last :: below) = p.value limits (start :: below) := by
  have hlookup : ∀ name ∉ names,
      Scope.lookup (last :: below) name = Scope.lookup (start :: below) name := by
    intro name hname
    rw [Scope.lookup_cons, Scope.lookup_cons, h name hname]
  exact value_congr (fun name hname => hlookup name (hreads name hname)) (hlookup _ hm)

/-- Deriving parameters none of which reads ahead solves their equations. -/
theorem Derives.solves (h : Derives limits below start parameters last)
    (ho : Ordered limits parameters) (hn : (parameters.map Parameter.name).Nodup)
    (hm : mathName ∉ parameters.map Parameter.name) :
    Solves limits below parameters start last := by
  induction h with
  | nil layer => exact ⟨fun _ _ => rfl, by simp⟩
  | @cons layer last p rest v hv _ ih =>
    obtain ⟨hp, hrest⟩ := List.nodup_cons.1 hn
    have hs := ih ho.2 hrest fun h => hm (.tail _ h)
    have hunchanged : ∀ name ∉ (p :: rest).map Parameter.name,
        last.get? name = layer.get? name := by
      intro name hname
      obtain ⟨hne, hname⟩ := not_or.1 (mt List.mem_cons.2 hname)
      rw [hs.unchanged name hname, NameMap.get?_insert, if_neg (Ne.symm hne)]
    refine ⟨hunchanged, fun q hq => ?_⟩
    rcases List.mem_cons.1 hq with rfl | hq
    · -- The names that are written later are none of those that the first parameter reads.
      refine ⟨v, (Parameter.value_eq_of_unchanged ho.1 hm hunchanged).trans hv, ?_⟩
      rw [hs.unchanged _ hp, NameMap.get?_insert, if_pos rfl]
    · exact hs.equation q hq

/-- A solution is what deriving the parameters leads to, when none reads ahead. -/
theorem Solves.derives (h : Solves limits below parameters start last)
    (ho : Ordered limits parameters) (hm : mathName ∉ parameters.map Parameter.name) :
    Derives limits below start parameters last := by
  induction parameters generalizing start with
  | nil =>
    obtain rfl : last = start := NameMap.eq_of_get? fun name => h.unchanged name List.not_mem_nil
    exact .nil last
  | cons p rest ih =>
    obtain ⟨v, hv, hget⟩ := h.equation p List.mem_cons_self
    rw [Parameter.value_eq_of_unchanged ho.1 hm h.unchanged] at hv
    refine .cons hv (ih ⟨fun name hname => ?_, fun q hq => h.equation q (.tail _ hq)⟩ ho.2
      fun h => hm (.tail _ h))
    rw [NameMap.get?_insert]
    split
    · rename_i heq
      rw [← heq, hget]
    · rename_i hne
      exact h.unchanged name (mt List.mem_cons.1 (not_or.2 ⟨Ne.symm hne, hname⟩))

/-- Equations have no order. -/
theorem Solves.perm {parameters' : List Parameter} (h : Solves limits below parameters start last)
    (hp : parameters.Perm parameters') : Solves limits below parameters' start last :=
  ⟨fun name hname => h.unchanged name fun hmem => hname ((hp.map Parameter.name).subset hmem),
    fun p hmem => h.equation p (hp.symm.subset hmem)⟩

end Formulary
