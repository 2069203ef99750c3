import Formulary.Formula.Eval

/-!
# What an evaluation depends on

An evaluation looks up the variables that stand in its expression, and nothing else. Two scopes
that agree on these give the expression one meaning, value or error. The variables that an
expression is said to read are the same ones, but for a `Math` in front of a member.

## Main definitions

* `Scope.AgreeOn` : scopes that give names the same meaning;
* `Expr.vars` : the variables that stand in an expression.

## Main statements

* `Expr.eval_eq_of_agreeOn_vars` : scopes that agree on the variables give the same result;
* `Expr.eq_mathName_or_mem_reads` : only `Math` can stand in an expression and not be read;
* `Expr.eval_congr` : scopes that agree on what is read and on `Math` give the same result.
-/
namespace Formulary

/-- The scopes give these names the same meaning. -/
def Scope.AgreeOn (names : List String) (s s' : Scope) : Prop :=
  ∀ name ∈ names, s.lookup name = s'.lookup name

namespace Scope.AgreeOn
variable {names more : List String} {s s' : Scope}
theorem mono (h : AgreeOn more s s') (hn : names ⊆ more) : AgreeOn names s s' :=
  fun name hname => h name (hn hname)

theorem left (h : AgreeOn (names ++ more) s s') : AgreeOn names s s' :=
  h.mono (List.subset_append_left names more)

theorem right (h : AgreeOn (names ++ more) s s') : AgreeOn more s s' :=
  h.mono (List.subset_append_right names more)
end Scope.AgreeOn

namespace Expr
variable {s s' : Scope}

theorem eq_var_of_isMath {e : Expr} (h : e.isMath) : e = .var mathName := by
  cases e with
  | var name => simpa [isMath] using h
  | _ => simp [isMath] at h

mutual

/-- The variables that stand in an expression, from left to right. -/
def vars : Expr → List String
  | .const _ => []
  | .var name => [name]
  | .member base _ => base.vars
  | .index base position => base.vars ++ position.vars
  | .unary _ operand => operand.vars
  | .binary _ left right => left.vars ++ right.vars
  | .conditional condition yes no => condition.vars ++ yes.vars ++ no.vars
  | .array items => varsOfItems items
  | .object entries => varsOfEntries entries
  | .call _ arguments => varsOfItems arguments

def varsOfItems : List Expr → List String
  | [] => []
  | item :: rest => item.vars ++ varsOfItems rest

def varsOfEntries : List (String × Expr) → List String
  | [] => []
  | (_, item) :: rest => item.vars ++ varsOfEntries rest

end

mutual

/-- An evaluation looks up no more than the variables of its expression. -/
theorem eval_eq_of_agreeOn_vars :
    ∀ {e : Expr}, s.AgreeOn e.vars s' → e.eval s = e.eval s'
  | .const _, _ => by simp only [eval]
  | .var name, h => by
    simp only [eval, h name (by simp [vars])]
  | .member base name, h => by
    simp only [vars] at h
    have hbase := eval_eq_of_agreeOn_vars h
    by_cases hb : base.isMath
    · obtain rfl := eq_var_of_isMath hb
      -- whether the member is a constant hangs on the binding of `Math`, a variable of the base
      have hm := h mathName (by simp [vars])
      simp only [eval, hm]
    · simp only [eval, hb, Bool.false_and, hbase]
  | .index base position, h => by
    simp only [vars] at h
    simp only [eval, eval_eq_of_agreeOn_vars h.left, eval_eq_of_agreeOn_vars h.right]
  | .unary _ operand, h => by
    simp only [vars] at h
    simp only [eval, eval_eq_of_agreeOn_vars h]
  | .binary op left right, h => by
    simp only [vars] at h
    simp only [eval, eval_eq_of_agreeOn_vars h.left, eval_eq_of_agreeOn_vars h.right]
  | .conditional condition yes no, h => by
    simp only [vars] at h
    simp only [eval, eval_eq_of_agreeOn_vars h.left.left,
      eval_eq_of_agreeOn_vars h.left.right, eval_eq_of_agreeOn_vars h.right]
  | .array items, h => by
    simp only [vars] at h
    simp only [eval, evalItems_eq_of_agreeOn_vars h]
  | .object entries, h => by
    simp only [vars] at h
    simp only [eval, evalEntries_eq_of_agreeOn_vars h]
  | .call function arguments, h => by
    simp only [vars] at h
    simp only [eval, evalItems_eq_of_agreeOn_vars h]

theorem evalItems_eq_of_agreeOn_vars :
    ∀ {items : List Expr}, s.AgreeOn (varsOfItems items) s' →
      evalItems s items = evalItems s' items
  | [], _ => by simp only [evalItems]
  | item :: rest, h => by
    simp only [varsOfItems] at h
    simp only [evalItems, eval_eq_of_agreeOn_vars h.left,
      evalItems_eq_of_agreeOn_vars h.right]

theorem evalEntries_eq_of_agreeOn_vars :
    ∀ {entries : List (String × Expr)}, s.AgreeOn (varsOfEntries entries) s' →
      evalEntries s entries = evalEntries s' entries
  | [], _ => by simp only [evalEntries]
  | (key, item) :: rest, h => by
    simp only [varsOfEntries] at h
    simp only [evalEntries, eval_eq_of_agreeOn_vars h.left,
      evalEntries_eq_of_agreeOn_vars h.right]

end

variable {name : String}

mutual

/-- A variable that is not read is the `Math` of a constant. -/
theorem eq_mathName_or_mem_reads :
    ∀ {e : Expr}, name ∈ e.vars → name = mathName ∨ name ∈ e.reads
  | .const _, h => by simp [vars] at h
  | .var _, h => .inr (by simpa [vars, reads] using h)
  | .member base _, h => by
    by_cases hb : base.isMath
    · obtain rfl := eq_var_of_isMath hb
      exact .inl (by simpa [vars] using h)
    · rw [vars] at h
      simpa [reads, hb] using eq_mathName_or_mem_reads h
  | .index base position, h => by
    simp only [vars, List.mem_append] at h
    have := h.imp eq_mathName_or_mem_reads eq_mathName_or_mem_reads
    simp only [reads, List.mem_append]
    grind
  | .unary _ operand, h => by
    rw [vars] at h
    rw [reads]
    exact eq_mathName_or_mem_reads h
  | .binary _ left right, h => by
    simp only [vars, List.mem_append] at h
    have := h.imp eq_mathName_or_mem_reads eq_mathName_or_mem_reads
    simp only [reads, List.mem_append]
    grind
  | .conditional condition yes no, h => by
    simp only [vars, List.mem_append] at h
    have := h.imp (Or.imp eq_mathName_or_mem_reads eq_mathName_or_mem_reads)
      eq_mathName_or_mem_reads
    simp only [reads, List.mem_append]
    grind
  | .array items, h => by
    rw [vars] at h
    rw [reads]
    exact eq_mathName_or_mem_readsItems h
  | .object entries, h => by
    rw [vars] at h
    rw [reads]
    exact eq_mathName_or_mem_readsEntries h
  | .call _ arguments, h => by
    rw [vars] at h
    rw [reads]
    exact eq_mathName_or_mem_readsItems h

theorem eq_mathName_or_mem_readsItems :
    ∀ {items : List Expr}, name ∈ varsOfItems items →
      name = mathName ∨ name ∈ readsItems items
  | [], h => by simp [varsOfItems] at h
  | item :: rest, h => by
    simp only [varsOfItems, List.mem_append] at h
    have := h.imp eq_mathName_or_mem_reads eq_mathName_or_mem_readsItems
    simp only [readsItems, List.mem_append]
    grind

theorem eq_mathName_or_mem_readsEntries :
    ∀ {entries : List (String × Expr)}, name ∈ varsOfEntries entries →
      name = mathName ∨ name ∈ readsEntries entries
  | [], h => by simp [varsOfEntries] at h
  | (_, item) :: rest, h => by
    simp only [varsOfEntries, List.mem_append] at h
    have := h.imp eq_mathName_or_mem_reads eq_mathName_or_mem_readsEntries
    simp only [readsEntries, List.mem_append]
    grind

end

/-- Scopes that agree on what is read and on `Math` give an expression the same result. -/
theorem eval_congr (hm : s.lookup mathName = s'.lookup mathName) {e : Expr}
    (h : s.AgreeOn e.reads s') : e.eval s = e.eval s' := by
  refine eval_eq_of_agreeOn_vars fun name hname => ?_
  obtain rfl | hread := eq_mathName_or_mem_reads hname
  · exact hm
  · exact h name hread

end Expr

end Formulary
