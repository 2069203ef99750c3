import Formulary.Proofs.Evaluation
import Formulary.Proofs.Fallible

/-!
# Why an evaluation fails

Only two things go wrong while an expression is evaluated: an operation does not take its operands,
or a variable that the expression reads is bound nowhere. The errors of reading a formula do not
arise again. All operations report what is wrong with their operands, but for the calls of `clamp`
whose bounds have no order.

## Main definitions

* `FormulaError.isReported` : the errors that operations report;
* `Builtin.Unordered` : the arguments for which `clamp` cannot compare its bounds;
* `Expr.calls` : the calls of an expression;
* `Expr.Explained` : the ways in which an evaluation fails.

## Main statements

* `Builtin.apply_fails` : a call fails for its arguments only;
* `Expr.eval_explained` : an evaluation fails for operands, for a variable that is not bound, or for
  bounds without an order;
* `Expr.eval_blamed` : the same, without telling the calls apart.
-/
namespace Formulary

variable {α β : Type}

namespace FormulaError

/-- The errors that the operands of an operation cause. -/
def isOperational : FormulaError → Bool
  | .arity .. | .type _ | .nonFinite _ | .unorderedBounds => true
  | .malformed .. | .tooLong _ | .tooDeep _ | .undefinedVariable _ | .unknownFunction _ => false

/-- The errors by which an operation reports what is wrong with its operands. -/
def isReported : FormulaError → Bool
  | .arity .. | .type _ | .nonFinite _ => true
  | .malformed .. | .tooLong _ | .tooDeep _ | .undefinedVariable _ | .unknownFunction _
  | .unorderedBounds => false

theorem isOperational_of_isReported {e : FormulaError} (h : e.isReported) : e.isOperational := by
  cases e <;> first | rfl | cases h

end FormulaError

/-- Failing only for the operands, with an error that says so. -/
abbrev FailsByOperands (r : Except FormulaError α) : Prop := Only (fun e => e.isReported) r

namespace Builtin

variable (function : Builtin)

theorem finite_fails (x : Float) : FailsByOperands (function.finite x) := by
  unfold finite
  split
  · exact .ok trivial
  · exact .error rfl

theorem numberArgument_fails (v : Value) : FailsByOperands (function.numberArgument v) := by
  cases v <;> first | exact .ok trivial | exact .error rfl

theorem dateArgument_fails (v : Value) : FailsByOperands (function.dateArgument v) := by
  unfold dateArgument
  split
  · exact .ok trivial
  · split
    · exact .ok trivial
    · exact .error rfl
  · exact .error rfl

theorem wrongArity_fails (expected : Arity) (arguments : List Value) :
    FailsByOperands (function.wrongArity expected arguments : Except FormulaError α) := .error rfl

theorem ofNumber_fails (f : Float → Float) (arguments : List Value) :
    FailsByOperands (function.ofNumber f arguments) := by
  unfold ofNumber
  split
  · exact (function.numberArgument_fails _).bind fun x _ => function.finite_fails _
  · exact function.wrongArity_fails _ _

theorem ofText_fails (f : String → String) (arguments : List Value) :
    FailsByOperands (function.ofText f arguments) := by
  unfold ofText
  split
  · exact .ok trivial
  · exact .error rfl
  · exact function.wrongArity_fails _ _

theorem ofDate_fails (f : Calendar.CivilDay → Float) (arguments : List Value) :
    FailsByOperands (function.ofDate f arguments) := by
  unfold ofDate
  split
  · exact (function.dateArgument_fails _).bind fun t _ => .pure trivial
  · exact function.wrongArity_fails _ _

theorem numbers_fails (arguments : List Value) : FailsByOperands (function.numbers arguments) := by
  unfold numbers
  split
  · exact (Settles.mapM function.numberArgument_fails _).mono fun _ _ => trivial
  · exact (Settles.mapM function.numberArgument_fails _).mono fun _ _ => trivial

theorem combined_fails (f : Float → Float → Float) (arguments : List Value) :
    FailsByOperands (function.combined f arguments) := by
  refine (function.numbers_fails arguments).bind fun xs _ => ?_
  split
  · exact .error rfl
  · exact function.finite_fails _

/-- All functions but `clamp` report every failure. -/
theorem apply_fails_of_ne (h : function ≠ .clamp) (arguments : List Value) :
    FailsByOperands (function.apply arguments) := by
  cases function with
  | clamp => exact absurd rfl h
  | abs | ceil | floor | trunc | sqrt | sign => exact ofNumber_fails _ _ _
  | upper | lower | trim => exact ofText_fails _ _ _
  | year | month | day =>
    simp only [apply]
    exact ofDate_fails _ _ _
  | min | max => exact combined_fails _ _ _
  | concat | coalesce => exact .ok trivial
  | sum => exact (numbers_fails _ _).bind fun xs _ => finite_fails _ _
  | avg =>
    refine (numbers_fails _ _).bind fun xs _ => ?_
    split
    · exact .error rfl
    · exact finite_fails _ _
  | pow =>
    simp only [apply]
    split
    · exact (numberArgument_fails _ _).bind fun x _ =>
        (numberArgument_fails _ _).bind fun y _ => finite_fails _ _
    · exact wrongArity_fails _ _ _
  | round =>
    simp only [apply]
    split
    · exact (numberArgument_fails _ _).bind fun x _ => finite_fails _ _
    · exact (numberArgument_fails _ _).bind fun x _ =>
        (numberArgument_fails _ _).bind fun y _ => finite_fails _ _
    · exact wrongArity_fails _ _ _
  | len =>
    simp only [apply]
    split
    · exact .ok trivial
    · exact .ok trivial
    · exact .ok trivial
    · exact .error rfl
    · exact wrongArity_fails _ _ _
  | str =>
    simp only [apply]
    split
    · exact .ok trivial
    · exact wrongArity_fails _ _ _
  | num =>
    simp only [apply]
    split
    · exact .ok trivial
    · exact .ok trivial
    · split
      · exact .ok trivial
      · exact .error rfl
    · exact .error rfl
    · exact wrongArity_fails _ _ _
  | date =>
    simp only [apply]
    split
    · exact (dateArgument_fails _ _).bind fun t _ => .pure trivial
    · refine (numberArgument_fails _ _).bind fun y _ =>
        (numberArgument_fails _ _).bind fun m _ => (numberArgument_fails _ _).bind fun d _ => ?_
      split
      · exact .pure trivial
      · exact .error rfl
    · exact wrongArity_fails _ _ _
  | addDays =>
    simp only [apply]
    split
    · refine (dateArgument_fails _ _).bind fun t _ => (numberArgument_fails _ _).bind fun n _ => ?_
      split
      · exact .pure trivial
      · exact .error rfl
    · exact wrongArity_fails _ _ _
  | daysBetween =>
    simp only [apply]
    split
    · exact (dateArgument_fails _ _).bind fun t _ => (dateArgument_fails _ _).bind fun u _ => .pure trivial
    · exact wrongArity_fails _ _ _

theorem eq_number_of_numberArgument {v : Value} {x : Float}
    (h : function.numberArgument v = .ok x) : v = .number x := by
  cases v <;> cases h
  rfl

/-- The arguments of `clamp` are numbers, and one of the bounds is none that has an order. -/
def Unordered (arguments : List Value) : Prop :=
  function = .clamp ∧ ∃ x low high : Float,
    arguments = [.number x, .number low, .number high] ∧ (low.isNaN ∨ high.isNaN)

/-- An error of a call: it is reported, or the arguments are bounds without an order. -/
def Fault (arguments : List Value) (e : FormulaError) : Prop :=
  e.isReported ∨ e = .unorderedBounds ∧ function.Unordered arguments

theorem fault_of_reported {arguments : List Value} {r : Except FormulaError α}
    (h : FailsByOperands r) : Only (function.Fault arguments) r :=
  h.mono_error fun _ => .inl

theorem clamp_fails (arguments : List Value) :
    Only (clamp.Fault arguments) (clamp.apply arguments) := by
  simp only [apply]
  split
  · rename_i v l h
    refine (fault_of_reported _ (numberArgument_fails _ _)).bind_of_ok fun x hx _ =>
      (fault_of_reported _ (numberArgument_fails _ _)).bind_of_ok fun low hlow _ =>
        (fault_of_reported _ (numberArgument_fails _ _)).bind_of_ok fun high hhigh _ => ?_
    obtain rfl := eq_number_of_numberArgument _ hx
    obtain rfl := eq_number_of_numberArgument _ hlow
    obtain rfl := eq_number_of_numberArgument _ hhigh
    split
    · exact .error (.inl rfl)
    · split
      · rename_i hnan
        exact .error (.inr ⟨rfl, rfl, x, low, high, rfl, by simpa using hnan⟩)
      · exact fault_of_reported _ (finite_fails _ _)
  · exact fault_of_reported _ (wrongArity_fails _ _ _)

/-- A call reports that it does not take its arguments, unless they are the bounds of `clamp` and
have no order. -/
theorem apply_fails (arguments : List Value) :
    Only (function.Fault arguments) (function.apply arguments) := by
  by_cases hf : function = .clamp
  · subst hf
    exact clamp_fails arguments
  · exact fault_of_reported _ (function.apply_fails_of_ne hf arguments)

end Builtin

namespace Expr

theorem mathConstant_fails (name : String) : FailsByOperands (mathConstant name) := by
  unfold mathConstant
  split
  · exact .ok trivial
  · split
    · exact .ok trivial
    · exact .error rfl

theorem memberOf_fails (base : Value) (name : String) : FailsByOperands (memberOf base name) := by
  unfold memberOf
  split
  · exact .ok trivial
  · split <;> first | exact .ok trivial | exact .error rfl
  · split <;> first | exact .ok trivial | exact .error rfl
  · exact .error rfl

theorem itemOf_fails (base index : Value) : FailsByOperands (itemOf base index) := by
  unfold itemOf
  split <;> first | exact .ok trivial | exact .error rfl

theorem finite_fails (origin : Origin) (x : Float) : FailsByOperands (finite origin x) := by
  unfold finite
  split
  · exact .ok trivial
  · exact .error rfl

theorem applyUnary_fails (op : UnaryOp) (v : Value) : FailsByOperands (applyUnary op v) := by
  unfold applyUnary
  split
  · exact .ok trivial
  · exact finite_fails _ _
  · exact finite_fails _ _
  · exact .error rfl

theorem applyComparison_fails (op : BinaryOp) (holds : Ordering → Bool) (left right : Value) :
    FailsByOperands (applyComparison op holds left right) := by
  unfold applyComparison
  split
  · exact .ok trivial
  · exact .error rfl

theorem applyArithmetic_fails (op : BinaryOp) (f : Float → Float → Float) (left right : Value) :
    FailsByOperands (applyArithmetic op f left right) := by
  unfold applyArithmetic
  split
  · exact finite_fails _ _
  · exact .error rfl

theorem applySum_fails (left right : Value) : FailsByOperands (applySum left right) := by
  unfold applySum
  split
  · exact finite_fails _ _
  · exact .ok trivial
  · exact .ok trivial
  · exact .error rfl

theorem applyBinary_fails (op : BinaryOp) (left right : Value) :
    FailsByOperands (applyBinary op left right) := by
  cases op with
  | equal | notEqual | and | or | nullish => exact .ok trivial
  | less | lessEqual | greater | greaterEqual => exact applyComparison_fails _ _ _ _
  | add => exact applySum_fails _ _
  | sub | mul | div | mod | pow => exact applyArithmetic_fails _ _ _ _

mutual

/-- The calls in an expression, each with its arguments, from the outside to the inside. -/
def calls : Expr → List (Builtin × List Expr)
  | .const _ | .var _ => []
  | .member base _ => base.calls
  | .index base position => base.calls ++ position.calls
  | .unary _ operand => operand.calls
  | .binary _ left right => left.calls ++ right.calls
  | .conditional condition yes no => condition.calls ++ yes.calls ++ no.calls
  | .array items => callsOfItems items
  | .object entries => callsOfEntries entries
  | .call function arguments => (function, arguments) :: callsOfItems arguments

def callsOfItems : List Expr → List (Builtin × List Expr)
  | [] => []
  | item :: rest => item.calls ++ callsOfItems rest

def callsOfEntries : List (String × Expr) → List (Builtin × List Expr)
  | [] => []
  | (_, item) :: rest => item.calls ++ callsOfEntries rest

end

/-- Why an evaluation that reads `names` and makes `calls` fails: an operation reports that it does
not take its operands, one of the names is bound nowhere, or the arguments of one of the calls are
bounds without an order. -/
inductive Explained (s : Scope) (names : List String) (calls : List (Builtin × List Expr)) :
    FormulaError → Prop
  | reported {e : FormulaError} : e.isReported → Explained s names calls e
  | unbound {name : String} : name ∈ names → s.lookup name = none →
      Explained s names calls (.undefinedVariable name)
  | unordered {function : Builtin} {arguments : List Expr} {values : List Value} :
      (function, arguments) ∈ calls → evalItems s arguments = .ok values →
      function.Unordered values → Explained s names calls .unorderedBounds

namespace Explained

variable {s : Scope} {names more : List String} {calls further : List (Builtin × List Expr)}
  {e : FormulaError}

theorem mono (h : Explained s names calls e) (hn : names ⊆ more) (hc : calls ⊆ further) :
    Explained s more further e := by
  cases h with
  | reported h => exact .reported h
  | unbound hname hs => exact .unbound (hn hname) hs
  | unordered hcall hvalues h => exact .unordered (hc hcall) hvalues h

theorem left (h : Explained s names calls e) :
    Explained s (names ++ more) (calls ++ further) e :=
  h.mono (List.subset_append_left names more) (List.subset_append_left calls further)

theorem right (h : Explained s more further e) :
    Explained s (names ++ more) (calls ++ further) e :=
  h.mono (List.subset_append_right names more) (List.subset_append_right calls further)

end Explained

end Expr

theorem FailsByOperands.explained {s : Scope} {names : List String}
    {calls : List (Builtin × List Expr)} {r : Except FormulaError α} (h : FailsByOperands r) :
    Only (Expr.Explained s names calls) r :=
  h.mono_error fun _ => .reported

namespace Expr

mutual

/-- Every error of an evaluation is reported by one of its operations, or it is about a variable
that is not bound or a call with bounds that have no order. -/
theorem eval_explained (s : Scope) : ∀ e : Expr, Only (Explained s e.reads e.calls) (e.eval s)
  | .const _ => by
    simp only [eval]
    exact .ok trivial
  | .var name => by
    simp only [eval]
    split
    · exact .ok trivial
    · exact .error (.unbound (by simp [reads]) ‹_›)
  | .member base name => by
    by_cases hb : base.isMath
    · obtain rfl := eq_var_of_isMath hb
      cases hm : s.lookup mathName with
      | none =>
        simp only [eval, hb, hm]
        exact (mathConstant_fails name).explained
      | some v =>
        simp only [eval, hb, hm]
        exact (memberOf_fails v name).explained
    · simp only [eval, reads, calls, hb]
      exact (eval_explained s base).bind fun b _ => (memberOf_fails b name).explained
  | .index base position => by
    simp only [eval, reads, calls]
    exact ((eval_explained s base).mono_error fun _ => .left).bind fun b _ =>
      ((eval_explained s position).mono_error fun _ => .right).bind fun p _ =>
        (itemOf_fails b p).explained
  | .unary op operand => by
    simp only [eval, reads, calls]
    exact (eval_explained s operand).bind fun v _ => (applyUnary_fails op v).explained
  | .binary op left right => by
    simp only [eval, reads, calls]
    refine ((eval_explained s left).mono_error fun _ => .left).bind fun l _ => ?_
    split
    · exact .pure trivial
    · exact ((eval_explained s right).mono_error fun _ => .right).bind fun r _ =>
        (applyBinary_fails op l r).explained
  | .conditional condition yes no => by
    simp only [eval, reads, calls]
    refine ((eval_explained s condition).mono_error fun _ h => h.left.left).bind fun c _ => ?_
    split
    · exact (eval_explained s yes).mono_error fun _ h => h.right.left
    · exact (eval_explained s no).mono_error fun _ => .right
  | .array items => by
    simp only [eval, reads, calls]
    exact (evalItems_explained s items).bind fun vs _ => .pure trivial
  | .object entries => by
    simp only [eval, reads, calls]
    exact (evalEntries_explained s entries).bind fun vs _ => .pure trivial
  | .call function arguments => by
    simp only [eval, reads, calls]
    refine ((evalItems_explained s arguments).mono_error fun _ h =>
      h.mono (List.Subset.refl _) (List.subset_cons_self _ _)).bind_of_ok fun values hvalues _ => ?_
    refine (function.apply_fails values).mono_error fun e he => ?_
    obtain hreported | ⟨rfl, hunordered⟩ := he
    · exact .reported hreported
    · exact .unordered List.mem_cons_self hvalues hunordered

theorem evalItems_explained (s : Scope) : ∀ items : List Expr,
    Only (Explained s (readsItems items) (callsOfItems items)) (evalItems s items)
  | [] => by
    simp only [evalItems]
    exact .ok trivial
  | item :: rest => by
    simp only [evalItems, readsItems, callsOfItems]
    exact ((eval_explained s item).mono_error fun _ => .left).bind fun v _ =>
      ((evalItems_explained s rest).mono_error fun _ => .right).bind fun vs _ => .pure trivial

theorem evalEntries_explained (s : Scope) : ∀ entries : List (String × Expr),
    Only (Explained s (readsEntries entries) (callsOfEntries entries)) (evalEntries s entries)
  | [] => by
    simp only [evalEntries]
    exact .ok trivial
  | (key, item) :: rest => by
    simp only [evalEntries, readsEntries, callsOfEntries]
    exact ((eval_explained s item).mono_error fun _ => .left).bind fun v _ =>
      ((evalEntries_explained s rest).mono_error fun _ => .right).bind fun vs _ => .pure trivial

end

/-- An error of an evaluation that reads `names`: an operation does not take its operands, or one
of the names is bound nowhere. -/
def Blamed (s : Scope) (names : List String) (e : FormulaError) : Prop :=
  e.isOperational ∨ ∃ name ∈ names, s.lookup name = none ∧ e = .undefinedVariable name

/-- Every error of an evaluation is one of its operations or a variable that is not bound. -/
theorem eval_blamed (s : Scope) (e : Expr) : Only (Blamed s e.reads) (e.eval s) := by
  refine (eval_explained s e).mono_error fun error h => ?_
  cases h with
  | reported h => exact .inl (FormulaError.isOperational_of_isReported h)
  | unbound hname hs => exact .inr ⟨_, hname, hs, rfl⟩
  | unordered => exact .inl rfl

end Expr

end Formulary
