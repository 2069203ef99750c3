import Formulary.Proofs.EvaluationErrors
import Formulary.Proofs.Numbers

/-!
# What a formula can do

A formula that is accepted calls the functions whose names stand in its text, and these are
functions of the table. Its constants are null, truth values, texts and finite numbers. When it
fails, it fails for a variable that is bound nowhere or for the operands of an operation, whatever
the scope; only `clamp` does not report all that is wrong with its operands, which takes a variable
that is bound to something that is not a number.

## Main definitions

* `Expr.names` : the names of variables, members and functions in an expression;
* `Expr.Contains` : the calls whose names, variables and constants are those of an expression;
* `FormulaError.isOfEvaluation` : the errors that evaluations report;
* `Expr.ComparesUnordered` : scopes in which some call of `clamp` has bounds without an order.

## Main statements

* `Grammar.Expression.spelled` : every name of an expression stands in its tokens;
* `Expr.exists_nan_of_comparesUnordered` : bounds have an order unless a variable brings along what
  is not a number;
* `Formula.parse_sandboxed` : the calls, constants and errors of a formula that is accepted;
* `not_forall_eval_isOfEvaluation` : not all errors of evaluations are reported.
-/
namespace Formulary

/-! ### Names -/

theorem Builtin.name_of_ofName? {name : String} {function : Builtin}
    (h : ofName? name = some function) : function.name = name := by
  simpa using List.find?_some h

namespace Expr

mutual

/-- The names of the variables, members and functions in an expression. -/
def names : Expr → List String
  | .const _ => []
  | .var name => [name]
  | .member base name => name :: base.names
  | .index base position => base.names ++ position.names
  | .unary _ operand => operand.names
  | .binary _ left right => left.names ++ right.names
  | .conditional condition yes no => condition.names ++ yes.names ++ no.names
  | .array items => namesOfItems items
  | .object entries => namesOfEntries entries
  | .call function arguments => function.name :: namesOfItems arguments

def namesOfItems : List Expr → List String
  | [] => []
  | item :: rest => item.names ++ namesOfItems rest

def namesOfEntries : List (String × Expr) → List String
  | [] => []
  | (_, item) :: rest => item.names ++ namesOfEntries rest

end

end Expr

namespace Grammar

theorem Callee.name_mem {e : Expr} {function : Builtin} (h : Callee e function) :
    function.name ∈ e.names := by
  cases h with
  | name h | member h => simp [Builtin.name_of_ofName? h, Expr.names]

/-- Names stand in tokens. -/
def Spelled (ts : List Token) (names : List String) : Prop := ∀ name ∈ names, .name name ∈ ts

namespace Spelled

variable {ts us : List Token} {names more : List String}

theorem mono (h : Spelled ts names) (hsub : ts ⊆ us) : Spelled us names :=
  fun name hname => hsub (h name hname)

theorem append (h : Spelled us names) (h' : Spelled us more) : Spelled us (names ++ more) :=
  List.forall_mem_append.2 ⟨h, h'⟩

/-- What stands in the parts of some tokens stands in them. -/
theorem parts {vs : List Token} (h : Spelled ts names) (h' : Spelled us more) {t : Token}
    (hvs : vs = ts ++ t :: us) : Spelled vs (names ++ more) := by
  subst hvs
  exact (h.mono (List.subset_append_left _ _)).append
    (h'.mono (List.subset_append_of_subset_right _ (List.subset_cons_self _ _)))

theorem enclosed {t : Token} (h : Spelled ts names) : Spelled (t :: (ts ++ us)) names :=
  h.mono (List.subset_cons_of_subset _ (List.subset_append_left _ _))

end Spelled

mutual

/-- Every name of an expression stands in its tokens. -/
theorem Expression.spelled : ∀ {ts : List Token} {e : Expr}, Expression ts e → Spelled ts e.names
  | _, _, .operation d => d.spelled
  | _, _, .conditional c y n => by
    simp only [Expr.names, List.append_assoc]
    exact c.spelled.parts (y.spelled.parts n.spelled rfl) rfl

theorem Operation.spelled {levels : List (List (Mark × BinaryOp))} :
    ∀ {ts : List Token} {e : Expr}, Operation levels ts e → Spelled ts e.names
  | _, _, .unary d => d.spelled
  | _, _, .tighter d => d.spelled
  | _, _, .binary l _ r => by
    simp only [Expr.names]
    exact l.spelled.parts r.spelled rfl

theorem Unary.spelled : ∀ {ts : List Token} {e : Expr}, Unary ts e → Spelled ts e.names
  | _, _, .power d => d.spelled
  | _, _, .sign _ d => by
    simp only [Expr.names]
    exact d.spelled.mono (List.subset_cons_self _ _)

theorem Power.spelled : ∀ {ts : List Token} {e : Expr}, Power ts e → Spelled ts e.names
  | _, _, .operand d => d.spelled
  | _, _, .power b e => by
    simp only [Expr.names]
    exact b.spelled.parts e.spelled rfl

theorem Postfix.spelled : ∀ {ts : List Token} {e : Expr}, Postfix ts e → Spelled ts e.names
  | _, _, .atom d => d.spelled
  | _, _, .member d => by
    simp only [Expr.names]
    exact List.forall_mem_cons.2 ⟨by simp, d.spelled.mono (List.subset_append_left _ _)⟩
  | _, _, .index d p => by
    simp only [Expr.names]
    exact d.spelled.parts (p.spelled.mono (List.subset_append_left _ _)) rfl
  | _, _, .call d callee as => by
    simp only [Expr.names]
    -- The function is called by the name of its callee, which stands before the parenthesis.
    have hname := d.spelled _ callee.name_mem
    refine List.forall_mem_cons.2 ⟨List.mem_append_left _ hname, ?_⟩
    exact as.spelled.enclosed.mono (List.subset_append_right _ _)

theorem Atom.spelled : ∀ {ts : List Token} {e : Expr}, Atom ts e → Spelled ts e.names
  | _, _, .leaf h => by cases h <;> simp [Expr.names, Spelled]
  | _, _, .paren d => d.spelled.enclosed
  | _, _, .array d => by
    simp only [Expr.names]
    exact d.spelled.enclosed
  | _, _, .object d => by
    simp only [Expr.names]
    exact d.spelled.enclosed

theorem Items.spelled : ∀ {ts : List Token} {es : List Expr}, Items ts es →
    Spelled ts (Expr.namesOfItems es)
  | _, _, .nil => by simp [Expr.namesOfItems, Spelled]
  | _, _, .last d => by
    simp only [Expr.namesOfItems, List.append_nil]
    exact d.spelled
  | _, _, .cons d ds => by
    simp only [Expr.namesOfItems]
    exact d.spelled.parts ds.spelled rfl

theorem Member.spelled : ∀ {ts : List Token} {m : String × Expr}, Member ts m →
    Spelled ts m.2.names
  | _, _, .pair _ d =>
    d.spelled.mono (List.subset_cons_of_subset _ (List.subset_cons_self _ _))
  | _, _, .short _ => by simp [Expr.names, Spelled]

theorem Members.spelled : ∀ {ts : List Token} {ms : List (String × Expr)}, Members ts ms →
    Spelled ts (Expr.namesOfEntries ms)
  | _, _, .nil => by simp [Expr.namesOfEntries, Spelled]
  | _, _, .last d => by
    simp only [Expr.namesOfEntries, List.append_nil]
    exact d.spelled
  | _, _, .cons d ds => by
    simp only [Expr.namesOfEntries]
    exact d.spelled.parts ds.spelled rfl

end

end Grammar

/-! ### Calls -/

namespace Expr

/-- What a call and its arguments bring along is among the names, the variables and the constants of
an expression. -/
structure Contains (names vars : List String) (constants : List Value)
    (call : Builtin × List Expr) : Prop where
  name_mem : call.1.name ∈ names
  vars_subset : varsOfItems call.2 ⊆ vars
  constants_subset : constantsOfItems call.2 ⊆ constants

namespace Contains

variable {names more vars further : List String} {constants others : List Value}
  {call : Builtin × List Expr}

theorem left (h : Contains names vars constants call) :
    Contains (names ++ more) (vars ++ further) (constants ++ others) call where
  name_mem := List.mem_append_left _ h.name_mem
  vars_subset := List.subset_append_of_subset_left _ h.vars_subset
  constants_subset := List.subset_append_of_subset_left _ h.constants_subset

theorem right (h : Contains more further others call) :
    Contains (names ++ more) (vars ++ further) (constants ++ others) call where
  name_mem := List.mem_append_right _ h.name_mem
  vars_subset := List.subset_append_of_subset_right _ h.vars_subset
  constants_subset := List.subset_append_of_subset_right _ h.constants_subset

theorem cons {name : String} (h : Contains names vars constants call) :
    Contains (name :: names) vars constants call :=
  { h with name_mem := List.mem_cons_of_mem _ h.name_mem }

end Contains

variable {call : Builtin × List Expr}

mutual

/-- The calls that stand in an expression bring along nothing that does not. -/
theorem contains_of_mem_calls : ∀ {e : Expr}, call ∈ e.calls →
    Contains e.names e.vars e.constants call
  | .const _, h => by simp [calls] at h
  | .var _, h => by simp [calls] at h
  | .member base _, h => by
    simp only [calls] at h
    simp only [names, vars, constants]
    exact (contains_of_mem_calls h).cons
  | .index base position, h => by
    simp only [calls] at h
    simp only [names, vars, constants]
    obtain h | h := List.mem_append.1 h
    · exact (contains_of_mem_calls h).left
    · exact (contains_of_mem_calls h).right
  | .unary _ operand, h => by
    simp only [calls] at h
    simp only [names, vars, constants]
    exact contains_of_mem_calls h
  | .binary _ left right, h => by
    simp only [calls] at h
    simp only [names, vars, constants]
    obtain h | h := List.mem_append.1 h
    · exact (contains_of_mem_calls h).left
    · exact (contains_of_mem_calls h).right
  | .conditional condition yes no, h => by
    simp only [calls] at h
    simp only [names, vars, constants]
    obtain h | h := List.mem_append.1 h
    · obtain h | h := List.mem_append.1 h
      · exact (contains_of_mem_calls h).left.left
      · exact (contains_of_mem_calls h).right.left
    · exact (contains_of_mem_calls h).right
  | .array items, h => by
    simp only [calls] at h
    simp only [names, vars, constants]
    exact contains_of_mem_callsOfItems h
  | .object entries, h => by
    simp only [calls] at h
    simp only [names, vars, constants]
    exact contains_of_mem_callsOfEntries h
  | .call function arguments, h => by
    simp only [calls] at h
    simp only [names, vars, constants]
    obtain rfl | h := List.mem_cons.1 h
    · exact ⟨List.mem_cons_self, List.Subset.refl _, List.Subset.refl _⟩
    · exact (contains_of_mem_callsOfItems h).cons

theorem contains_of_mem_callsOfItems : ∀ {items : List Expr}, call ∈ callsOfItems items →
    Contains (namesOfItems items) (varsOfItems items) (constantsOfItems items) call
  | [], h => by simp [callsOfItems] at h
  | item :: rest, h => by
    simp only [namesOfItems, varsOfItems, constantsOfItems]
    obtain h | h := List.mem_append.1 h
    · exact (contains_of_mem_calls h).left
    · exact (contains_of_mem_callsOfItems h).right

theorem contains_of_mem_callsOfEntries : ∀ {entries : List (String × Expr)},
    call ∈ callsOfEntries entries →
      Contains (namesOfEntries entries) (varsOfEntries entries) (constantsOfEntries entries) call
  | [], h => by simp [callsOfEntries] at h
  | (_, item) :: rest, h => by
    simp only [namesOfEntries, varsOfEntries, constantsOfEntries]
    obtain h | h := List.mem_append.1 h
    · exact (contains_of_mem_calls h).left
    · exact (contains_of_mem_callsOfEntries h).right

end

end Expr

/-! ### Errors -/

theorem Number.not_isNaN_of_isFinite {x : Float} (h : x.isFinite) : ¬ x.isNaN := by
  have hfinite : x.isFinite = x.toModel.unpack.isFinite := rfl
  have hnan : x.isNaN = x.toModel.unpack.isNaN := rfl
  rw [hfinite] at h
  rw [hnan]
  cases hx : x.toModel.unpack with
  | notANumber =>
    rw [hx] at h
    cases h
  | zero | finite | infinity => nofun

/-- Whether an error is one that evaluations report. -/
def FormulaError.isOfEvaluation : FormulaError → Bool
  | .undefinedVariable _ | .arity .. | .type _ | .nonFinite _ => true
  | .malformed .. | .tooLong _ | .tooDeep _ | .unknownFunction _ | .unorderedBounds => false

namespace Expr

/-- In a scope, some call has arguments that are bounds without an order. -/
def ComparesUnordered (s : Scope) (e : Expr) : Prop :=
  ∃ call ∈ e.calls, ∃ values, evalItems s call.2 = .ok values ∧ call.1.Unordered values

/-- Bounds without an order come from a variable: no operation computes what is not a number, and
none is a constant. -/
theorem exists_nan_of_comparesUnordered {s : Scope} {e : Expr}
    (hc : ∀ c ∈ e.constants, c.isLiteral) (h : e.ComparesUnordered s) :
    ∃ name ∈ e.vars, ∃ v, s.lookup name = some v ∧ ∃ x ∈ v.numbers, x.isNaN := by
  obtain ⟨call, hcall, values, hvalues, -, x, low, high, rfl, hnan⟩ := h
  have hcontains := contains_of_mem_calls hcall
  by_contra hno
  have hbinds : BindsAll (fun x => ¬ x.isNaN) s (varsOfItems call.2) := by
    intro name hname v hv x hx hnan
    exact hno ⟨name, hcontains.vars_subset hname, v, hv, x, hx, hnan⟩
  have hall := evalItems_all (fun _ => Number.not_isNaN_of_isFinite) hbinds
    (fun c hmem => hc c (hcontains.constants_subset hmem)) |>.of_ok hvalues
  have hlow : ¬ low.isNaN := Value.all_number.1 (hall _ (by simp))
  have hhigh : ¬ high.isNaN := Value.all_number.1 (hall _ (by simp))
  exact hnan.elim hlow hhigh

theorem Explained.isOfEvaluation_or {s : Scope} {e : Expr} {error : FormulaError}
    (h : Explained s e.reads e.calls error) :
    error.isOfEvaluation ∨ error = .unorderedBounds ∧ e.ComparesUnordered s := by
  cases h with
  | reported h => exact .inl (by cases error <;> first | rfl | cases h)
  | unbound => exact .inl rfl
  | unordered hcall hvalues h => exact .inr ⟨rfl, _, hcall, _, hvalues, h⟩

end Expr

/-- What a formula that is accepted can do: it calls functions of the table, by names that stand in
its text; its constants can be written; and every error of an evaluation is one that evaluations
report, unless a variable that is bound to what is not a number becomes a bound of `clamp`. -/
theorem Formula.parse_sandboxed (limits : Limits) (text : String) (e : Expr)
    (h : Formula.parse limits text = .ok e) :
    (∃ words, lex text = .ok words ∧ ∀ call ∈ e.calls,
      call.1.name ∈ Builtin.all.map Builtin.name ∧ .name call.1.name ∈ words.map Lexeme.token) ∧
    (∀ c ∈ e.constants, c.isLiteral) ∧
    ∀ s error, e.eval s = .error error → error.isOfEvaluation ∨
      error = .unorderedBounds ∧ e.ComparesUnordered s ∧
        ∃ name ∈ e.vars, ∃ v, s.lookup name = some v ∧ ∃ x ∈ v.numbers, x.isNaN := by
  have hconstants := Formula.isLiteral_constants h
  refine ⟨?_, hconstants, fun s error herror => ?_⟩
  · obtain ⟨-, words, hwords, d, -⟩ := Formula.parse_eq_ok.1 h
    refine ⟨words, hwords, fun call hcall => ⟨List.mem_map_of_mem call.1.mem_all, ?_⟩⟩
    exact d.spelled _ (Expr.contains_of_mem_calls hcall).name_mem
  · obtain hreported | ⟨rfl, hunordered⟩ := ((e.eval_explained s).of_error herror).isOfEvaluation_or
    · exact .inl hreported
    · exact .inr ⟨rfl, hunordered, Expr.exists_nan_of_comparesUnordered hconstants hunordered⟩

/-- A price between bounds of which one is computed, by a function in parentheses. -/
theorem Formula.parse_sandboxed_price :
    ∃ e, Formula.parse {} "clamp(price, (Math.max)(0, low), 10)" = .ok e ∧
      e.calls.map Prod.fst = [.clamp, .max] ∧ (∀ c ∈ e.constants, c.isLiteral) ∧
      ∀ s error, e.eval s = .error error → error.isOfEvaluation ∨
        error = .unorderedBounds ∧ e.ComparesUnordered s ∧
          ∃ name ∈ ["price", "low"], ∃ v, s.lookup name = some v ∧ ∃ x ∈ v.numbers, x.isNaN := by
  have hparts : (Formula.parse {} "clamp(price, (Math.max)(0, low), 10)").toOption.map (fun e =>
      (e.calls.map Prod.fst, e.vars)) = some ([.clamp, .max], ["price", "low"]) := by
    decide +kernel
  cases hparse : Formula.parse {} "clamp(price, (Math.max)(0, low), 10)" with
  | error e => simp [hparse, Except.toOption] at hparts
  | ok e =>
    simp only [hparse, Except.toOption, Option.map_some, Option.some.injEq, Prod.mk.injEq]
      at hparts
    obtain ⟨-, hconstants, herrors⟩ := Formula.parse_sandboxed {} _ e hparse
    rw [hparts.2] at herrors
    exact ⟨e, rfl, hparts.1, hconstants, herrors⟩

/-- With a limit that is not a number, `clamp(1, 0, limit)` ends with an error that is not one of
evaluations. -/
theorem not_forall_eval_isOfEvaluation :
    ¬ ∀ (limits : Limits) (text : String) (e : Expr) (s : Scope) (error : FormulaError),
      Formula.parse limits text = .ok e → e.eval s = .error error → error.isOfEvaluation := by
  intro h
  let s : Scope := [NameMap.ofEntries [("limit", .number (0.0 / 0.0))]]
  have hreported : (Formula.parse {} "clamp(1, 0, limit)").toOption.map (fun e =>
      match e.eval s with
      | .ok _ => none
      | .error error => some error.isOfEvaluation) = some (some false) := by decide +kernel
  cases hparse : Formula.parse {} "clamp(1, 0, limit)" with
  | error e => simp [hparse, Except.toOption] at hreported
  | ok e =>
    cases heval : e.eval s with
    | ok v => simp [hparse, Except.toOption, heval] at hreported
    | error error =>
      have hfalse : error.isOfEvaluation = false := by
        simpa [hparse, Except.toOption, heval] using hreported
      exact absurd (h {} _ e s error hparse heval) (by simp [hfalse])

end Formulary
