import Formulary.Proofs.Parser.Exactness

/-!
# The constants of formulas

The constants of a formula are written in it: each is the value of a numeral, of a quoted text or
of a word of the language. What holds of all of these holds of every constant.

## Main definitions

* `Expr.constants` : the constants of an expression;
* `Grammar.HoldsOfLeaves` : a property of the constants of all leaves;
* `Value.isLiteral` : the values that can be written.

## Main statements

* `Grammar.Expression.forall_constants` : a property of all leaves is one of all constants;
* `Formula.forall_constants` : so it is for a formula that is accepted;
* `Formula.isLiteral_constants` : the constants of such a formula can be written.
-/
namespace Formulary

namespace Expr

mutual

def constants : Expr → List Value
  | .const value => [value]
  | .var _ => []
  | .member base _ => base.constants
  | .index base position => base.constants ++ position.constants
  | .unary _ operand => operand.constants
  | .binary _ left right => left.constants ++ right.constants
  | .conditional condition yes no => condition.constants ++ yes.constants ++ no.constants
  | .array items => constantsOfItems items
  | .object entries => constantsOfEntries entries
  | .call _ arguments => constantsOfItems arguments

def constantsOfItems : List Expr → List Value
  | [] => []
  | item :: rest => item.constants ++ constantsOfItems rest

def constantsOfEntries : List (String × Expr) → List Value
  | [] => []
  | (_, item) :: rest => item.constants ++ constantsOfEntries rest

end

end Expr

namespace Grammar

/-- A property of the constants of all leaves. -/
def HoldsOfLeaves (P : Value → Prop) : Prop :=
  ∀ {t : Token} {e : Expr}, Leaf t e → ∀ v ∈ e.constants, P v

variable {P : Value → Prop}

mutual

/-- What holds of the constants of all leaves holds of those of an expression. -/
theorem Expression.forall_constants (hP : HoldsOfLeaves P) :
    ∀ {ts : List Token} {e : Expr}, Expression ts e → ∀ v ∈ e.constants, P v
  | _, _, .operation d => d.forall_constants hP
  | _, _, .conditional c y n => by
    simp only [Expr.constants, List.forall_mem_append]
    exact ⟨⟨c.forall_constants hP, y.forall_constants hP⟩, n.forall_constants hP⟩

theorem Operation.forall_constants (hP : HoldsOfLeaves P) {levels : List (List (Mark × BinaryOp))} :
    ∀ {ts : List Token} {e : Expr}, Operation levels ts e → ∀ v ∈ e.constants, P v
  | _, _, .unary d => d.forall_constants hP
  | _, _, .tighter d => d.forall_constants hP
  | _, _, .binary l _ r => by
    simp only [Expr.constants, List.forall_mem_append]
    exact ⟨l.forall_constants hP, r.forall_constants hP⟩

theorem Unary.forall_constants (hP : HoldsOfLeaves P) :
    ∀ {ts : List Token} {e : Expr}, Unary ts e → ∀ v ∈ e.constants, P v
  | _, _, .power d => d.forall_constants hP
  | _, _, .sign _ d => by
    simp only [Expr.constants]
    exact d.forall_constants hP

theorem Power.forall_constants (hP : HoldsOfLeaves P) :
    ∀ {ts : List Token} {e : Expr}, Power ts e → ∀ v ∈ e.constants, P v
  | _, _, .operand d => d.forall_constants hP
  | _, _, .power b e => by
    simp only [Expr.constants, List.forall_mem_append]
    exact ⟨b.forall_constants hP, e.forall_constants hP⟩

theorem Postfix.forall_constants (hP : HoldsOfLeaves P) :
    ∀ {ts : List Token} {e : Expr}, Postfix ts e → ∀ v ∈ e.constants, P v
  | _, _, .atom d => d.forall_constants hP
  | _, _, .member d => by
    simp only [Expr.constants]
    exact d.forall_constants hP
  | _, _, .index d p => by
    simp only [Expr.constants, List.forall_mem_append]
    exact ⟨d.forall_constants hP, p.forall_constants hP⟩
  | _, _, .call _ _ as => by
    simp only [Expr.constants]
    exact as.forall_constants hP

theorem Atom.forall_constants (hP : HoldsOfLeaves P) :
    ∀ {ts : List Token} {e : Expr}, Atom ts e → ∀ v ∈ e.constants, P v
  | _, _, .leaf h => hP h
  | _, _, .paren d => d.forall_constants hP
  | _, _, .array d => by
    simp only [Expr.constants]
    exact d.forall_constants hP
  | _, _, .object d => by
    simp only [Expr.constants]
    exact d.forall_constants hP

theorem Items.forall_constants (hP : HoldsOfLeaves P) :
    ∀ {ts : List Token} {es : List Expr}, Items ts es → ∀ v ∈ Expr.constantsOfItems es, P v
  | _, _, .nil => by simp [Expr.constantsOfItems]
  | _, _, .last d => by
    simp only [Expr.constantsOfItems, List.append_nil]
    exact d.forall_constants hP
  | _, _, .cons d ds => by
    simp only [Expr.constantsOfItems, List.forall_mem_append]
    exact ⟨d.forall_constants hP, ds.forall_constants hP⟩

theorem Member.forall_constants (hP : HoldsOfLeaves P) :
    ∀ {ts : List Token} {m : String × Expr}, Member ts m → ∀ v ∈ m.2.constants, P v
  | _, _, .pair _ d => d.forall_constants hP
  | _, _, .short _ => by simp [Expr.constants]

theorem Members.forall_constants (hP : HoldsOfLeaves P) :
    ∀ {ts : List Token} {ms : List (String × Expr)}, Members ts ms →
      ∀ v ∈ Expr.constantsOfEntries ms, P v
  | _, _, .nil => by simp [Expr.constantsOfEntries]
  | _, _, .last d => by
    simp only [Expr.constantsOfEntries, List.append_nil]
    exact d.forall_constants hP
  | _, _, .cons d ds => by
    simp only [Expr.constantsOfEntries, List.forall_mem_append]
    exact ⟨d.forall_constants hP, ds.forall_constants hP⟩

end

end Grammar

/-- What holds of the constants of all leaves holds of those of a formula that is accepted. -/
theorem Formula.forall_constants {P : Value → Prop}
    (hP : Grammar.HoldsOfLeaves P) {limits : Limits} {text : String} {e : Expr}
    (h : Formula.parse limits text = .ok e) : ∀ v ∈ e.constants, P v := by
  obtain ⟨-, words, -, d, -⟩ := Formula.parse_eq_ok.1 h
  exact d.forall_constants hP

/-- Whether a value is one that a formula can write. A numeral that is too large for a double is no
formula. -/
def Value.isLiteral : Value → Bool
  | .null | .bool _ | .text _ => true
  | .number x => x.isFinite
  | .date _ | .array _ | .object _ => false

theorem Grammar.holdsOfLeaves_isLiteral : HoldsOfLeaves fun c => c.isLiteral := by
  intro t e h
  cases h with
  | numeral _ hfinite => simpa [Expr.constants, Value.isLiteral] using hfinite
  | _ => simp [Expr.constants, Value.isLiteral]

/-- All constants of a formula that is accepted can be written. -/
theorem Formula.isLiteral_constants {limits : Limits} {text : String} {e : Expr}
    (h : Formula.parse limits text = .ok e) : ∀ c ∈ e.constants, c.isLiteral :=
  Formula.forall_constants Grammar.holdsOfLeaves_isLiteral h

end Formulary
