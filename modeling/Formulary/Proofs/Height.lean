import Mathlib.Tactic.Ring
import Formulary.Proofs.Parser.Exactness

/-!
# The depth limit and the height of trees

The limit is on the depth that reading takes, which is not the height of the tree that is read. The
left operand of a chain is read, and its charge released, before the operators of the chain are
charged; so each level of operators adds to the height up to the whole limit once more. What is
accepted under a limit may thus be higher than the limit, but no higher than five times its square.

## Main definitions

* `Expr.height` : the levels of an expression, a leaf being one.

## Main statements

* `Grammar.Expression.height_le` : the height of what is read with some depth;
* `height_le_maxDepth_iff` : when the limit bounds the height.
-/
namespace Formulary

namespace Expr

mutual

/-- The levels of an expression. A leaf is one level. -/
def height : Expr → Nat
  | .const _ | .var _ => 1
  | .member base _ => base.height + 1
  | .index base position => max base.height position.height + 1
  | .unary _ operand => operand.height + 1
  | .binary _ left right => max left.height right.height + 1
  | .conditional condition yes no => max condition.height (max yes.height no.height) + 1
  | .array items => heightOfItems items + 1
  | .object entries => heightOfEntries entries + 1
  | .call _ arguments => heightOfItems arguments + 1

def heightOfItems : List Expr → Nat
  | [] => 0
  | item :: rest => max item.height (heightOfItems rest)

def heightOfEntries : List (String × Expr) → Nat
  | [] => 0
  | (_, item) :: rest => max item.height (heightOfEntries rest)

end

end Expr

/-- No expression that is read with a depth of `n` is higher. -/
def heightBound (n : Nat) : Nat := 5 * n ^ 2

theorem heightBound_succ (n : Nat) : heightBound (n + 1) = heightBound n + 10 * n + 5 := by
  simp only [heightBound]
  ring

theorem heightBound_mono {m n : Nat} (h : m ≤ n) : heightBound m ≤ heightBound n :=
  Nat.mul_le_mul_left 5 (Nat.pow_le_pow_left h 2)

namespace Grammar

theorem Leaf.height_eq {t : Token} {e : Expr} (h : Leaf t e) : e.height = 1 := by
  cases h <;> simp [Expr.height]

mutual

/-- An expression is no higher than the bound. -/
theorem Expression.height_le : ∀ {ts : List Token} {e : Expr} (d : Expression ts e) {n : Nat},
    d.nesting ≤ n → e.height ≤ heightBound n
  | _, _, .operation d, n, h => by
    simp only [Expression.nesting] at h
    obtain ⟨n, rfl⟩ : ∃ k, n = k + 1 := ⟨n - 1, by omega⟩
    have hd := d.height_le (Nat.le_of_succ_le_succ h)
    have hchained := d.chained_le_nesting
    rw [heightBound_succ]
    rw [show precedence.length = 7 from rfl] at hd
    omega
  | _, _, .conditional c y f, n, h => by
    simp only [Expression.nesting] at h
    obtain ⟨n, rfl⟩ : ∃ k, n = k + 1 := ⟨n - 1, by omega⟩
    have hc := c.height_le (show c.nesting ≤ n by omega)
    have hy := y.height_le (show y.nesting ≤ n by omega)
    have hf := f.height_le (show f.nesting ≤ n by omega)
    have hchained := c.chained_le_nesting
    rw [heightBound_succ, Expr.height]
    rw [show precedence.length = 7 from rfl] at hc
    omega

/-- Each level of an operation may add to its height all that the depth allows. -/
theorem Operation.height_le {levels : List (List (Mark × BinaryOp))} :
    ∀ {ts : List Token} {e : Expr} (d : Operation levels ts e) {n : Nat}, d.nesting ≤ n →
      e.height ≤ heightBound n + 2 * n + 2 + levels.length * n + d.chained
  | _, _, .unary d, n, h => by
    have hd := d.height_le h
    simp only [Operation.chained, List.length_nil]
    omega
  | _, _, @Operation.tighter _ levels _ _ d, n, h => by
    have hd := d.height_le h
    have hchained : d.chained ≤ n := Nat.le_trans d.chained_le_nesting h
    rw [Operation.chained, List.length_cons, Nat.add_one_mul levels.length]
    omega
  | _, _, @Operation.binary _ levels _ _ _ _ _ _ l _ r, n, h => by
    simp only [Operation.nesting] at h
    have hl := l.height_le (show l.nesting ≤ n by omega)
    have hr := r.height_le (show r.nesting ≤ n by omega)
    have hchained : r.chained ≤ n := by
      have := r.chained_le_nesting
      omega
    rw [List.length_cons, Nat.add_one_mul levels.length] at hl ⊢
    rw [Operation.chained, Expr.height]
    omega

theorem Unary.height_le : ∀ {ts : List Token} {e : Expr} (d : Unary ts e) {n : Nat},
    d.nesting ≤ n → e.height ≤ heightBound n + 2 * n + 2
  | _, _, .power d, n, h => d.height_le h
  | _, _, .sign _ d, n, h => by
    simp only [Unary.nesting] at h
    have hd := d.height_le (show d.nesting ≤ n - 1 by omega)
    have hbound := heightBound_mono (Nat.sub_le n 1)
    rw [Expr.height]
    omega

theorem Power.height_le : ∀ {ts : List Token} {e : Expr} (d : Power ts e) {n : Nat},
    d.nesting ≤ n → e.height ≤ heightBound n + 2 * n + 2
  | _, _, .operand d, n, h => by
    have hd := d.height_le h
    have hsteps := Nat.le_trans d.steps_le_nesting h
    omega
  | _, _, .power b x, n, h => by
    simp only [Power.nesting] at h
    have hb := b.height_le (show b.nesting ≤ n by omega)
    have hx := x.height_le (show x.nesting ≤ n - 1 by omega)
    have hsteps := b.steps_le_nesting
    have hbound := heightBound_mono (Nat.sub_le n 1)
    rw [Expr.height]
    omega

theorem Postfix.height_le : ∀ {ts : List Token} {e : Expr} (d : Postfix ts e) {n : Nat},
    d.nesting ≤ n → e.height ≤ heightBound n + 1 + d.steps
  | _, _, .atom d, n, h => d.height_le h
  | _, _, .member d, n, h => by
    simp only [Postfix.nesting] at h
    have hd := d.height_le (show d.nesting ≤ n by omega)
    rw [Postfix.steps, Expr.height]
    omega
  | _, _, .index d p, n, h => by
    simp only [Postfix.nesting] at h
    have hd := d.height_le (show d.nesting ≤ n by omega)
    have hp := p.height_le (show p.nesting ≤ n by omega)
    rw [Postfix.steps, Expr.height]
    omega
  | _, _, .call d _ items, n, h => by
    simp only [Postfix.nesting] at h
    have hitems := items.height_le (show items.nesting ≤ n by omega)
    rw [Postfix.steps, Expr.height]
    omega

theorem Atom.height_le : ∀ {ts : List Token} {e : Expr} (d : Atom ts e) {n : Nat},
    d.nesting ≤ n → e.height ≤ heightBound n + 1
  | _, _, .leaf hleaf, n, h => by
    rw [hleaf.height_eq]
    omega
  | _, _, .paren d, n, h => Nat.le_succ_of_le (d.height_le h)
  | _, _, .array d, n, h => by
    simp only [Atom.nesting] at h
    have hd := d.height_le (show d.nesting ≤ n by omega)
    rw [Expr.height]
    omega
  | _, _, .object d, n, h => by
    simp only [Atom.nesting] at h
    obtain ⟨n, rfl⟩ : ∃ k, n = k + 1 := ⟨n - 1, by omega⟩
    have hd := d.height_le (Nat.le_of_succ_le_succ h)
    rw [heightBound_succ, Expr.height]
    omega

theorem Items.height_le : ∀ {ts : List Token} {es : List Expr} (d : Items ts es) {n : Nat},
    d.nesting ≤ n → Expr.heightOfItems es ≤ heightBound n
  | _, _, .nil, n, h => Nat.zero_le _
  | _, _, .last d, n, h => by
    have hd := d.height_le h
    simp only [Expr.heightOfItems]
    omega
  | _, _, .cons d ds, n, h => by
    simp only [Items.nesting] at h
    have hd := d.height_le (show d.nesting ≤ n by omega)
    have hds := ds.height_le (show ds.nesting ≤ n by omega)
    simp only [Expr.heightOfItems]
    omega

theorem Member.height_le : ∀ {ts : List Token} {m : String × Expr} (d : Member ts m) {n : Nat},
    d.nesting ≤ n → m.2.height ≤ heightBound n + 1
  | _, _, .pair _ d, n, h => Nat.le_succ_of_le (d.height_le h)
  | _, _, .short name, n, h => by
    rw [Expr.height]
    omega

theorem Members.height_le : ∀ {ts : List Token} {ms : List (String × Expr)} (d : Members ts ms)
    {n : Nat}, d.nesting ≤ n → Expr.heightOfEntries ms ≤ heightBound n + 1
  | _, _, .nil, n, h => Nat.zero_le _
  | _, _, .last d, n, h => by
    have hd := d.height_le h
    simp only [Expr.heightOfEntries]
    omega
  | _, _, .cons d ds, n, h => by
    simp only [Members.nesting] at h
    have hd := d.height_le (show d.nesting ≤ n by omega)
    have hds := ds.height_le (show ds.nesting ≤ n by omega)
    simp only [Expr.heightOfEntries]
    omega

end

end Grammar

open Grammar

variable {limits : Limits} {text : String} {e : Expr}

/-- The height of what is accepted is bounded by the limit. -/
theorem parse_height_le (h : Formula.parse limits text = .ok e) :
    e.height ≤ heightBound limits.maxDepth := by
  obtain ⟨-, words, -, d, hd⟩ := Formula.parse_eq_ok.1 h
  exact d.height_le hd

/-- A limit is kept by the height of a text exactly when it is kept by the heights of the
derivations whose depth is under it. All limits are kept exactly when no derivation is higher than
deep. In any case the height is no more than five times the square of the limit. -/
theorem height_le_maxDepth_iff (text : String) :
    (∀ limits : Limits,
      (∀ e, Formula.parse limits text = .ok e → e.height ≤ limits.maxDepth) ↔
        (text.utf8ByteSize ≤ limits.maxLength → ∀ words, lex text = .ok words →
          ∀ e (d : Expression (words.map Lexeme.token) e), d.nesting ≤ limits.maxDepth →
            e.height ≤ limits.maxDepth)) ∧
    ((∀ (limits : Limits) (e : Expr), Formula.parse limits text = .ok e →
        e.height ≤ limits.maxDepth) ↔
      ∀ words, lex text = .ok words →
        ∀ e (d : Expression (words.map Lexeme.token) e), e.height ≤ d.nesting) ∧
    ∀ (limits : Limits) (e : Expr), Formula.parse limits text = .ok e →
      e.height ≤ 5 * limits.maxDepth ^ 2 := by
  refine ⟨fun limits => ⟨?_, ?_⟩, ⟨?_, ?_⟩, fun limits e h => parse_height_le h⟩
  · intro h hlength words hlex e d hd
    exact h e (Formula.parse_eq_ok.2 ⟨hlength, words, hlex, d, hd⟩)
  · intro h e hparse
    obtain ⟨hlength, words, hlex, d, hd⟩ := Formula.parse_eq_ok.1 hparse
    exact h hlength words hlex e d hd
  · -- The depth of a derivation is itself a limit under which the text is accepted.
    intro h words hlex e d
    exact h ⟨text.utf8ByteSize, d.nesting⟩ e
      (Formula.parse_eq_ok.2 ⟨Nat.le_refl _, words, hlex, d, Nat.le_refl _⟩)
  · intro h limits e hparse
    obtain ⟨-, words, hlex, d, hd⟩ := Formula.parse_eq_ok.1 hparse
    exact Nat.le_trans (h words hlex e d) hd

/-- The sum `a.b + c` is read with a depth of two, and it has three levels. -/
theorem not_forall_height_le_maxDepth :
    ¬∀ (limits : Limits) (text : String) (e : Expr), Formula.parse limits text = .ok e →
      e.height ≤ limits.maxDepth := by
  intro h
  have hheight : (Formula.parse { maxDepth := 2 } "a.b + c").toOption.map Expr.height = some 3 := by
    decide +kernel
  cases hparse : Formula.parse { maxDepth := 2 } "a.b + c" with
  | error e => simp [hparse, Except.toOption] at hheight
  | ok e =>
    simp only [hparse, Except.toOption, Option.map_some, Option.some.injEq] at hheight
    have hle := h _ _ _ hparse
    rw [hheight] at hle
    exact absurd hle (by decide)

end Formulary
