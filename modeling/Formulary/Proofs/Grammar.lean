import Formulary.Formula.Parser

/-!
# The grammar of formulas

Which tokens are a formula, and of which expression. A derivation is a tree of its own: it has the
parentheses and the commas that the expression has not. The grammar knows nothing of limits; how
deep a formula nests is a function of its derivation.

## Main definitions

* `Grammar.Expression` : the derivations of expressions, with all that stands inside of them;
* `Grammar.Expression.nesting` : the depth that reading takes along a derivation.

## Main statements

* `Grammar.Expression.nesting_le` : no formula nests deeper than it is long;
* `Grammar.Expression.begins` : the tokens that an expression begins with.
-/
namespace Formulary

namespace Grammar

/-- The operators in front of an operand. -/
inductive Sign : Mark → UnaryOp → Prop
  | minus : Sign .minus .negative
  | plus : Sign .plus .positive
  | not : Sign .not .not

/-- The constants and variables that are one token. -/
inductive Leaf : Token → Expr → Prop
  | numeral {text : String} {x : Float} : Number.readNumber? text = some x → x.isFinite →
      Leaf (.numeral text) (.const (.number x))
  | text (contents : String) : Leaf (.text contents) (.const (.text contents))
  | bool (b : Bool) : Leaf (.bool b) (.const (.bool b))
  | null : Leaf .null (.const .null)
  | name (name : String) : Leaf (.name name) (.var name)

/-- The expressions that have calls: a function is called by its name, or as a member of `Math`. -/
inductive Callee : Expr → Builtin → Prop
  | name {name : String} {function : Builtin} : Builtin.ofName? name = some function →
      Callee (.var name) function
  | member {name : String} {function : Builtin} : Builtin.ofName? name = some function →
      Callee (.member (.var mathName) name) function

/-- The binary operators by their precedence, the loosest level first. -/
def precedence : List (List (Mark × BinaryOp)) :=
  [[(.nullish, .nullish)],
   [(.or, .or)],
   [(.and, .and)],
   [(.equal, .equal), (.notEqual, .notEqual)],
   [(.less, .less), (.lessEqual, .lessEqual), (.greater, .greater),
    (.greaterEqual, .greaterEqual)],
   [(.plus, .add), (.minus, .sub)],
   [(.star, .mul), (.slash, .div), (.percent, .mod)]]

inductive Key : Token → String → Prop
  | name (name : String) : Key (.name name) name
  | text (contents : String) : Key (.text contents) contents
  | numeral (text : String) : Key (.numeral text) text

mutual

/-- A conditional, or what its condition may be. -/
inductive Expression : List Token → Expr → Type
  | operation {ts : List Token} {e : Expr} : Operation precedence ts e → Expression ts e
  | conditional {cs ys ns : List Token} {c y n : Expr} :
      Operation precedence cs c → Expression ys y → Expression ns n →
      Expression (cs ++ .mark .question :: (ys ++ .mark .colon :: ns)) (.conditional c y n)

/-- The binary operators of some levels, the loosest first. They group to the left. -/
inductive Operation : List (List (Mark × BinaryOp)) → List Token → Expr → Type
  | unary {ts : List Token} {e : Expr} : Unary ts e → Operation [] ts e
  | tighter {ops : List (Mark × BinaryOp)} {levels : List (List (Mark × BinaryOp))}
      {ts : List Token} {e : Expr} : Operation levels ts e → Operation (ops :: levels) ts e
  | binary {ops : List (Mark × BinaryOp)} {levels : List (List (Mark × BinaryOp))}
      {ls rs : List Token} {l r : Expr} {m : Mark} {op : BinaryOp} :
      Operation (ops :: levels) ls l → (m, op) ∈ ops → Operation levels rs r →
      Operation (ops :: levels) (ls ++ .mark m :: rs) (.binary op l r)

inductive Unary : List Token → Expr → Type
  | power {ts : List Token} {e : Expr} : Power ts e → Unary ts e
  | sign {m : Mark} {op : UnaryOp} {ts : List Token} {e : Expr} :
      Sign m op → Unary ts e → Unary (.mark m :: ts) (.unary op e)

/-- A power, which groups to the right, or what its base may be. -/
inductive Power : List Token → Expr → Type
  | operand {ts : List Token} {e : Expr} : Postfix ts e → Power ts e
  | power {bs es : List Token} {b e : Expr} : Postfix bs b → Unary es e →
      Power (bs ++ .mark .power :: es) (.binary .pow b e)

/-- Members, indices and calls after an operand. Only the functions have calls. -/
inductive Postfix : List Token → Expr → Type
  | atom {ts : List Token} {e : Expr} : Atom ts e → Postfix ts e
  | member {ts : List Token} {e : Expr} {name : String} : Postfix ts e →
      Postfix (ts ++ [.mark .dot, .name name]) (.member e name)
  | index {ts ps : List Token} {e p : Expr} : Postfix ts e → Expression ps p →
      Postfix (ts ++ .mark .openBracket :: (ps ++ [.mark .closeBracket])) (.index e p)
  | call {ts as : List Token} {e : Expr} {arguments : List Expr} {function : Builtin} :
      Postfix ts e → Callee e function → Items as arguments →
      Postfix (ts ++ .mark .openParen :: (as ++ [.mark .closeParen])) (.call function arguments)

inductive Atom : List Token → Expr → Type
  | leaf {t : Token} {e : Expr} : Leaf t e → Atom [t] e
  | paren {ts : List Token} {e : Expr} : Expression ts e →
      Atom (.mark .openParen :: (ts ++ [.mark .closeParen])) e
  | array {ts : List Token} {items : List Expr} : Items ts items →
      Atom (.mark .openBracket :: (ts ++ [.mark .closeBracket])) (.array items)
  | object {ts : List Token} {entries : List (String × Expr)} : Members ts entries →
      Atom (.mark .openBrace :: (ts ++ [.mark .closeBrace])) (.object entries)

/-- Expressions with commas between them, and maybe one after them. -/
inductive Items : List Token → List Expr → Type
  | nil : Items [] []
  | last {ts : List Token} {e : Expr} : Expression ts e → Items ts [e]
  | cons {ts us : List Token} {e : Expr} {es : List Expr} : Expression ts e → Items us es →
      Items (ts ++ .mark .comma :: us) (e :: es)

/-- An entry of an object. A name alone stands for its variable. -/
inductive Member : List Token → String × Expr → Type
  | pair {t : Token} {key : String} {ts : List Token} {e : Expr} : Key t key → Expression ts e →
      Member (t :: .mark .colon :: ts) (key, e)
  | short (name : String) : Member [.name name] (name, .var name)

/-- Entries with commas between them, and maybe one after them. -/
inductive Members : List Token → List (String × Expr) → Type
  | nil : Members [] []
  | last {ts : List Token} {m : String × Expr} : Member ts m → Members ts [m]
  | cons {ts us : List Token} {m : String × Expr} {ms : List (String × Expr)} : Member ts m →
      Members us ms → Members (ts ++ .mark .comma :: us) (m :: ms)

end

variable {ts : List Token} {e : Expr}

/-- The operators of the loosest level that stand after each other. -/
def Operation.chained {levels : List (List (Mark × BinaryOp))} :
    {ts : List Token} → {e : Expr} → Operation levels ts e → Nat
  | _, _, .unary _ => 0
  | _, _, .tighter _ => 0
  | _, _, .binary l _ _ => l.chained + 1

def Postfix.steps : {ts : List Token} → {e : Expr} → Postfix ts e → Nat
  | _, _, .atom _ => 0
  | _, _, .member d => d.steps + 1
  | _, _, .index d _ => d.steps + 1
  | _, _, .call d _ _ => d.steps + 1

mutual

/-- The depth that reading an expression takes. -/
def Expression.nesting {ts : List Token} {e : Expr} : Expression ts e → Nat
  | .operation d => d.nesting + 1
  | .conditional c y n => max c.nesting (max y.nesting n.nesting) + 1

/-- The depth that reading an operation takes. The right operand of an operator is charged with that
operator and with all before it in the chain. -/
def Operation.nesting {levels : List (List (Mark × BinaryOp))} {ts : List Token} {e : Expr} :
    Operation levels ts e → Nat
  | .unary d => d.nesting
  | .tighter d => d.nesting
  | .binary l _ r => max l.nesting (l.chained + 1 + r.nesting)

def Unary.nesting {ts : List Token} {e : Expr} : Unary ts e → Nat
  | .power d => d.nesting
  | .sign _ d => d.nesting + 1

def Power.nesting {ts : List Token} {e : Expr} : Power ts e → Nat
  | .operand d => d.nesting
  | .power b e => max b.nesting (e.nesting + 1)

/-- The depth that reading an operand takes. What stands in a step is charged with that step and
with all before it. -/
def Postfix.nesting {ts : List Token} {e : Expr} : Postfix ts e → Nat
  | .atom d => d.nesting
  | .member d => max d.nesting (d.steps + 1)
  | .index d p => max d.nesting (d.steps + 1 + p.nesting)
  | .call d _ as => max d.nesting (d.steps + 1 + as.nesting)

def Atom.nesting {ts : List Token} {e : Expr} : Atom ts e → Nat
  | .leaf _ => 0
  | .paren d => d.nesting
  | .array d => d.nesting + 1
  | .object d => d.nesting + 1

def Items.nesting {ts : List Token} {es : List Expr} : Items ts es → Nat
  | .nil => 0
  | .last d => d.nesting
  | .cons d ds => max d.nesting ds.nesting

def Member.nesting {ts : List Token} {m : String × Expr} : Member ts m → Nat
  | .pair _ d => d.nesting
  | .short _ => 0

def Members.nesting {ts : List Token} {ms : List (String × Expr)} : Members ts ms → Nat
  | .nil => 0
  | .last d => d.nesting
  | .cons d ds => max d.nesting ds.nesting

end

theorem Operation.chained_le {levels : List (List (Mark × BinaryOp))} :
    ∀ {ts : List Token} {e : Expr} (d : Operation levels ts e), d.chained ≤ ts.length
  | _, _, .unary _ => Nat.zero_le _
  | _, _, .tighter _ => Nat.zero_le _
  | _, _, .binary l _ _ => by
    have := l.chained_le
    simp only [chained, List.length_append, List.length_cons]
    omega

theorem Postfix.steps_le : ∀ {ts : List Token} {e : Expr} (d : Postfix ts e), d.steps ≤ ts.length
  | _, _, .atom _ => Nat.zero_le _
  | _, _, .member d => by
    have := d.steps_le
    simp only [steps, List.length_append, List.length_cons]
    omega
  | _, _, .index d _ => by
    have := d.steps_le
    simp only [steps, List.length_append, List.length_cons]
    omega
  | _, _, .call d _ _ => by
    have := d.steps_le
    simp only [steps, List.length_append, List.length_cons]
    omega

theorem Operation.chained_le_nesting {levels : List (List (Mark × BinaryOp))} :
    ∀ {ts : List Token} {e : Expr} (d : Operation levels ts e), d.chained ≤ d.nesting
  | _, _, .unary _ => Nat.zero_le _
  | _, _, .tighter _ => Nat.zero_le _
  | _, _, .binary l _ r => by
    simp only [chained, nesting]
    omega

theorem Postfix.steps_le_nesting :
    ∀ {ts : List Token} {e : Expr} (d : Postfix ts e), d.steps ≤ d.nesting
  | _, _, .atom _ => Nat.zero_le _
  | _, _, .member _ | _, _, .index _ _ | _, _, .call _ _ _ => by
    simp only [steps, nesting]
    omega

mutual

/-- No expression nests deeper than it is long. -/
theorem Expression.nesting_le : ∀ {ts : List Token} {e : Expr} (d : Expression ts e),
    d.nesting ≤ ts.length
  | _, _, .operation d => d.nesting_lt
  | _, _, .conditional c y n => by
    have := c.nesting_lt
    have := y.nesting_le
    have := n.nesting_le
    simp only [Expression.nesting, List.length_append, List.length_cons]
    omega

theorem Operation.nesting_lt {levels : List (List (Mark × BinaryOp))} :
    ∀ {ts : List Token} {e : Expr} (d : Operation levels ts e), d.nesting < ts.length
  | _, _, .unary d => d.nesting_lt
  | _, _, .tighter d => d.nesting_lt
  | _, _, .binary l _ r => by
    have := l.chained_le
    have := l.nesting_lt
    have := r.nesting_lt
    simp only [Operation.nesting, List.length_append, List.length_cons]
    omega

theorem Unary.nesting_lt : ∀ {ts : List Token} {e : Expr} (d : Unary ts e),
    d.nesting < ts.length
  | _, _, .power d => d.nesting_lt
  | _, _, .sign _ d => Nat.succ_lt_succ d.nesting_lt

theorem Power.nesting_lt : ∀ {ts : List Token} {e : Expr} (d : Power ts e),
    d.nesting < ts.length
  | _, _, .operand d => d.nesting_lt
  | _, _, .power b e => by
    have := b.nesting_lt
    have := e.nesting_lt
    simp only [Power.nesting, List.length_append, List.length_cons]
    omega

theorem Postfix.nesting_lt : ∀ {ts : List Token} {e : Expr} (d : Postfix ts e),
    d.nesting < ts.length
  | _, _, .atom d => d.nesting_lt
  | _, _, .member d => by
    have := d.steps_le
    have := d.nesting_lt
    simp only [Postfix.nesting, List.length_append, List.length_cons]
    omega
  | _, _, .index d p => by
    have := d.steps_le
    have := d.nesting_lt
    have := p.nesting_le
    simp only [Postfix.nesting, List.length_append, List.length_cons]
    omega
  | _, _, .call d _ as => by
    have := d.steps_le
    have := d.nesting_lt
    have := as.nesting_le
    simp only [Postfix.nesting, List.length_append, List.length_cons]
    omega

theorem Atom.nesting_lt : ∀ {ts : List Token} {e : Expr} (d : Atom ts e), d.nesting < ts.length
  | _, _, .leaf _ => Nat.zero_lt_one
  | _, _, .paren d => by
    have := d.nesting_le
    simp only [Atom.nesting, List.length_append, List.length_cons]
    omega
  | _, _, .array d => by
    have := d.nesting_le
    simp only [Atom.nesting, List.length_append, List.length_cons]
    omega
  | _, _, .object d => by
    have := d.nesting_le
    simp only [Atom.nesting, List.length_append, List.length_cons]
    omega

theorem Items.nesting_le : ∀ {ts : List Token} {es : List Expr} (d : Items ts es),
    d.nesting ≤ ts.length
  | _, _, .nil => Nat.zero_le _
  | _, _, .last d => d.nesting_le
  | _, _, .cons d ds => by
    have := d.nesting_le
    have := ds.nesting_le
    simp only [Items.nesting, List.length_append, List.length_cons]
    omega

theorem Member.nesting_le : ∀ {ts : List Token} {m : String × Expr} (d : Member ts m),
    d.nesting ≤ ts.length
  | _, _, .pair _ d => by
    have := d.nesting_le
    simp only [Member.nesting, List.length_cons]
    omega
  | _, _, .short _ => Nat.zero_le _

theorem Members.nesting_le : ∀ {ts : List Token} {ms : List (String × Expr)} (d : Members ts ms),
    d.nesting ≤ ts.length
  | _, _, .nil => Nat.zero_le _
  | _, _, .last d => d.nesting_le
  | _, _, .cons d ds => by
    have := d.nesting_le
    have := ds.nesting_le
    simp only [Members.nesting, List.length_append, List.length_cons]
    omega

end

/-- The tokens that an operand begins with. -/
def beginsOperand : Token → Bool
  | .mark m => m == .openParen || m == .openBracket || m == .openBrace
  | _ => true

def beginsExpression : Token → Bool
  | .mark m => m == .minus || m == .plus || m == .not || beginsOperand (.mark m)
  | _ => true

theorem beginsExpression_of_beginsOperand {t : Token} (h : beginsOperand t) :
    beginsExpression t := by
  cases t <;> simp_all [beginsExpression]

theorem Atom.begins : ∀ {ts : List Token} {e : Expr}, Atom ts e →
    ∃ t us, ts = t :: us ∧ beginsOperand t
  | _, _, .leaf h => ⟨_, _, rfl, by cases h <;> rfl⟩
  | _, _, .paren _ => ⟨_, _, rfl, rfl⟩
  | _, _, .array _ => ⟨_, _, rfl, rfl⟩
  | _, _, .object _ => ⟨_, _, rfl, rfl⟩

theorem Postfix.begins : ∀ {ts : List Token} {e : Expr}, Postfix ts e →
    ∃ t us, ts = t :: us ∧ beginsOperand t
  | _, _, .atom d => d.begins
  | _, _, .member d | _, _, .index d _ | _, _, .call d _ _ =>
    let ⟨_, _, hts, ht⟩ := d.begins
    ⟨_, _, congrArg (· ++ _) hts, ht⟩

theorem Unary.begins : ∀ {ts : List Token} {e : Expr}, Unary ts e →
    ∃ t us, ts = t :: us ∧ beginsExpression t
  | _, _, .power (.operand d) =>
    let ⟨_, _, hts, ht⟩ := d.begins
    ⟨_, _, hts, beginsExpression_of_beginsOperand ht⟩
  | _, _, .power (.power d _) =>
    let ⟨_, _, hts, ht⟩ := d.begins
    ⟨_, _, congrArg (· ++ _) hts, beginsExpression_of_beginsOperand ht⟩
  | _, _, .sign h _ => ⟨_, _, rfl, by cases h <;> rfl⟩

theorem Operation.begins {levels : List (List (Mark × BinaryOp))} :
    ∀ {ts : List Token} {e : Expr}, Operation levels ts e →
      ∃ t us, ts = t :: us ∧ beginsExpression t
  | _, _, .unary d => d.begins
  | _, _, .tighter d => d.begins
  | _, _, .binary d _ _ =>
    let ⟨_, _, hts, ht⟩ := d.begins
    ⟨_, _, congrArg (· ++ _) hts, ht⟩

theorem Expression.begins : Expression ts e → ∃ t us, ts = t :: us ∧ beginsExpression t
  | .operation d => d.begins
  | .conditional d _ _ =>
    let ⟨_, _, hts, ht⟩ := d.begins
    ⟨_, _, congrArg (· ++ _) hts, ht⟩

end Grammar

end Formulary
