import Formulary.Proofs.Computed
import Formulary.Proofs.Constants

/-!
# Where numbers come from

Operators and functions compute finite numbers; whatever other number is in the value of an
expression has been passed on from a constant of the expression or from a variable. A constant that
can be written is finite. So a property of all finite numbers is kept by an evaluation, when the
numbers that its variables are bound to have it.

## Main definitions

* `Value.numbers` : the numbers in a value, at whatever depth;
* `Value.All` : values all of whose numbers have a property.

## Main statements

* `Builtin.apply_all` : a call keeps a property of all finite numbers;
* `Expr.eval_all` : so does an evaluation.
-/
namespace Formulary

namespace Value

mutual

/-- The numbers in a value, from left to right. -/
def numbers : Value → List Float
  | .number x => [x]
  | .array items => numbersOfItems items
  | .object fields => numbersOfFields fields
  | .null | .bool _ | .text _ | .date _ => []

def numbersOfItems : List Value → List Float
  | [] => []
  | item :: rest => item.numbers ++ numbersOfItems rest

def numbersOfFields : List (String × Value) → List Float
  | [] => []
  | (_, value) :: rest => value.numbers ++ numbersOfFields rest

end

def All (P : Float → Prop) (v : Value) : Prop := ∀ x ∈ v.numbers, P x

abbrev HasNoNaN (v : Value) : Prop := v.All fun x => ¬ x.isNaN

variable {P : Float → Prop}

@[simp] theorem all_null : All P .null := by simp [All, numbers]

@[simp] theorem all_bool (b : Bool) : All P (.bool b) := by simp [All, numbers]

@[simp] theorem all_text (s : String) : All P (.text s) := by simp [All, numbers]

@[simp] theorem all_date (t : Calendar.Instant) : All P (.date t) := by simp [All, numbers]

@[simp] theorem all_number {x : Float} : All P (.number x) ↔ P x := by simp [All, numbers]

@[simp] theorem all_array {items : List Value} :
    All P (.array items) ↔ ∀ v ∈ items, v.All P := by
  rw [All, numbers]
  induction items with
  | nil => simp [numbersOfItems]
  | cons item rest ih =>
    rw [numbersOfItems, List.forall_mem_append, ih, List.forall_mem_cons, All]

@[simp] theorem all_object {fields : Entries Value} :
    All P (.object fields) ↔ ∀ f ∈ fields, f.2.All P := by
  rw [All, numbers]
  induction fields with
  | nil => simp [numbersOfFields]
  | cons field rest ih =>
    rw [numbersOfFields, List.forall_mem_append, ih, List.forall_mem_cons, All]

/-- A constant that can be written is a number that is finite, or it has no number in it. -/
theorem all_of_isLiteral (hP : ∀ x : Float, x.isFinite → P x) {c : Value} (h : c.isLiteral) :
    c.All P := by
  cases c with
  | null | bool | text => simp
  | number x => exact all_number.2 (hP x h)
  | date | array | object => cases h

end Value

variable {P : Float → Prop}

theorem Entries.all_find? {entries : Entries Value} {name : String}
    (h : ∀ e ∈ entries, e.2.All P) : ((entries.find? name).getD .null).All P := by
  cases hv : entries.find? name with
  | none => exact Value.all_null
  | some v => exact h _ (mem_of_find? hv)

/-- A computation of a value whose numbers have a property. -/
abbrev GivesAll (P : Float → Prop) (r : Except FormulaError Value) : Prop := Gives (Value.All P) r

theorem Value.Computed.all (hP : ∀ x : Float, x.isFinite → P x) {arguments : List Value}
    {v : Value} (h : Computed arguments v) (ha : ∀ a ∈ arguments, a.All P) : v.All P := by
  cases h with
  | bool | text | date => simp
  | finite hx => exact all_number.2 (hP _ hx)
  | argument hx => exact ha _ hx

theorem GivesComputed.all (hP : ∀ x : Float, x.isFinite → P x) {arguments : List Value}
    {r : Except FormulaError Value} (h : GivesComputed arguments r)
    (ha : ∀ a ∈ arguments, a.All P) : GivesAll P r :=
  h.mono fun _ hv => hv.all hP ha

/-- A call keeps a property of all finite numbers. -/
theorem Builtin.apply_all (hP : ∀ x : Float, x.isFinite → P x) (function : Builtin)
    {arguments : List Value} (h : ∀ v ∈ arguments, v.All P) :
    GivesAll P (function.apply arguments) := by
  by_cases hf : function = .coalesce
  · subst hf
    refine .ok ?_
    cases hfound : arguments.find? fun v => !v.isNull with
    | none => exact Value.all_null
    | some v => exact h v (List.mem_of_find?_eq_some hfound)
  · exact (function.apply_computed arguments hf).all hP h

/-! ### Expressions -/

namespace Expr

theorem mathConstant_all (hP : ∀ x : Float, x.isFinite → P x) (name : String) :
    GivesAll P (mathConstant name) := by
  unfold mathConstant
  split
  · exact .ok (Value.all_number.2 (hP _ (by decide)))
  · split
    · exact .ok (Value.all_number.2 (hP _ (by decide)))
    · exact .error trivial

theorem memberOf_all (hP : ∀ x : Float, x.isFinite → P x) {base : Value} (h : base.All P)
    (name : String) : GivesAll P (memberOf base name) := by
  have hcount (n : Nat) : Value.All P (.number (Number.ofCount n)) :=
    Value.all_number.2 (hP _ (Number.isFinite_ofCount n))
  cases base with
  | object fields => exact .ok (Entries.all_find? (Value.all_object.1 h))
  | array items =>
    simp only [memberOf]
    split
    · exact .ok (hcount _)
    · exact .error trivial
  | text s =>
    simp only [memberOf]
    split
    · exact .ok (hcount _)
    · exact .error trivial
  | _ => exact .error trivial

theorem itemOf_all {base : Value} (h : base.All P) (index : Value) :
    GivesAll P (itemOf base index) := by
  unfold itemOf
  split
  · rename_i items x
    refine .ok ?_
    cases hitem : (position? x).bind fun i => items[i]? with
    | none => exact Value.all_null
    | some v =>
      obtain ⟨i, -, hv⟩ := Option.bind_eq_some_iff.1 hitem
      exact Value.all_array.1 h v (List.mem_of_getElem? hv)
  · rename_i s x
    refine .ok ?_
    cases (position? x).bind fun i => s.toList[i]? <;> simp
  · exact .ok (Entries.all_find? (Value.all_object.1 h))
  · exact .error trivial

theorem applyUnary_all (hP : ∀ x : Float, x.isFinite → P x) (op : UnaryOp) (v : Value) :
    GivesAll P (applyUnary op v) :=
  (applyUnary_computed op v).all hP nofun

theorem applyBinary_all (hP : ∀ x : Float, x.isFinite → P x) (op : BinaryOp) (left : Value)
    {right : Value} (h : right.All P) : GivesAll P (applyBinary op left right) := by
  cases hop : op.isLogical with
  | false => exact (applyBinary_computed hop left right).all hP nofun
  | true =>
    cases op with
    | and | or | nullish => exact .ok h
    | _ => cases hop

/-- All numbers that the variables of `names` are bound to have a property. -/
def BindsAll (P : Float → Prop) (s : Scope) (names : List String) : Prop :=
  ∀ name ∈ names, ∀ v, s.lookup name = some v → v.All P

variable {s : Scope} {names more : List String}

theorem bindsAll_append : BindsAll P s (names ++ more) ↔ BindsAll P s names ∧ BindsAll P s more := by
  simp only [BindsAll, List.mem_append, or_imp, forall_and]

mutual

/-- An evaluation keeps a property of all finite numbers, when the constants of the expression can
be written and its variables have the property. -/
theorem eval_all (hP : ∀ x : Float, x.isFinite → P x) : ∀ {e : Expr}, BindsAll P s e.vars →
    (∀ c ∈ e.constants, c.isLiteral) → GivesAll P (e.eval s)
  | .const value, _, hc => by
    simp only [eval]
    exact .ok (Value.all_of_isLiteral hP (hc value (by simp [constants])))
  | .var name, hs, _ => by
    simp only [eval]
    split
    · exact .ok (hs name (by simp [vars]) _ ‹_›)
    · exact .error trivial
  | .member base name, hs, hc => by
    simp only [eval]
    split
    · exact mathConstant_all hP name
    · simp only [vars, constants] at hs hc
      exact (eval_all hP hs hc).bind fun b hb => memberOf_all hP hb name
  | .index base position, hs, hc => by
    simp only [vars, constants, bindsAll_append, List.forall_mem_append] at hs hc
    simp only [eval]
    exact (eval_all hP hs.1 hc.1).bind fun b hb => .bind_any fun p => itemOf_all hb p
  | .unary op operand, _, _ => by
    simp only [eval]
    exact .bind_any fun v => applyUnary_all hP op v
  | .binary op left right, hs, hc => by
    simp only [vars, constants, bindsAll_append, List.forall_mem_append] at hs hc
    simp only [eval]
    refine (eval_all hP hs.1 hc.1).bind fun l hl => ?_
    split
    · exact .pure hl
    · exact (eval_all hP hs.2 hc.2).bind fun r hr => applyBinary_all hP op l hr
  | .conditional condition yes no, hs, hc => by
    simp only [vars, constants, bindsAll_append, List.forall_mem_append] at hs hc
    simp only [eval]
    refine .bind_any fun c => ?_
    split
    · exact eval_all hP hs.1.2 hc.1.2
    · exact eval_all hP hs.2 hc.2
  | .array items, hs, hc => by
    simp only [vars, constants] at hs hc
    simp only [eval]
    exact (evalItems_all hP hs hc).bind fun vs hvs => .pure (Value.all_array.2 hvs)
  | .object entries, hs, hc => by
    simp only [vars, constants] at hs hc
    simp only [eval]
    exact (evalEntries_all hP hs hc).bind fun vs hvs =>
      .pure (Value.all_object.2 fun f hf => hvs f (Entries.mem_of_mem_sort hf))
  | .call function arguments, hs, hc => by
    simp only [vars, constants] at hs hc
    simp only [eval]
    exact (evalItems_all hP hs hc).bind fun vs hvs => function.apply_all hP hvs

theorem evalItems_all (hP : ∀ x : Float, x.isFinite → P x) :
    ∀ {items : List Expr}, BindsAll P s (varsOfItems items) →
      (∀ c ∈ constantsOfItems items, c.isLiteral) →
        Gives (fun vs => ∀ v ∈ vs, v.All P) (evalItems s items)
  | [], _, _ => by
    simp only [evalItems]
    exact .ok (by simp)
  | item :: rest, hs, hc => by
    simp only [varsOfItems, constantsOfItems, bindsAll_append, List.forall_mem_append] at hs hc
    simp only [evalItems]
    exact (eval_all hP hs.1 hc.1).bind fun v hv => (evalItems_all hP hs.2 hc.2).bind fun vs hvs =>
      .pure (List.forall_mem_cons.2 ⟨hv, hvs⟩)

theorem evalEntries_all (hP : ∀ x : Float, x.isFinite → P x) :
    ∀ {entries : List (String × Expr)}, BindsAll P s (varsOfEntries entries) →
      (∀ c ∈ constantsOfEntries entries, c.isLiteral) →
        Gives (fun vs => ∀ e ∈ vs, e.2.All P) (evalEntries s entries)
  | [], _, _ => by
    simp only [evalEntries]
    exact .ok (by simp)
  | (key, item) :: rest, hs, hc => by
    simp only [varsOfEntries, constantsOfEntries, bindsAll_append, List.forall_mem_append] at hs hc
    simp only [evalEntries]
    exact (eval_all hP hs.1 hc.1).bind fun v hv => (evalEntries_all hP hs.2 hc.2).bind fun vs hvs =>
      .pure (List.forall_mem_cons.2 ⟨hv, hvs⟩)

end

end Expr

end Formulary
