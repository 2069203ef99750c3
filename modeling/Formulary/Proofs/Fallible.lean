/-!
# Computations that may fail

A computation yields a value or fails with an error. What is claimed of one is a property of the
value and another of the error. A computation in steps has them when each step does, given what the
steps before it have yielded.

## Main definitions

* `Settles` : a computation yields what has one property, or fails with what has another;
* `Gives`, `Only` : the claims about values alone, and about errors alone.

## Main statements

* `bind_eq_ok` : two steps yield something when both of them do;
* `Settles.bind`, `Settles.mapM` : computations in steps.
-/
namespace Formulary

variable {ε α β : Type}

theorem bind_eq_ok {r : Except ε α} {f : α → Except ε β} {b : β} :
    r >>= f = .ok b ↔ ∃ a, r = .ok a ∧ f a = .ok b := by
  cases r <;> simp [bind, Except.bind]

/-- What a computation fails with has the property `E`, and what it yields has the property `P`. -/
def Settles (E : ε → Prop) (P : α → Prop) : Except ε α → Prop
  | .ok a => P a
  | .error e => E e

/-- What a computation yields, if it yields anything, has a property. -/
abbrev Gives (P : α → Prop) (r : Except ε α) : Prop := Settles (fun _ => True) P r

/-- What a computation fails with, if it fails, has a property. -/
abbrev Only (E : ε → Prop) (r : Except ε α) : Prop := Settles E (fun _ => True) r

namespace Settles

variable {E F : ε → Prop} {P Q : α → Prop} {R : β → Prop} {r : Except ε α}

theorem ok {a : α} (h : P a) : Settles E P (.ok a) := h

theorem pure {a : α} (h : P a) : Settles E P (Pure.pure a) := h

theorem error {e : ε} (h : E e) : Settles E P (.error e) := h

theorem of_ok (h : Settles E P r) {a : α} (ha : r = .ok a) : P a := by
  subst ha
  exact h

theorem of_error (h : Settles E P r) {e : ε} (he : r = .error e) : E e := by
  subst he
  exact h

theorem of_forall (hE : ∀ e, r = .error e → E e) (hP : ∀ a, r = .ok a → P a) : Settles E P r := by
  cases r with
  | error e => exact hE e rfl
  | ok a => exact hP a rfl

theorem mono (h : Settles E P r) (hP : ∀ a, P a → Q a) : Settles E Q r :=
  of_forall (fun _ => h.of_error) fun a ha => hP a (h.of_ok ha)

theorem mono_error (h : Settles E P r) (hE : ∀ e, E e → F e) : Settles F P r :=
  of_forall (fun e he => hE e (h.of_error he)) fun _ => h.of_ok

/-- Only what the first step yields goes on to the next one. -/
theorem bind_of_ok {f : α → Except ε β} (h : Settles E P r)
    (hf : ∀ a, r = .ok a → P a → Settles E R (f a)) : Settles E R (r >>= f) := by
  cases r with
  | error e => exact h
  | ok a => exact hf a rfl h

theorem bind {f : α → Except ε β} (h : Settles E P r) (hf : ∀ a, P a → Settles E R (f a)) :
    Settles E R (r >>= f) :=
  h.bind_of_ok fun a _ => hf a

theorem mapM {f : α → Except ε β} (hf : ∀ a, Settles E R (f a)) (as : List α) :
    Settles E (fun bs => ∀ b ∈ bs, R b) (as.mapM f) := by
  induction as with
  | nil => exact pure (List.forall_mem_nil _)
  | cons a as ih =>
    rw [List.mapM_cons]
    exact (hf a).bind fun b hb => ih.bind fun bs hbs => pure (List.forall_mem_cons.2 ⟨hb, hbs⟩)

end Settles

theorem Gives.of_forall {P : α → Prop} {r : Except ε α} (h : ∀ a, r = .ok a → P a) : Gives P r :=
  Settles.of_forall (fun _ _ => trivial) h

/-- A step of which nothing has to be known. -/
theorem Settles.bind_any {P : β → Prop} {r : Except ε α} {f : α → Except ε β}
    (hf : ∀ a, Gives P (f a)) : Gives P (r >>= f) :=
  (Gives.of_forall fun _ _ => trivial : Gives (fun _ => True) r).bind fun a _ => hf a

end Formulary
