import Formulary.Formula.Eval
import Formulary.Proofs.Fallible

/-!
# Finite values

A value is finite when no number in it, at whatever depth, is infinite or not a number.

## Main definitions

* `Value.isFinite` : the values that are finite;
* `NameMap.IsFinite`, `Scope.IsFinite` : layers and scopes that bind only such values.
-/
namespace Formulary

namespace Value

mutual

def isFinite : Value → Bool
  | .number x => x.isFinite
  | .array items => areFinite items
  | .object fields => fieldsAreFinite fields
  | .null | .bool _ | .text _ | .date _ => true

def areFinite : List Value → Bool
  | [] => true
  | item :: rest => item.isFinite && areFinite rest

def fieldsAreFinite : List (String × Value) → Bool
  | [] => true
  | (_, value) :: rest => value.isFinite && fieldsAreFinite rest

end

@[simp] theorem isFinite_null : isFinite .null := rfl

@[simp] theorem isFinite_bool (b : Bool) : isFinite (.bool b) := rfl

@[simp] theorem isFinite_text (s : String) : isFinite (.text s) := rfl

@[simp] theorem isFinite_date (t : Calendar.Instant) : isFinite (.date t) := rfl

@[simp] theorem isFinite_number (x : Float) : isFinite (.number x) = x.isFinite := rfl

@[simp] theorem isFinite_array {items : List Value} :
    isFinite (.array items) ↔ ∀ v ∈ items, v.isFinite := by
  rw [isFinite]
  induction items with
  | nil => simp [areFinite]
  | cons item rest ih => simp [areFinite, ih]

@[simp] theorem isFinite_object {fields : Entries Value} :
    isFinite (.object fields) ↔ ∀ f ∈ fields, f.2.isFinite := by
  rw [isFinite]
  induction fields with
  | nil => simp [fieldsAreFinite]
  | cons field rest ih => simp [fieldsAreFinite, ih]

theorem isFinite_ofJson_array {items : List Json} :
    (ofJson (.array items)).isFinite ↔ ∀ item ∈ items, (ofJson item).isFinite := by
  rw [ofJson, isFinite_array]
  induction items with
  | nil => simp [ofJsonItems]
  | cons item rest ih => simp [ofJsonItems, ih]

theorem isFinite_ofJson_object {members : Entries Json} :
    (ofJson (.object members)).isFinite ↔ ∀ m ∈ members, (ofJson m.2).isFinite := by
  rw [ofJson, isFinite_object]
  induction members with
  | nil => simp [ofJsonMembers]
  | cons member rest ih => rw [ofJsonMembers, List.forall_mem_cons, List.forall_mem_cons, ih]

end Value

namespace Entries

/-- A field that is there is one of the fields. -/
theorem mem_of_find? {entries : Entries Value} {name : String} {v : Value}
    (h : entries.find? name = some v) : (name, v) ∈ entries := by
  induction entries with
  | nil => cases h
  | cons e rest ih =>
    simp only [find?] at h
    split at h
    · obtain rfl := Option.some.inj h
      subst name
      exact .head _
    · exact .tail _ (ih h)

/-- Sorting brings no entries along. -/
theorem mem_of_mem_sort {α : Type} {entries : Entries α} {e : String × α}
    (h : e ∈ entries.sort) : e ∈ entries := by
  suffices hfold : ∀ sorted : Entries α,
      e ∈ entries.foldl (fun sorted e => sorted.insert e.1 e.2) sorted →
        e ∈ sorted ∨ e ∈ entries from
    (hfold [] h).resolve_left List.not_mem_nil
  clear h
  induction entries with
  | nil => exact fun sorted h => .inl h
  | cons first rest ih =>
    intro sorted h
    obtain h | h := ih _ h
    · obtain rfl | h := mem_insert h
      · exact .inr (.head _)
      · exact .inl h
    · exact .inr (.tail _ h)

end Entries

namespace NameMap

def IsFinite (m : Values) : Prop := ∀ e ∈ m.entries, e.2.isFinite

instance (m : Values) : Decidable m.IsFinite :=
  inferInstanceAs (Decidable (∀ e ∈ m.entries, e.2.isFinite))

end NameMap

def Scope.IsFinite (s : Scope) : Prop := ∀ layer ∈ s, layer.IsFinite

end Formulary
