import Formulary.Calculation

/-!
# Stores

A store keeps the current snapshot of every template and a log of results. A snapshot never
changes: counting a use puts a new snapshot in its place. The identifiers and dates with which results
are kept are not modelled.

## Main definitions

* `ResultRecord` : a result and what it was computed from;
* `Store` : the templates and the log;
* `Store.insert`, `Store.template?`, `Store.countUse?`, `Store.append` : its operations.
-/
namespace Formulary

/-- A result and what it was computed from. -/
structure ResultRecord where
  templateId : Uuid
  templateVersion : Nat
  inputs : Values
  outcome : Outcome
deriving Inhabited

/-- The current templates, and the results in the order in which they were kept. -/
structure Store where
  templates : List Template := []
  results : List ResultRecord := []
deriving Inhabited

namespace Store

def replace (t : Template) : List Template → List Template
  | [] => [t]
  | u :: rest => if u.id = t.id then t :: rest else u :: replace t rest

def find? (id : Uuid) : List Template → Option Template
  | [] => none
  | u :: rest => if u.id = id then some u else find? id rest

/-- The current snapshot of a template. -/
def template? (s : Store) (id : Uuid) : Option Template := find? id s.templates

/-- Make a snapshot the current one. -/
def insert (s : Store) (t : Template) : Store := { s with templates := replace t s.templates }

/-- Count a use of a template, if there is one of the identifier. -/
def countUse? (s : Store) (id : Uuid) : Option Store :=
  (s.template? id).map fun t => s.insert { t with usageCount := t.usageCount + 1 }

def append (s : Store) (r : ResultRecord) : Store := { s with results := s.results ++ [r] }

def resultsOf (s : Store) (id : Uuid) : List ResultRecord :=
  s.results.filter fun r => r.templateId = id

theorem find?_replace (t : Template) (id : Uuid) (templates : List Template) :
    find? id (replace t templates) = if t.id = id then some t else find? id templates := by
  induction templates with
  | nil => simp [replace, find?]
  | cons u rest ih =>
    simp only [replace]
    split
    · rename_i h
      by_cases hid : t.id = id
      · simp [find?, hid]
      · simp [find?, hid, h]
    · rename_i h
      by_cases hu : u.id = id
      · have : t.id ≠ id := fun ht => h (hu.trans ht.symm)
        simp [find?, hu, this]
      · simp [find?, hu, ih]

@[simp] theorem template?_insert (s : Store) (t : Template) (id : Uuid) :
    (s.insert t).template? id = if t.id = id then some t else s.template? id :=
  find?_replace t id s.templates

theorem id_of_find? {id : Uuid} {t : Template} {templates : List Template}
    (h : find? id templates = some t) : t.id = id := by
  induction templates with
  | nil => cases h
  | cons u rest ih =>
    by_cases hu : u.id = id
    · simp only [find?, hu, if_true, Option.some.injEq] at h
      exact h ▸ hu
    · simp only [find?, hu, if_false] at h
      exact ih h

/-- A snapshot is kept under its own identifier. -/
theorem id_of_template? {s : Store} {id : Uuid} {t : Template} (h : s.template? id = some t) :
    t.id = id :=
  id_of_find? h

theorem countUse?_eq_none_iff {s : Store} {id : Uuid} :
    s.countUse? id = none ↔ s.template? id = none := by
  simp [countUse?]

variable {s s' : Store} {id : Uuid}

/-- Counting a use keeps the log. -/
theorem results_of_countUse? (h : s.countUse? id = some s') : s'.results = s.results := by
  obtain ⟨t, -, rfl⟩ := Option.map_eq_some_iff.1 h
  rfl

/-- Counting a use replaces one snapshot by the same with one more use. -/
theorem template?_of_countUse? (h : s.countUse? id = some s') (other : Uuid) :
    s'.template? other =
      if id = other then
        (s.template? other).map fun t => { t with usageCount := t.usageCount + 1 }
      else s.template? other := by
  obtain ⟨t, ht, rfl⟩ := Option.map_eq_some_iff.1 h
  have hid : t.id = id := id_of_template? ht
  rw [template?_insert]
  by_cases hother : id = other
  · rw [if_pos (hid.trans hother), if_pos hother, ← hother, ht, Option.map_some]
  · rw [if_neg (hid ▸ hother), if_neg hother]

theorem length_resultsOf_append (s : Store) (r : ResultRecord) (id : Uuid) :
    ((s.append r).resultsOf id).length =
      (s.resultsOf id).length + if r.templateId = id then 1 else 0 := by
  rw [resultsOf, append, List.filter_append, List.length_append, resultsOf]
  by_cases h : r.templateId = id <;> simp [h]

end Store

end Formulary
