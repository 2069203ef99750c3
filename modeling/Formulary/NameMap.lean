/-!
# Maps from names

A map from names lists its entries in the code point order of the names, each name once. Two
maps with the same lookups are therefore equal.

## Main definitions

* `Entries.insert`, `Entries.find?` : the operations on plain lists of entries;
* `NameMap` : a list of entries with its order as an invariant.
-/
namespace Formulary

abbrev Entries (α : Type) := List (String × α)

namespace Entries

variable {α β : Type}

/-- Put `value` under `name`: in place of the entry of that name, else before the first entry
with a larger name. -/
def insert (name : String) (value : α) : Entries α → Entries α
  | [] => [(name, value)]
  | (n, v) :: rest =>
    if name < n then (name, value) :: (n, v) :: rest
    else if name = n then (name, value) :: rest
    else (n, v) :: insert name value rest

/-- The value of the first entry called `name`. -/
def find? (name : String) : Entries α → Option α
  | [] => none
  | (n, v) :: rest => if n = name then some v else find? name rest

def Ascending (entries : Entries α) : Prop :=
  entries.Pairwise fun a b => a.1 < b.1

theorem mem_insert {name : String} {value : α} {entries : Entries α} {e : String × α}
    (h : e ∈ entries.insert name value) : e = (name, value) ∨ e ∈ entries := by
  induction entries with
  | nil => simpa [insert] using h
  | cons x rest ih =>
    obtain ⟨n, v⟩ := x
    simp only [insert] at h
    split at h
    · simpa using h
    · split at h
      · rcases List.mem_cons.1 h with h | h
        · exact .inl h
        · exact .inr (List.mem_cons_of_mem _ h)
      · rcases List.mem_cons.1 h with h | h
        · exact .inr (h ▸ List.mem_cons_self)
        · exact (ih h).imp_right (List.mem_cons_of_mem _)

theorem Ascending.insert {entries : Entries α} (h : Ascending entries) (name : String)
    (value : α) : Ascending (entries.insert name value) := by
  induction entries with
  | nil => simp [Entries.insert, Ascending]
  | cons x rest ih =>
    obtain ⟨n, v⟩ := x
    obtain ⟨hx, hrest⟩ := List.pairwise_cons.1 h
    simp only [Entries.insert]
    split
    · rename_i hlt
      refine List.pairwise_cons.2 ⟨fun e he => ?_, h⟩
      rcases List.mem_cons.1 he with rfl | he
      · exact hlt
      · exact String.lt_trans hlt (hx e he)
    · rename_i hnlt
      split
      · rename_i heq
        subst heq
        exact List.pairwise_cons.2 ⟨hx, hrest⟩
      · rename_i hne
        refine List.pairwise_cons.2 ⟨fun e he => ?_, ih hrest⟩
        rcases mem_insert he with rfl | he
        · rcases Decidable.em (n < name) with hlt | hlt
          · exact hlt
          · exact absurd (String.le_antisymm (String.not_lt.1 hlt) (String.not_lt.1 hnlt)) hne
        · exact hx e he

@[simp] theorem find?_insert (entries : Entries α) (name other : String) (value : α) :
    (entries.insert name value).find? other =
      if name = other then some value else entries.find? other := by
  induction entries with
  | nil => simp [insert, find?]
  | cons x rest ih =>
    obtain ⟨n, v⟩ := x
    simp only [insert]
    split
    · simp [find?]
    · split
      · rename_i h
        subst h
        by_cases hn : name = other <;> simp [find?, hn]
      · rename_i hne
        by_cases hn : n = other
        · subst hn
          simp [find?, hne]
        · simp [find?, hn, ih]

theorem isSome_find?_iff {entries : Entries α} {name : String} :
    (entries.find? name).isSome ↔ name ∈ entries.map (·.1) := by
  induction entries with
  | nil => simp [find?]
  | cons e rest ih =>
    by_cases h : e.1 = name
    · simp [find?, h]
    · simp only [find?, h, if_false, ih, List.map_cons, List.mem_cons]
      exact ⟨.inr, fun hm => hm.resolve_left fun he => h he.symm⟩

def sort (entries : Entries α) : Entries α :=
  entries.foldl (fun sorted e => insert e.1 e.2 sorted) []

def mapValues (f : α → β) : Entries α → Entries β :=
  List.map fun e => (e.1, f e.2)

/-- A name below all names of the entries is bound to nothing. -/
theorem find?_eq_none_of_lt {entries : Entries α} {name : String}
    (h : ∀ e ∈ entries, name < e.1) : entries.find? name = none := by
  induction entries with
  | nil => rfl
  | cons e rest ih =>
    have hne : e.1 ≠ name := fun he => String.lt_irrefl _ (he ▸ h e List.mem_cons_self)
    simpa [find?, hne] using ih fun x hx => h x (List.mem_cons_of_mem _ hx)

/-- Of two ascending lists with the same lookups, the first names cannot differ. -/
theorem Ascending.not_head_lt {m n : String} {v w : α} {xs ys : Entries α}
    (hy : Ascending ((n, w) :: ys))
    (h : ∀ name, find? name ((m, v) :: xs) = find? name ((n, w) :: ys)) : ¬m < n := by
  intro hlt
  have hnone : find? m ((n, w) :: ys) = none :=
    find?_eq_none_of_lt fun e he => by
      rcases List.mem_cons.1 he with rfl | he
      · exact hlt
      · exact String.lt_trans hlt ((List.pairwise_cons.1 hy).1 e he)
  simpa [find?] using (h m).trans hnone

/-- Ascending lists with the same lookups are equal. -/
theorem Ascending.eq_of_find? {xs ys : Entries α} (hx : xs.Ascending) (hy : ys.Ascending)
    (h : ∀ name, xs.find? name = ys.find? name) : xs = ys := by
  induction xs generalizing ys with
  | nil =>
    cases ys with
    | nil => rfl
    | cons y ys => simpa [find?] using h y.1
  | cons x xs ih =>
    obtain ⟨m, v⟩ := x
    cases ys with
    | nil => simpa [find?] using h m
    | cons y ys =>
      obtain ⟨n, w⟩ := y
      obtain rfl : m = n :=
        String.le_antisymm (String.not_lt.1 (hx.not_head_lt fun name => (h name).symm))
          (String.not_lt.1 (hy.not_head_lt h))
      obtain rfl : v = w := by simpa [find?] using h m
      obtain ⟨hmx, hxs⟩ := List.pairwise_cons.1 hx
      obtain ⟨hmy, hys⟩ := List.pairwise_cons.1 hy
      refine congrArg _ (ih hxs hys fun name => ?_)
      by_cases hm : m = name
      · subst hm
        rw [find?_eq_none_of_lt hmx, find?_eq_none_of_lt hmy]
      · simpa [find?, hm] using h name

end Entries

/-- A finite map from names. -/
structure NameMap (α : Type) where
  /-- The entries, in the order of their names. -/
  entries : Entries α
  ascending : entries.Ascending

namespace NameMap

variable {α β : Type}

def empty : NameMap α := ⟨[], List.Pairwise.nil⟩

instance : EmptyCollection (NameMap α) := ⟨empty⟩
instance : Inhabited (NameMap α) := ⟨empty⟩

def get? (m : NameMap α) (name : String) : Option α := m.entries.find? name

/-- Bind `name` to `value`, in place of what it was bound to. -/
def insert (m : NameMap α) (name : String) (value : α) : NameMap α :=
  ⟨m.entries.insert name value, m.ascending.insert name value⟩

/-- Bind each entry in turn; the last of a name stays. -/
def insertAll (m : NameMap α) (entries : Entries α) : NameMap α :=
  entries.foldl (fun m e => m.insert e.1 e.2) m

/-- The map of some entries; the last of a name stays. -/
def ofEntries (entries : Entries α) : NameMap α := empty.insertAll entries

def names (m : NameMap α) : List String := m.entries.map (·.1)

def map (f : α → β) (m : NameMap α) : NameMap β where
  entries := m.entries.mapValues f
  ascending := by
    rw [Entries.Ascending, Entries.mapValues, List.pairwise_map]
    exact m.ascending

@[simp] theorem get?_empty (name : String) : (empty : NameMap α).get? name = none := rfl

@[simp] theorem get?_insert (m : NameMap α) (name other : String) (value : α) :
    (m.insert name value).get? other = if name = other then some value else m.get? other :=
  m.entries.find?_insert name other value

theorem mem_names {m : NameMap α} {name : String} : name ∈ m.names ↔ (m.get? name).isSome :=
  Entries.isSome_find?_iff.symm

theorem isSome_get?_insertAll {m : NameMap α} {entries : Entries α} {name : String} :
    ((m.insertAll entries).get? name).isSome ↔
      name ∈ entries.map (·.1) ∨ (m.get? name).isSome := by
  induction entries generalizing m with
  | nil => simp [insertAll]
  | cons e rest ih =>
    have h := ih (m := m.insert e.1 e.2)
    rw [get?_insert] at h
    by_cases he : e.1 = name
    · simpa [insertAll, he] using h
    · simpa [insertAll, he, Ne.symm he] using h

theorem mem_names_ofEntries {entries : Entries α} {name : String} :
    name ∈ (ofEntries entries).names ↔ name ∈ entries.map (·.1) := by
  simp [ofEntries, mem_names, isSome_get?_insertAll]

theorem get?_insertAll_of_notMem {m : NameMap α} {entries : Entries α} {name : String}
    (h : name ∉ entries.map (·.1)) : (m.insertAll entries).get? name = m.get? name := by
  induction entries generalizing m with
  | nil => rfl
  | cons e rest ih =>
    obtain ⟨hne, hrest⟩ : name ≠ e.1 ∧ name ∉ rest.map (·.1) := by simpa using h
    have hinsert : (m.insert e.1 e.2).get? name = m.get? name := by simp [Ne.symm hne]
    exact (ih hrest).trans hinsert

/-- Entries of different names are all kept. -/
theorem get?_ofEntries_of_mem {entries : Entries α} {e : String × α}
    (hn : (entries.map (·.1)).Nodup) (he : e ∈ entries) :
    (ofEntries entries).get? e.1 = some e.2 := by
  suffices h : ∀ m : NameMap α, (m.insertAll entries).get? e.1 = some e.2 from h empty
  induction entries with
  | nil => cases he
  | cons x rest ih =>
    intro m
    obtain ⟨hx, hrest⟩ := List.nodup_cons.1 hn
    rcases List.mem_cons.1 he with rfl | he
    · have hkept : ((m.insert e.1 e.2).insertAll rest).get? e.1 = (m.insert e.1 e.2).get? e.1 :=
        get?_insertAll_of_notMem hx
      exact hkept.trans (by simp)
    · exact ih hrest he (m.insert x.1 x.2)

/-- Maps with the same lookups are equal. -/
theorem eq_of_get? {m n : NameMap α} (h : ∀ name, m.get? name = n.get? name) : m = n := by
  obtain ⟨xs, hx⟩ := m
  obtain ⟨ys, hy⟩ := n
  obtain rfl := hx.eq_of_find? hy h
  rfl

end NameMap

end Formulary
