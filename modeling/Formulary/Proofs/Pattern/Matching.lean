import Formulary.Pattern.Regex

/-!
# Matching from end to end

A regular expression between the conditions that the text begins and that it ends matches some part
of a text when the expression itself matches from the first character of the text to the last one.

## Main definitions

* `Regex.matchesWhole` : matching a text from its beginning to its end;
* `Regex.anchored` : an expression between the two conditions.

## Main statements

* `Regex.le_size_of_mem_ends` : a match ends within the text;
* `Regex.isMatch_anchored` : what the expression between the conditions matches.
-/
namespace Formulary.Pattern

/-! ### Lists of places -/

theorem mem_insertPlace {places : List Nat} {p q : Nat} :
    q ∈ mergePlaces.insertPlace places p ↔ q = p ∨ q ∈ places := by
  induction places with
  | nil => simp [mergePlaces.insertPlace]
  | cons r rest ih =>
    rw [mergePlaces.insertPlace]
    split
    · simp
    · split <;> simp_all [or_left_comm]

@[simp]
theorem mem_mergePlaces {a b : List Nat} {q : Nat} : q ∈ mergePlaces a b ↔ q ∈ a ∨ q ∈ b := by
  induction a generalizing b with
  | nil => simp [mergePlaces]
  | cons p a ih =>
    change q ∈ mergePlaces a (mergePlaces.insertPlace b p) ↔ _
    rw [ih, mem_insertPlace, List.mem_cons, or_left_comm, or_assoc]

@[simp]
theorem mem_stepAll {step : Nat → List Nat} {places : List Nat} {q : Nat} :
    q ∈ stepAll step places ↔ ∃ p ∈ places, q ∈ step p := by
  suffices h : ∀ found, q ∈ places.foldl (fun found p => mergePlaces (step p) found) found ↔
      (∃ p ∈ places, q ∈ step p) ∨ q ∈ found by
    simpa [stepAll] using h []
  induction places with
  | nil => simp
  | cons p places ih =>
    intro found
    rw [List.foldl_cons, ih, mem_mergePlaces]
    simp only [List.mem_cons, exists_eq_or_imp, or_assoc, or_left_comm]

section

variable {P : Nat → Prop} {step : Nat → List Nat}

/-- What steps preserve holds after exactly some of them. -/
theorem stepTimes_forall (hstep : ∀ p, P p → ∀ q ∈ step p, P q) {count : Nat} {places : List Nat}
    (h : ∀ p ∈ places, P p) : ∀ q ∈ stepTimes step count places, P q := by
  induction count generalizing places with
  | zero => exact h
  | succ count ih =>
    rw [stepTimes]
    split
    · exact h
    · refine ih fun q hq => ?_
      obtain ⟨p, hp, hq⟩ := mem_stepAll.1 hq
      exact hstep p (h p hp) q hq

/-- What steps preserve holds after at most some of them. -/
theorem stepUpTo_forall (hstep : ∀ p, P p → ∀ q ∈ step p, P q) {count : Nat}
    {fresh found : List Nat} (hfresh : ∀ p ∈ fresh, P p) (hfound : ∀ p ∈ found, P p) :
    ∀ q ∈ stepUpTo step count fresh found, P q := by
  induction count generalizing fresh found with
  | zero => exact hfound
  | succ count ih =>
    have hnext : ∀ q ∈ (stepAll step fresh).filter fun p => !found.contains p, P q := by
      intro q hq
      obtain ⟨p, hp, hq⟩ := mem_stepAll.1 ((List.mem_filter.1 hq).1)
      exact hstep p (hfresh p hp) q hq
    rw [stepUpTo]
    split
    · exact hfound
    · refine ih hnext fun q hq => ?_
      exact (mem_mergePlaces.1 hq).elim (hnext q) (hfound q)

end

/-! ### Ends of matches -/

namespace Regex

variable {text : Array Char}

theorem le_size_of_mem_step {accepts : Char → Bool} {i p : Nat} (h : p ∈ step text accepts i) :
    p ≤ text.size := by
  unfold step at h
  split at h
  · rename_i c hc
    have := (Array.getElem?_eq_some_iff.1 hc).1
    split at h <;> simp at h
    omega
  · simp at h

/-- A match that starts within a text ends within it. -/
theorem le_size_of_mem_ends {r : Regex} {i : Nat} (hi : i ≤ text.size) :
    ∀ p ∈ r.ends text i, p ≤ text.size := by
  induction r generalizing i with
  | empty =>
    intro p hp
    simp only [ends, List.mem_singleton] at hp
    omega
  | char | set => exact fun p hp => le_size_of_mem_step hp
  | look anchor =>
    intro p hp
    simp only [ends, List.mem_ite_nil_right, List.mem_singleton] at hp
    exact hp.2 ▸ hi
  | seq first second ihfirst ihsecond =>
    intro p hp
    obtain ⟨q, hq, hp⟩ := mem_stepAll.1 hp
    exact ihsecond (ihfirst hi q hq) p hp
  | alt left right ihleft ihright =>
    intro p hp
    exact (mem_mergePlaces.1 hp).elim (ihleft hi p) (ihright hi p)
  | repetition inner least most greedy ih =>
    have hstart : ∀ p ∈ stepTimes (inner.ends text) least [i], p ≤ text.size :=
      stepTimes_forall (fun p hp => ih hp) (by simpa using hi)
    exact stepUpTo_forall (fun p hp => ih hp) hstart hstart
  | group captured inner ih => exact ih hi

/-- Whether a text matches from its first character to its last one. -/
def matchesWhole (r : Regex) (text : String) : Bool :=
  let chars := text.toList.toArray
  (r.ends chars 0).contains chars.size

/-- A regular expression between the conditions that the text begins and that it ends. -/
def anchored (r : Regex) : Regex :=
  .seq (.look .textStart) (.seq (.group none r) (.seq (.look .textEnd) .empty))

theorem mem_ends_textStart {i p : Nat} (hi : i ≤ text.size) :
    p ∈ (look .textStart).ends text i ↔ i = 0 ∧ p = 0 := by
  simp only [ends, Anchor.holds]
  rcases Nat.eq_zero_or_pos i with rfl | hpos
  · simp
  · have hbefore : text[i - 1]? = some text[i - 1] := Array.getElem?_eq_getElem (by omega)
    simp [Nat.pos_iff_ne_zero.1 hpos, hbefore]

theorem mem_ends_textEnd {i p : Nat} (hi : i ≤ text.size) :
    p ∈ (look .textEnd).ends text i ↔ i = text.size ∧ p = i := by
  simp only [ends, Anchor.holds, Option.isNone_iff_eq_none, Array.getElem?_eq_none_iff]
  split <;> simp <;> omega

theorem mem_ends_anchored {r : Regex} {i p : Nat} (hi : i ≤ text.size) :
    p ∈ r.anchored.ends text i ↔ i = 0 ∧ p = text.size ∧ text.size ∈ r.ends text 0 := by
  have hrest : ∀ q ≤ text.size, (p ∈ (Regex.seq (.look .textEnd) .empty).ends text q ↔
      q = text.size ∧ p = q) := by
    intro q hq
    change p ∈ stepAll _ _ ↔ _
    rw [mem_stepAll]
    constructor
    · rintro ⟨q', hq', hp⟩
      obtain ⟨rfl, rfl⟩ := (mem_ends_textEnd hq).1 hq'
      exact ⟨rfl, List.mem_singleton.1 hp⟩
    · rintro ⟨rfl, rfl⟩
      exact ⟨_, (mem_ends_textEnd hq).2 ⟨rfl, rfl⟩, List.mem_singleton.2 rfl⟩
  change p ∈ stepAll _ _ ↔ _
  rw [mem_stepAll]
  constructor
  · rintro ⟨q, hq, hp⟩
    obtain ⟨rfl, rfl⟩ := (mem_ends_textStart hi).1 hq
    obtain ⟨q, hq, hp⟩ := mem_stepAll.1 hp
    obtain ⟨rfl, rfl⟩ := (hrest q (le_size_of_mem_ends (Nat.zero_le _) q hq)).1 hp
    exact ⟨rfl, rfl, hq⟩
  · rintro ⟨rfl, rfl, hr⟩
    refine ⟨0, (mem_ends_textStart hi).2 ⟨rfl, rfl⟩, mem_stepAll.2 ⟨_, hr, ?_⟩⟩
    exact (hrest _ (Nat.le_refl _)).2 ⟨rfl, rfl⟩

/-- Between the conditions an expression matches some part of a text when it matches the whole. -/
theorem isMatch_anchored (r : Regex) (text : String) :
    r.anchored.isMatch text = r.matchesWhole text := by
  rw [Bool.eq_iff_iff]
  simp only [isMatch, matchesWhole, List.any_eq_true, List.mem_range, List.contains_iff_mem,
    Bool.not_eq_true', List.isEmpty_eq_false_iff_exists_mem]
  constructor
  · rintro ⟨i, hi, p, hp⟩
    exact ((mem_ends_anchored (by omega)).1 hp).2.2
  · intro h
    exact ⟨0, by omega, _, (mem_ends_anchored (Nat.zero_le _)).2 ⟨rfl, rfl, h⟩⟩

end Regex

end Formulary.Pattern
