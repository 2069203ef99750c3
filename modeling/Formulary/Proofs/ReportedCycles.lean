import Mathlib.Data.List.Chain
import Mathlib.Data.List.Nodup
import Mathlib.Data.List.TakeWhile
import Formulary.Proofs.Schedule

/-!
# Reported cycles

When members all wait for each other, a walk from the first of them finds the circle that is
reported. From each member it goes on to the first one that has a name the member waits for; so it
never stands still, and never comes to a second member of one name. As there are only so many
members it comes back to one of them, before its steps are counted out.

## Main definitions

* `Schedule.IsFirst` : the first of the members that share its name;
* `Cycle.IsGenuine` : what a reported circle promises.

## Main statements

* `Schedule.walk_closes` : a walk that can always go on comes back to where it has been;
* `Schedule.findCycle_closes` : the circle among members that all wait;
* `sequence_error_isGenuine` : every circle that is reported for a group is one.
-/
namespace Formulary

namespace Schedule

variable {left : List Placed} {m n : Placed}

/-- A walk whose steps all lead to members with some property `P` comes back to a member of its
path. The places on the path differ, so it is never longer than `left`, and the steps are enough. -/
theorem walk_closes {next : Placed → Option Placed} {P : Placed → Prop} (fuel : Nat)
    (path : List Placed) (hplaces : (left.map Placed.place).Nodup) (hP : ∀ m, P m → m ∈ left)
    (hnext : ∀ m, P m → ∃ n, next m = some n ∧ P n)
    (hpath : ∀ seen ∈ path, P seen) (hm : P m) (hnodup : (path.map Placed.place).Nodup)
    (hchain : (path ++ [m]).IsChain fun x y => P x ∧ next x = some y)
    (hfuel : left.length + 1 ≤ fuel + path.length) :
    ∃ first rest, walk next fuel path m = first :: rest ++ [first] ∧
      ((first :: rest).map Placed.place).Nodup ∧ (∀ seen ∈ first :: rest, P seen) ∧
      (first :: rest ++ [first]).IsChain fun x y => P x ∧ next x = some y := by
  induction fuel generalizing path m with
  | zero =>
    -- The places of the path are among those of `left`, and there are more of them.
    have hsub : path.map Placed.place ⊆ left.map Placed.place :=
      List.map_subset _ fun seen hseen => hP seen (hpath seen hseen)
    have hlength := (List.subperm_of_subset hnodup hsub).length_le
    simp only [List.length_map] at hlength
    omega
  | succ fuel ih =>
    unfold walk
    cases hdrop : path.dropWhile fun seen => seen.place != m.place with
    | nil =>
      obtain ⟨n, hn, hPn⟩ := hnext m hm
      have hnew : ∀ seen ∈ path, seen.place ≠ m.place := by
        simpa using List.dropWhile_eq_nil_iff.1 hdrop
      simp only [hn]
      refine ih _ ?_ hPn ?_ ?_ ?_
      · simpa [or_imp, forall_and] using ⟨hpath, hm⟩
      · rw [List.map_append, List.nodup_append]
        simpa [hnodup] using hnew
      · rw [List.isChain_append]
        exact ⟨hchain, .singleton n, by simp [hm, hn]⟩
      · simp only [List.length_append, List.length_singleton]
        omega
    | cons first rest =>
      have hsplit := path.takeWhile_append_dropWhile (p := fun seen => seen.place != m.place)
      rw [hdrop] at hsplit
      have hmem : ∀ seen ∈ first :: rest, P seen := fun seen hseen =>
        hpath seen (hsplit ▸ List.mem_append_right _ hseen)
      have hplace : first.place = m.place := by
        have hne : (path.dropWhile fun seen => seen.place != m.place) ≠ [] := by simp [hdrop]
        simpa [hdrop] using List.head_dropWhile_not _ hne
      obtain rfl : first = m :=
        List.inj_on_of_nodup_map hplaces (hP _ (hmem first List.mem_cons_self)) (hP _ hm) hplace
      refine ⟨first, rest, rfl, ?_, hmem, ?_⟩
      · rw [← hsplit, List.map_append] at hnodup
        exact hnodup.of_append_right
      · rw [← hsplit, List.append_assoc] at hchain
        exact hchain.right_of_append

/-- A member is the first of those that share its name. -/
def IsFirst (left : List Placed) (m : Placed) : Prop :=
  left.find? (fun n => n.name == m.name) = some m

theorem IsFirst.mem (h : IsFirst left m) : m ∈ left := List.mem_of_find?_eq_some h

/-- There is no other first member of a name. -/
theorem IsFirst.eq (hm : IsFirst left m) (hn : IsFirst left n) (h : m.name = n.name) : m = n := by
  unfold IsFirst at hm hn
  rw [h] at hm
  exact Option.some.inj (hm.symm.trans hn)

theorem isFirst_of_find? {name : String}
    (h : left.find? (fun n => n.name == name) = some m) : IsFirst left m ∧ m.name = name := by
  obtain rfl : m.name = name := by simpa using List.find?_some h
  exact ⟨h, rfl⟩

variable {reads : Placed → List String}

/-- The circle that is found among members that all wait comes back to the member where it begins;
its other members have different names, and each reads the name of the next. -/
theorem findCycle_closes (hw : Waiting reads left) (hplaces : (left.map Placed.place).Nodup) :
    ∃ first rest, findCycle reads left = ⟨(first :: rest ++ [first]).map Placed.name⟩ ∧
      ((first :: rest).map Placed.name).Nodup ∧ (∀ seen ∈ first :: rest, seen ∈ left) ∧
      (first :: rest ++ [first]).IsChain fun x y => x ∈ left ∧ y.name ∈ reads x := by
  cases left with
  | nil => exact absurd rfl hw.ne_nil
  | cons start others =>
    have hnext : ∀ m, IsFirst (start :: others) m → ∃ n,
        ((reads m).findSome? fun name => (start :: others).find? fun n => n.name == name) =
          some n ∧ IsFirst (start :: others) n := by
      intro m hm
      obtain ⟨n, hn, hread⟩ := hw.exists_read m hm.mem
      have hsome : ((reads m).findSome? fun name =>
          (start :: others).find? fun n => n.name == name).isSome := by
        rw [List.findSome?_isSome_iff]
        exact ⟨n.name, hread, List.find?_isSome.2 ⟨n, hn, beq_self_eq_true _⟩⟩
      obtain ⟨next, hnext⟩ := Option.isSome_iff_exists.1 hsome
      obtain ⟨name, -, hfind⟩ := List.exists_of_findSome?_eq_some hnext
      exact ⟨next, hnext, (isFirst_of_find? hfind).1⟩
    have hstart : IsFirst (start :: others) start := by simp [IsFirst]
    obtain ⟨first, rest, hwalk, hnodup, hfirst, hchain⟩ :=
      walk_closes ((start :: others).length + 1) [] hplaces (fun m => IsFirst.mem) hnext (by simp)
        hstart (by simp) (.singleton _) (by simp)
    refine ⟨first, rest, congrArg _ (congrArg _ hwalk), ?_, fun seen h => (hfirst seen h).mem, ?_⟩
    · exact hnodup.of_map.map_on fun x hx y hy => (hfirst x hx).eq (hfirst y hy)
    · refine hchain.imp fun x y ⟨hx, hstep⟩ => ⟨hx.mem, ?_⟩
      obtain ⟨name, hname, hfind⟩ := List.exists_of_findSome?_eq_some hstep
      obtain ⟨-, rfl⟩ := isFirst_of_find? hfind
      exact hname

end Schedule

/-- A circle of a group: its names begin and end with the same one, are otherwise different, and are
names of members; and each is followed by one that some member of that name references. -/
structure Cycle.IsGenuine (limits : Limits) (group : List Placed) (c : Cycle) : Prop where
  two_le : 2 ≤ c.path.length
  closed : c.path.head? = c.path.getLast?
  nodup : c.path.dropLast.Nodup
  exists_member : ∀ name ∈ c.path, ∃ m ∈ group, m.name = name
  exists_reference : c.path.IsChain fun name next =>
    ∃ m ∈ group, m.name = name ∧ m.parameter.References limits next
  /-- The names are those of a walk that has come back to its first member. -/
  returns : ∃ first rest, first :: rest ⊆ group ∧
    c.path = (first :: rest ++ [first]).map Placed.name

/-- Every circle that is reported for a group is one, whatever names its members share; members are
told apart by their places. -/
theorem sequence_error_isGenuine (limits : Limits) (group : List Placed) (c : Cycle)
    (hplaces : (group.map Placed.place).Nodup)
    (h : sequence limits .dependency group = .error c) : c.IsGenuine limits group := by
  obtain ⟨left, hsub, hwaiting, rfl⟩ := sequence_error h
  have hleft : (left.map Placed.place).Nodup := (hsub.map Placed.place).nodup hplaces
  obtain ⟨first, rest, hcycle, hnodup, hmem, hchain⟩ :=
    Schedule.findCycle_closes hwaiting hleft
  have hgroup : first :: rest ⊆ group := fun seen hseen => hsub.subset (hmem seen hseen)
  rw [hcycle]
  exact {
    two_le := by simp
    closed := by rw [List.map_append, List.map_singleton, List.getLast?_concat]; rfl
    nodup := by
      rw [List.map_append, List.map_singleton, List.dropLast_concat]
      exact hnodup
    exists_member := by
      intro name hname
      obtain ⟨m, hm, rfl⟩ := List.mem_map.1 hname
      refine ⟨m, hgroup ?_, rfl⟩
      simpa [or_comm] using hm
    exists_reference := by
      rw [List.isChain_map]
      refine hchain.imp fun x y ⟨hx, hread⟩ => ⟨x, hsub.subset hx, rfl, ?_⟩
      exact Parameter.mem_reads.1 (List.mem_filter.1 hread).1
    returns := ⟨first, rest, hgroup, rfl⟩ }

/-- Two rates, of which the first can be derived, and prices that wait for each other. -/
def circularGroup : List Placed :=
  Placed.ofList [
    .internal "rate" .number "1",
    .internal "label" .string "'costs ' + gross",
    .internal "gross" .number "net * rate",
    .internal "net" .number "gross / 2",
    .internal "rate" .number "net"]

/-- The walk starts at the label, which is not on the circle. -/
theorem sequence_error_isGenuine_circularGroup :
    (circularGroup.map Placed.place).Nodup ∧
      ∃ c, sequence {} .dependency circularGroup = .error c ∧ c.path = ["gross", "net", "gross"] ∧
        c.IsGenuine {} circularGroup := by
  have hplaces : (circularGroup.map Placed.place).Nodup := by decide
  have hpath : (match sequence {} .dependency circularGroup with
      | .ok _ => none
      | .error c => some c.path) = some ["gross", "net", "gross"] := by
    decide +kernel
  cases h : sequence {} .dependency circularGroup with
  | ok members => simp [h] at hpath
  | error c =>
    simp only [h, Option.some.injEq] at hpath
    exact ⟨hplaces, c, rfl, hpath, sequence_error_isGenuine {} circularGroup c hplaces h⟩

end Formulary
