import Mathlib.Data.List.Perm.Basic
import Formulary.Template

/-!
# Orders in which none reads ahead

The greedy choice of the next ready member finds an order in which no parameter reads its own name
or one of a later parameter, whenever the group has such an order at all.

## Main statements

* `Schedule.resolve_ok`, `Schedule.resolve_of_respects` : what is resolved, and when nothing gets
  stuck;
* `Schedule.resolve_error`, `sequence_error` : what is stuck otherwise;
* `sequence_perm`, `sequence_ok` : a sequence is the group in an order in which none reads ahead;
* `exists_sequence` : a group that has such an order has a sequence;
* `ordered_iff_of_ascending` : the order in which none reads ahead, by an index of its members;
* `sequence_eq_self` : a group that is in such an order stays as it is.
-/
namespace Formulary

namespace Schedule

/-- The first member that is ready is taken out of its place, and none before it is ready. -/
theorem takeReady?_some {ready : Placed → Bool} {pending others : List Placed} {m : Placed}
    (h : takeReady? ready pending = some (m, others)) :
    ready m ∧ ∃ before after, pending = before ++ m :: after ∧ others = before ++ after ∧
      ∀ n ∈ before, ready n = false := by
  induction pending generalizing others with
  | nil => simp [takeReady?] at h
  | cons first rest ih =>
    by_cases hfirst : ready first
    · obtain ⟨rfl, rfl⟩ : first = m ∧ rest = others := by simpa [takeReady?, hfirst] using h
      exact ⟨hfirst, [], rest, rfl, rfl, by simp⟩
    · obtain ⟨left, hleft, rfl⟩ :
          ∃ left, takeReady? ready rest = some (m, left) ∧ first :: left = others := by
        simpa [takeReady?, hfirst] using h
      obtain ⟨hm, before, after, rfl, rfl, hbefore⟩ := ih hleft
      exact ⟨hm, first :: before, after, rfl, rfl, by simpa [hfirst] using hbefore⟩

theorem takeReady?_none {ready : Placed → Bool} {pending : List Placed}
    (h : takeReady? ready pending = none) : ∀ m ∈ pending, ready m = false := by
  induction pending with
  | nil => simp
  | cons first rest ih =>
    by_cases hfirst : ready first
    · simp [takeReady?, hfirst] at h
    · have hrest : takeReady? ready rest = none := by simpa [takeReady?, hfirst] using h
      intro m hm
      rcases List.mem_cons.1 hm with rfl | hm
      · simpa using hfirst
      · exact ih hrest m hm

theorem takeReady?_congr {ready ready' : Placed → Bool} {pending : List Placed}
    (h : ∀ m ∈ pending, ready m = ready' m) :
    takeReady? ready pending = takeReady? ready' pending := by
  induction pending with
  | nil => rfl
  | cons first rest ih =>
    have hrest := ih fun m hm => h m (.tail _ hm)
    simp only [takeReady?, h first List.mem_cons_self, hrest]

variable {reads : Placed → List String}

/-- Each member reads names that are done, or that members before it have. -/
def Respects (reads : Placed → List String) : (done : List String) → List Placed → Prop
  | _, [] => True
  | done, m :: rest => (∀ name ∈ reads m, name ∈ done) ∧ Respects reads (m.name :: done) rest

namespace Respects

variable {done more : List String}

theorem mono {members : List Placed} (h : Respects reads done members) (hd : done ⊆ more) :
    Respects reads more members := by
  induction members generalizing done more with
  | nil => trivial
  | cons m rest ih =>
    exact ⟨fun name hname => hd (h.1 name hname), ih h.2 (List.cons_subset_cons _ hd)⟩

/-- A member that is ready can come first. -/
theorem bring_forward {before after : List Placed} {m : Placed}
    (h : Respects reads done (before ++ m :: after)) :
    Respects reads (m.name :: done) (before ++ after) := by
  induction before generalizing done with
  | nil => exact h.2
  | cons first rest ih =>
    refine ⟨fun name hname => List.mem_cons_of_mem _ (h.1 name hname), (ih h.2).mono ?_⟩
    intro name hname
    simp only [List.mem_cons] at hname ⊢
    tauto

end Respects

/-- A round that is not stuck ends with nothing pending, or takes the first ready member out. -/
theorem resolve_succ_ok {count : Nat} {done : List String} {pending members : List Placed}
    (h : resolve reads (count + 1) done pending = .ok members) :
    (pending = [] ∧ members = []) ∨ ∃ m others rest,
      takeReady? (fun m => (reads m).all done.contains) pending = some (m, others) ∧
        resolve reads count (m.name :: done) others = .ok rest ∧ members = m :: rest := by
  unfold resolve at h
  split at h
  · cases h
    exact .inl ⟨List.isEmpty_iff.1 ‹_›, rfl⟩
  · split at h
    · cases h
    · rename_i m others htake
      cases hrest : resolve reads count (m.name :: done) others with
      | error c => simp [hrest, bind, Except.bind] at h
      | ok rest =>
        simp only [hrest, bind, Except.bind] at h
        cases h
        exact .inr ⟨m, others, rest, htake, hrest, rfl⟩

/-- What is resolved is the pending members, each after those that it reads. -/
theorem resolve_ok {count : Nat} {done : List String} {pending members : List Placed}
    (h : resolve reads count done pending = .ok members) (hc : pending.length ≤ count) :
    members.Perm pending ∧ Respects reads done members := by
  induction count generalizing done pending members with
  | zero =>
    cases h
    obtain rfl := List.eq_nil_of_length_eq_zero (Nat.le_zero.1 hc)
    exact ⟨.refl [], trivial⟩
  | succ count ih =>
    obtain ⟨rfl, rfl⟩ | ⟨m, others, rest, htake, hrest, rfl⟩ := resolve_succ_ok h
    · exact ⟨.refl [], trivial⟩
    · obtain ⟨hm, before, after, rfl, rfl, -⟩ := takeReady?_some htake
      obtain ⟨hperm, hrespects⟩ := ih hrest (by simp at hc ⊢; omega)
      refine ⟨(hperm.cons m).trans List.perm_middle.symm, ?_, hrespects⟩
      simpa using hm

/-- Nothing gets stuck when the pending members can be put in order at all. -/
theorem resolve_of_respects {count : Nat} {done : List String} {pending members : List Placed}
    (hp : members.Perm pending) (hr : Respects reads done members)
    (hc : pending.length ≤ count) : ∃ found, resolve reads count done pending = .ok found := by
  induction count generalizing done pending members with
  | zero => exact ⟨[], rfl⟩
  | succ count ih =>
    unfold resolve
    split
    · exact ⟨[], rfl⟩
    · rename_i hne
      cases htake : takeReady? (fun m => (reads m).all done.contains) pending with
      | none =>
        -- The first member of the order that respects what is read would be ready.
        cases members with
        | nil => simp [List.nil_perm.1 hp] at hne
        | cons m rest =>
          have hm := takeReady?_none htake m (hp.subset List.mem_cons_self)
          simp only [List.all_eq_false] at hm
          obtain ⟨name, hname, hnot⟩ := hm
          exact absurd (hr.1 name hname) (by simpa using hnot)
      | some taken =>
        obtain ⟨m, others⟩ := taken
        obtain ⟨-, before, after, rfl, rfl, -⟩ := takeReady?_some htake
        obtain ⟨front, back, rfl⟩ :=
          List.append_of_mem (hp.symm.subset (List.mem_append_right _ List.mem_cons_self))
        have hperm : (front ++ back).Perm (before ++ after) :=
          (List.perm_middle.symm.trans (hp.trans List.perm_middle)).cons_inv
        obtain ⟨found, hfound⟩ := ih hperm hr.bring_forward (by simp at hc ⊢; omega)
        exact ⟨m :: found, by simp [hfound, bind, Except.bind, pure, Except.pure]⟩

/-- The pending members stay as they are exactly when none of them reads ahead. -/
theorem resolve_eq_self_iff {count : Nat} {done : List String} {pending : List Placed}
    (hc : pending.length ≤ count) :
    resolve reads count done pending = .ok pending ↔ Respects reads done pending := by
  constructor
  · intro h
    exact (resolve_ok h hc).2
  · intro h
    induction count generalizing done pending with
    | zero =>
      obtain rfl := List.eq_nil_of_length_eq_zero (Nat.le_zero.1 hc)
      rfl
    | succ count ih =>
      cases pending with
      | nil => rfl
      | cons m rest =>
        -- The first pending member is ready, so it comes next and nothing overtakes it.
        have hready : (reads m).all done.contains = true := by simpa using h.1
        have hrest := ih (Nat.le_of_succ_le_succ hc) h.2
        simp [resolve, takeReady?, hready, hrest, bind, Except.bind, pure, Except.pure]

/-- What is resolved depends on what the pending members read. -/
theorem resolve_congr {reads' : Placed → List String} {count : Nat} {done : List String}
    {pending members : List Placed} (hreads : ∀ m ∈ pending, reads' m = reads m)
    (h : resolve reads count done pending = .ok members) :
    resolve reads' count done pending = .ok members := by
  induction count generalizing done pending members with
  | zero => exact h
  | succ count ih =>
    obtain ⟨rfl, rfl⟩ | ⟨m, others, rest, htake, hrest, rfl⟩ := resolve_succ_ok h
    · rfl
    · obtain ⟨-, before, after, rfl, rfl, -⟩ := takeReady?_some htake
      have hready : ∀ n ∈ before ++ m :: after,
          (reads' n).all done.contains = (reads n).all done.contains := by
        intro n hn
        rw [hreads n hn]
      have htake' := (takeReady?_congr hready).trans htake
      have hrest' := ih (fun n hn => hreads n (by simp at hn ⊢; tauto)) hrest
      simp [resolve, htake', hrest', bind, Except.bind, pure, Except.pure]

/-- A round that ends in a circle is stuck, or takes the first ready member out and a later round is
stuck. -/
theorem resolve_succ_error {count : Nat} {done : List String} {pending : List Placed} {c : Cycle}
    (h : resolve reads (count + 1) done pending = .error c) :
    (pending ≠ [] ∧ takeReady? (fun m => (reads m).all done.contains) pending = none ∧
        c = findCycle reads pending) ∨
      ∃ m others, takeReady? (fun m => (reads m).all done.contains) pending = some (m, others) ∧
        resolve reads count (m.name :: done) others = .error c := by
  unfold resolve at h
  split at h
  · cases h
  · rename_i hne
    split at h
    · cases h
      exact .inl ⟨by simpa using hne, ‹_›, rfl⟩
    · rename_i m others htake
      cases hrest : resolve reads count (m.name :: done) others with
      | error c' =>
        simp only [hrest, bind, Except.bind] at h
        cases h
        exact .inr ⟨m, others, htake, hrest⟩
      | ok rest => simp [hrest, bind, Except.bind, pure, Except.pure] at h

/-- Members that all wait: each reads the name of one of them. -/
structure Waiting (reads : Placed → List String) (members : List Placed) : Prop where
  ne_nil : members ≠ []
  exists_read : ∀ m ∈ members, ∃ n ∈ members, n.name ∈ reads m

/-- A circle is reported for members that all wait. What the pending members read has been done, or
some pending member has its name; so whoever is not ready waits for a pending one. -/
theorem resolve_error {count : Nat} {done : List String} {pending : List Placed} {c : Cycle}
    (h : resolve reads count done pending = .error c)
    (hreads : ∀ m ∈ pending, ∀ name ∈ reads m, name ∈ done ∨ name ∈ pending.map Placed.name) :
    ∃ left, left.Sublist pending ∧ Waiting reads left ∧ c = findCycle reads left := by
  induction count generalizing done pending with
  | zero => cases h
  | succ count ih =>
    obtain ⟨hne, hnone, rfl⟩ | ⟨m, others, htake, hrest⟩ := resolve_succ_error h
    · refine ⟨pending, .refl _, ⟨hne, fun m hm => ?_⟩, rfl⟩
      obtain ⟨name, hname, hnot⟩ := List.all_eq_false.1 (takeReady?_none hnone m hm)
      have hpending := (hreads m hm name hname).resolve_left (by simpa using hnot)
      obtain ⟨n, hn, rfl⟩ := List.mem_map.1 hpending
      exact ⟨n, hn, hname⟩
    · obtain ⟨-, before, after, rfl, rfl, -⟩ := takeReady?_some htake
      have hsub : (before ++ after).Sublist (before ++ m :: after) :=
        (List.sublist_cons_self m after).append_left before
      obtain ⟨left, hleft, hwaiting, rfl⟩ := ih hrest fun n hn name hname => by
        have := hreads n (hsub.subset hn) name hname
        simp only [List.map_append, List.map_cons, List.mem_append, List.mem_cons] at this ⊢
        tauto
      exact ⟨left, hleft.trans hsub, hwaiting, rfl⟩

end Schedule

/-- The formula of a parameter can be parsed, and a name is among its references. -/
def Parameter.References (limits : Limits) (p : Parameter) (name : String) : Prop :=
  ∃ source e, p.formulaSource? = some source ∧ Formula.parse limits source = .ok e ∧
    name ∈ e.references

theorem Parameter.mem_reads {limits : Limits} {p : Parameter} {name : String} :
    name ∈ p.reads limits ↔ p.References limits name := by
  unfold reads References
  cases p.formulaSource? with
  | none => simp
  | some source => cases h : Formula.parse limits source <;> simp [h]

/-- No parameter reads its own name or one of a later parameter. -/
def Ordered (limits : Limits) : List Parameter → Prop
  | [] => True
  | p :: rest =>
    (∀ name ∈ p.reads limits, name ∉ (p :: rest).map Parameter.name) ∧ Ordered limits rest

namespace Ordered

open Schedule

variable {limits : Limits} {names done : List String} {members : List Placed}

theorem of_append {before after : List Parameter} (h : Ordered limits (before ++ after)) :
    Ordered limits after := by
  induction before with
  | nil => exact h
  | cons p rest ih => exact ih h.2

/-- The names of a group that members read are ready before them when no member reads ahead. -/
theorem respects (h : Ordered limits (members.map Placed.parameter))
    (hd : ∀ name ∈ names, name ∈ done ∨ name ∈ members.map Placed.name) :
    Respects (fun m => (m.reads limits).filter names.contains) done members := by
  induction members generalizing done with
  | nil => trivial
  | cons m rest ih =>
    refine ⟨fun name hname => ?_, ih h.2 fun name hname => ?_⟩
    · obtain ⟨hread, hin⟩ := List.mem_filter.1 hname
      refine (hd name (by simpa using hin)).resolve_right fun hlater => h.1 name hread ?_
      simpa [Placed.name] using hlater
    · have := hd name hname
      simp only [List.map_cons, List.mem_cons] at this ⊢
      tauto

/-- No member reads ahead when the names of the group that it reads are ready before it. -/
theorem of_respects
    (h : Respects (fun m => (m.reads limits).filter names.contains) done members)
    (hsub : members.map Placed.name ⊆ names) (hnodup : (members.map Placed.name).Nodup)
    (hd : ∀ name ∈ members.map Placed.name, name ∉ done) :
    Ordered limits (members.map Placed.parameter) := by
  induction members generalizing done with
  | nil => trivial
  | cons m rest ih =>
    obtain ⟨hm, hrest⟩ := List.nodup_cons.1 hnodup
    refine ⟨fun name hname hlater => ?_, ih h.2 (fun name hname => hsub (.tail _ hname)) hrest ?_⟩
    · have hlater : name ∈ (m :: rest).map Placed.name := by simpa [Placed.name] using hlater
      exact hd name hlater (h.1 name (List.mem_filter.2 ⟨hname, by simpa using hsub hlater⟩))
    · intro name hname hdone
      rcases List.mem_cons.1 hdone with rfl | hdone
      · exact hm hname
      · exact hd name (.tail _ hname) hdone

end Ordered

/-- When some index ascends along the members, none reads ahead exactly when none reads the name of
one whose index is the same or greater. -/
theorem ordered_iff_of_ascending {limits : Limits} {members : List Placed} {index : Placed → Nat}
    (hindex : members.Pairwise fun m n => index m < index n) :
    Ordered limits (members.map Placed.parameter) ↔
      ∀ m ∈ members, ∀ n ∈ members, index m ≤ index n → n.name ∉ m.reads limits := by
  induction members with
  | nil => simp [Ordered]
  | cons m rest ih =>
    obtain ⟨hm, hrest⟩ := List.pairwise_cons.1 hindex
    have hfirst : (∀ name ∈ m.reads limits,
        name ∉ (m.parameter :: rest.map Placed.parameter).map Parameter.name) ↔
          ∀ n ∈ m :: rest, n.name ∉ m.reads limits := by
      rw [← List.map_cons, Placed.map_name]
      grind
    simp only [List.map_cons, Ordered, Placed.reads] at hfirst ih ⊢
    rw [hfirst, ih hrest]
    grind

open Schedule in
/-- A group in which none reads ahead is its own sequence, even when names are shared. -/
theorem sequence_eq_self {limits : Limits} {group : List Placed}
    (h : Ordered limits (group.map Placed.parameter)) (order : EvaluationOrder) :
    sequence limits order group = .ok group := by
  cases order with
  | declared => rfl
  | dependency =>
    exact (resolve_eq_self_iff (Nat.le_refl _)).2 (h.respects fun name hname => .inr hname)

/-- A sequence of a group has its members, in either order and even when names are shared. -/
theorem sequence_perm {limits : Limits} {order : EvaluationOrder} {group members : List Placed}
    (h : sequence limits order group = .ok members) : members.Perm group := by
  cases order with
  | declared =>
    cases h
    exact .refl _
  | dependency =>
    obtain ⟨hperm, -⟩ := Schedule.resolve_ok h (Nat.le_refl _)
    exact hperm

open Schedule in
/-- A sequence of a group has its members, and none reads ahead. -/
theorem sequence_ok {limits : Limits} {group members : List Placed}
    (hn : (group.map Placed.name).Nodup)
    (h : sequence limits .dependency group = .ok members) :
    members.Perm group ∧ Ordered limits (members.map Placed.parameter) := by
  obtain ⟨hperm, hrespects⟩ := resolve_ok h (Nat.le_refl _)
  have hnames := hperm.map Placed.name
  exact ⟨hperm, .of_respects hrespects hnames.subset (hnames.nodup_iff.2 hn) nofun⟩

open Schedule in
/-- A circle is reported for some members that all wait: the formula of each references the name of
one of them. -/
theorem sequence_error {limits : Limits} {group : List Placed} {c : Cycle}
    (h : sequence limits .dependency group = .error c) :
    ∃ left, left.Sublist group ∧
      Waiting (fun m => (m.reads limits).filter (group.map Placed.name).contains) left ∧
      c = findCycle (fun m => (m.reads limits).filter (group.map Placed.name).contains) left := by
  refine resolve_error h fun m hm name hname => .inr ?_
  simpa using (List.mem_filter.1 hname).2

open Schedule in
/-- A group has a sequence as soon as its parameters have an order in which none reads ahead. -/
theorem exists_sequence {limits : Limits} {group : List Placed} {parameters : List Parameter}
    (hp : parameters.Perm (group.map Placed.parameter)) (ho : Ordered limits parameters) :
    ∃ members, sequence limits .dependency group = .ok members := by
  obtain ⟨members, rfl, hmembers⟩ :
      ∃ members : List Placed, parameters = members.map Placed.parameter ∧ members.Perm group :=
    (congrFun₂ (List.eq_map_comp_perm Placed.parameter) parameters group).mpr hp
  refine resolve_of_respects hmembers (ho.respects fun name hname => .inr ?_) (Nat.le_refl _)
  exact (hmembers.map Placed.name).symm.subset hname

end Formulary
