import Mathlib.Order.WellFoundedSet
import Formulary.Proofs.Schedule

/-!
# The stable order of references

Ordering a group by what is read succeeds exactly when no member leads back to itself from reference
to reference. Of all orders in which each member comes after those that it references, the sequence
is the one that is closest to the declarations: wherever another order differs from it for the first
time, that order has a member that is declared later.

## Main definitions

* `Placed.positionIn` : where the name of a member stands in an order;
* `IsTopologicalOrder` : the orders in which each member comes after those that it references;
* `Acyclic` : groups in which no member leads back to itself.

## Main statements

* `Schedule.resolve_lex` : the resolved order is the least of those that respect what is read;
* `IsTopologicalOrder.acyclic`, `not_acyclic_of_waiting` : when no order of the group is
  topological;
* `sequence_stable` : when there is a sequence, and which of the topological orders it is.
-/
namespace Formulary

/-! ### The least order -/

namespace Schedule

variable {reads : Placed → List String} {index : Placed → Nat}

/-- Of the orders of the pending members that respect what is read, the resolved one is the least
when indices are compared from the front on: of all that can come next, the first ready member has
the smallest index. -/
theorem resolve_lex {count : Nat} {done : List String} {pending members other : List Placed}
    (h : resolve reads count done pending = .ok members) (hc : pending.length ≤ count)
    (hindex : pending.Pairwise fun m n => index m < index n)
    (hother : other.Perm pending) (hr : Respects reads done other) :
    other = members ∨ List.Lex (· < ·) (members.map index) (other.map index) := by
  induction count generalizing done pending members other with
  | zero =>
    cases h
    obtain rfl := List.eq_nil_of_length_eq_zero (Nat.le_zero.1 hc)
    exact .inl hother.eq_nil
  | succ count ih =>
    obtain ⟨rfl, rfl⟩ | ⟨m, others, rest, htake, hrest, rfl⟩ := resolve_succ_ok h
    · exact .inl hother.eq_nil
    · obtain ⟨-, before, after, rfl, rfl, hbefore⟩ := takeReady?_some htake
      cases other with
      | nil => simp [List.nil_perm] at hother
      | cons first later =>
        -- What comes first in the other order is ready, so it is the chosen member or after it.
        have hready : (reads first).all done.contains = true := by simpa using hr.1
        have hfirst : first ∈ m :: after := by
          refine (List.mem_append.1 (hother.subset List.mem_cons_self)).resolve_left fun hmem => ?_
          exact absurd hready (Bool.eq_false_iff.1 (hbefore first hmem))
        rcases List.mem_cons.1 hfirst with rfl | hafter
        · have hperm : later.Perm (before ++ after) := (hother.trans List.perm_middle).cons_inv
          have hsub : (before ++ after).Sublist (before ++ first :: after) :=
            (List.sublist_cons_self first after).append_left before
          obtain rfl | hlex := ih hrest (by simp at hc ⊢; omega) (hindex.sublist hsub) hperm hr.2
          · exact .inl rfl
          · exact .inr (.cons hlex)
        · obtain ⟨-, hlater, -⟩ := List.pairwise_append.1 hindex
          exact .inr (.rel ((List.pairwise_cons.1 hlater).1 first hafter))

end Schedule

/-! ### Topological orders -/

/-- Where the name of a member stands in an order. -/
def Placed.positionIn (order : List Placed) (m : Placed) : Nat :=
  (order.map Placed.name).idxOf m.name

/-- An order of a group in which each member comes after all members that it references. -/
structure IsTopologicalOrder (limits : Limits) (group order : List Placed) : Prop where
  perm : order.Perm group
  after : ∀ m ∈ group, ∀ n ∈ group, m.parameter.References limits n.name →
    n.positionIn order < m.positionIn order

/-- A member of a group references a member of the group. -/
def Leads (limits : Limits) (group : List Placed) (m n : Placed) : Prop :=
  m ∈ group ∧ n ∈ group ∧ m.parameter.References limits n.name

/-- No member of a group leads back to itself from reference to reference. -/
def Acyclic (limits : Limits) (group : List Placed) : Prop :=
  ∀ m, ¬ Relation.TransGen (Leads limits group) m m

variable {limits : Limits} {group members : List Placed}

namespace Placed

@[simp] theorem positionIn_cons_self (m : Placed) : m.positionIn (m :: members) = 0 := by
  simp [positionIn]

theorem positionIn_cons_of_ne {first m : Placed} (h : first.name ≠ m.name) :
    m.positionIn (first :: members) = m.positionIn members + 1 := by
  simp [positionIn, List.idxOf_cons_ne _ h]

/-- In the order of a group itself, positions ascend. -/
theorem pairwise_positionIn (hn : (group.map name).Nodup) :
    group.Pairwise fun m n => m.positionIn group < n.positionIn group := by
  induction group with
  | nil => exact .nil
  | cons first rest ih =>
    obtain ⟨hfirst, hrest⟩ := List.nodup_cons.1 hn
    have hne : ∀ m ∈ rest, first.name ≠ m.name := fun m hm heq =>
      hfirst (heq ▸ List.mem_map_of_mem hm)
    refine .cons (fun m hm => ?_) ((ih hrest).imp_of_mem fun hm hm' hlt => ?_)
    · rw [positionIn_cons_self, positionIn_cons_of_ne (hne m hm)]
      exact Nat.succ_pos _
    · rw [positionIn_cons_of_ne (hne _ hm), positionIn_cons_of_ne (hne _ hm')]
      exact Nat.succ_lt_succ hlt

end Placed

/-- Without shared names, an order is topological exactly when none reads ahead. -/
theorem IsTopologicalOrder.iff_ordered (hn : (group.map Placed.name).Nodup)
    (hp : members.Perm group) :
    IsTopologicalOrder limits group members ↔ Ordered limits (members.map Placed.parameter) := by
  have hascending := Placed.pairwise_positionIn ((hp.map Placed.name).nodup_iff.2 hn)
  rw [ordered_iff_of_ascending hascending]
  constructor
  · intro h m hm n hn' hle hread
    have hlt := h.after m (hp.subset hm) n (hp.subset hn') (Parameter.mem_reads.1 hread)
    exact Nat.not_le.2 hlt hle
  · refine fun h => ⟨hp, fun m hm n hn' hread => Nat.not_le.1 fun hle => ?_⟩
    exact h m (hp.symm.subset hm) n (hp.symm.subset hn') hle (Parameter.mem_reads.2 hread)

/-! ### Circles -/

/-- In a topological order, every way from reference to reference goes back. -/
theorem IsTopologicalOrder.acyclic (h : IsTopologicalOrder limits group members) :
    Acyclic limits group := by
  have hback {m n : Placed} (hmn : Relation.TransGen (Leads limits group) m n) :
      n.positionIn members < m.positionIn members := by
    induction hmn with
    | single hlead => exact h.after _ hlead.1 _ hlead.2.1 hlead.2.2
    | tail _ hlead ih => exact Nat.lt_trans (h.after _ hlead.1 _ hlead.2.1 hlead.2.2) ih
  exact fun m hm => Nat.lt_irrefl _ (hback hm)

/-- From a member that waits there is always a way on to another one; as there are finitely many,
some way leads back to its start. -/
theorem not_acyclic_of_waiting {reads : Placed → List String} (hw : Schedule.Waiting reads members)
    (hsub : members ⊆ group)
    (hreads : ∀ m ∈ members, ∀ name ∈ reads m, m.parameter.References limits name) :
    ¬ Acyclic limits group := by
  intro hacyclic
  have hstrict : IsStrictOrder Placed (flip (Relation.TransGen (Leads limits group))) :=
    { irrefl := hacyclic, trans := fun _ _ _ h h' => h'.trans h }
  obtain ⟨first, hfirst⟩ := List.exists_mem_of_ne_nil members hw.ne_nil
  have hwell : {m | m ∈ members}.WellFoundedOn (flip (Relation.TransGen (Leads limits group))) :=
    members.finite_toSet.wellFoundedOn
  refine hwell.induction (P := fun _ => False) hfirst fun m hm ih => ?_
  obtain ⟨n, hn, hread⟩ := hw.exists_read m hm
  exact ih n hn (.single ⟨hsub hm, hsub hn, hreads m hm _ hread⟩)

/-- The order of a group by what its members reference. There is one exactly when no member leads
back to itself. In it each member comes after those that it references; and of all such orders it is
the first one when members are compared by where the group has them. -/
theorem sequence_stable (limits : Limits) (group : List Placed)
    (hn : (group.map Placed.name).Nodup) :
    ((∃ members, sequence limits .dependency group = .ok members) ↔ Acyclic limits group) ∧
    ∀ members, sequence limits .dependency group = .ok members →
      IsTopologicalOrder limits group members ∧
      ∀ other, IsTopologicalOrder limits group other → other = members ∨
        List.Lex (· < ·) (members.map fun m => m.positionIn group)
          (other.map fun m => m.positionIn group) := by
  have htopological {members : List Placed}
      (h : sequence limits .dependency group = .ok members) :
      IsTopologicalOrder limits group members := by
    obtain ⟨hperm, hordered⟩ := sequence_ok hn h
    exact (IsTopologicalOrder.iff_ordered hn hperm).2 hordered
  refine ⟨⟨fun ⟨_, h⟩ => (htopological h).acyclic, fun hacyclic => ?_⟩, fun members h =>
    ⟨htopological h, fun other hother => ?_⟩⟩
  · cases h : sequence limits .dependency group with
    | ok members => exact ⟨members, rfl⟩
    | error c =>
      obtain ⟨left, hsub, hwaiting, -⟩ := sequence_error h
      refine absurd hacyclic (not_acyclic_of_waiting hwaiting hsub.subset fun m _ name hname => ?_)
      exact Parameter.mem_reads.1 (List.mem_filter.1 hname).1
  · have hordered := (IsTopologicalOrder.iff_ordered hn hother.perm).1 hother
    refine Schedule.resolve_lex h (Nat.le_refl _) (Placed.pairwise_positionIn hn) hother.perm ?_
    exact hordered.respects fun name hname =>
      .inr ((hother.perm.map Placed.name).symm.subset hname)

def invoiceGroup : List Placed :=
  Placed.ofList [
    .internal "total" .number "area * price",
    .internal "price" .number "10",
    .internal "area" .number "width * height",
    .internal "label" .string "'total: ' + total",
    .internal "note" .string "'net'"]

/-- The note could come before the label, which is declared before it. -/
theorem sequence_stable_invoiceGroup :
    Acyclic {} invoiceGroup ∧ ∃ members, sequence {} .dependency invoiceGroup = .ok members ∧
      members.map Placed.name = ["price", "area", "total", "label", "note"] ∧
      IsTopologicalOrder {} invoiceGroup members ∧
      ∀ other, IsTopologicalOrder {} invoiceGroup other → other = members ∨
        List.Lex (· < ·) [1, 2, 0, 3, 4] (other.map fun m => m.positionIn invoiceGroup) := by
  have hn : (invoiceGroup.map Placed.name).Nodup := by decide
  have hnames : (sequence {} .dependency invoiceGroup).toOption.map
      (List.map fun m => (m.name, m.positionIn invoiceGroup)) =
        some [("price", 1), ("area", 2), ("total", 0), ("label", 3), ("note", 4)] := by
    decide +kernel
  cases h : sequence {} .dependency invoiceGroup with
  | error c => simp [h, Except.toOption] at hnames
  | ok members =>
    simp only [h, Except.toOption, Option.map_some, Option.some.injEq] at hnames
    obtain ⟨hsome, hleast⟩ := sequence_stable {} invoiceGroup hn
    obtain ⟨htopological, hlex⟩ := hleast members h
    have hmembers : members.map Placed.name = ["price", "area", "total", "label", "note"] := by
      simpa [Function.comp_def] using congrArg (List.map Prod.fst) hnames
    have hindices : (members.map fun m => m.positionIn invoiceGroup) = [1, 2, 0, 3, 4] := by
      simpa [Function.comp_def] using congrArg (List.map Prod.snd) hnames
    exact ⟨hsome.1 ⟨members, h⟩, members, rfl, hmembers, htopological, hindices ▸ hlex⟩

end Formulary
