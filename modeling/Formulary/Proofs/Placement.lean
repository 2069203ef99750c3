import Mathlib.Data.List.Nodup
import Formulary.Template

/-!
# The places of parameters

A template lists each of its parameters at its place. The parameters of a role that have formulas
are listed in the same order.

## Main definitions

* `Template.derivedParameters` : the parameters of a role that have formulas, without their places.

## Main statements

* `Template.mem_placed`, `Template.mem_derivedBy` : what the lists hold;
* `Template.pairwise_placed`, `Template.pairwise_derivedBy` : the order of the lists;
* `Template.map_derivedBy`, `Template.names_derivedBy_sublist` : the lists without the places.
-/
namespace Formulary

theorem Parameter.isInput_eq_false {p : Parameter} (h : p.role ≠ .input) : p.isInput = false := by
  simpa [isInput] using h

namespace Template

variable (t : Template) {m : Placed} {p : Parameter} {role : Role}

def derivedParameters (role : Role) : List Parameter :=
  t.parameters.filter fun p => p.role == role && p.formulaSource?.isSome

theorem map_placed : t.placed.map Placed.parameter = t.parameters := by
  simp [placed, Placed.ofList, Function.comp_def]

theorem derivedBy_sublist (role : Role) : (t.derivedBy role).Sublist t.placed :=
  List.filter_sublist.trans List.filter_sublist

theorem map_derivedBy (role : Role) :
    (t.derivedBy role).map Placed.parameter = t.derivedParameters role := by
  rw [derivedParameters, ← t.map_placed, List.filter_map, derivedBy, withRole, List.filter_filter]
  simp [Function.comp_def, Bool.and_comm]

theorem names_derivedBy_sublist (role : Role) :
    ((t.derivedBy role).map Placed.name).Sublist (t.parameters.map Parameter.name) := by
  rw [← Placed.map_name, t.map_derivedBy]
  exact List.filter_sublist.map Parameter.name

/-- Parameters stand at ascending places. -/
theorem pairwise_placed : t.placed.Pairwise fun m n => m.place < n.place := by
  have h : t.placed.map Placed.place = List.range t.parameters.length := by
    simp [placed, Placed.ofList, Function.comp_def, List.zipIdx_map_snd, List.range_eq_range']
  rw [← List.pairwise_map (f := Placed.place) (R := (· < ·)), h]
  exact List.pairwise_lt_range

theorem pairwise_derivedBy (role : Role) :
    (t.derivedBy role).Pairwise fun m n => m.place < n.place :=
  t.pairwise_placed.sublist (t.derivedBy_sublist role)

variable {t}

theorem mem_placed : m ∈ t.placed ↔ t.parameters[m.place]? = some m.parameter := by
  obtain ⟨place, parameter⟩ := m
  simp [placed, Placed.ofList, List.mem_zipIdx_iff_getElem?]

theorem mem_withRole : m ∈ t.withRole role ↔ m ∈ t.placed ∧ m.parameter.role = role := by
  simp [withRole]

theorem mem_derivedBy : m ∈ t.derivedBy role ↔
    m ∈ t.placed ∧ m.parameter.role = role ∧ m.parameter.formulaSource?.isSome := by
  simp [derivedBy, mem_withRole, and_assoc]

theorem mem_parameters_of_mem_placed (h : m ∈ t.placed) : m.parameter ∈ t.parameters :=
  List.mem_of_getElem? (mem_placed.1 h)

theorem exists_placed (h : p ∈ t.parameters) : ∃ m ∈ t.placed, m.parameter = p := by
  rw [← t.map_placed] at h
  exact List.mem_map.1 h

end Template

end Formulary
