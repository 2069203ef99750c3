import Formulary.Proofs.Course
import Formulary.Proofs.Finite.Document
import Formulary.Proofs.FirstFault
import Formulary.Proofs.Sandbox

/-!
# Runs and their numbers

A run starts from values that the caller supplies and from default values, which are finite. Each of
its steps keeps what it has, or adds the value of a formula. So a property of all finite numbers that
the supplied ones have is one of all numbers of a run, wherever it stops. When the property also
excludes `NaN`, no formula compares bounds without an order, and the run does not crash.

## Main definitions

* `NameMap.All`, `Scope.All` : layers and scopes that bind only numbers with a property;
* `IsNumeric` : the properties of all finite numbers and of no `NaN`;
* `Run.Sound` : runs that have not crashed, and whose numbers have a property.

## Main statements

* `evaluate_settles` : what a formula yields, and how it does not fail;
* `Run.Sound.deriveOne`, `Run.Sound.deriveEach` : deriving parameters keeps a run sound;
* `execute_eq_outcome` : a run that is supplied no `NaN` has an outcome;
* `isFinite_eval_and_execute` : formulas and runs give finite values for finite ones.
-/
namespace Formulary

/-! ### Layers and scopes -/

variable {P : Float → Prop} {name : String} {v : Value} {supplied m : Values}

theorem Entries.all_insert {entries : Entries Value} (h : ∀ e ∈ entries, e.2.All P) (hv : v.All P) :
    ∀ e ∈ entries.insert name v, e.2.All P := by
  intro e he
  obtain rfl | he := mem_insert he
  · exact hv
  · exact h e he

namespace NameMap

/-- All numbers in the values of a layer have a property. -/
def All (P : Float → Prop) (m : Values) : Prop := ∀ e ∈ m.entries, e.2.All P

abbrev HasNoNaN (m : Values) : Prop := m.All fun x => ¬ x.isNaN

instance [DecidablePred P] (m : Values) : Decidable (m.All P) :=
  inferInstanceAs (Decidable (∀ e ∈ m.entries, ∀ x ∈ e.2.numbers, P x))

theorem all_empty : (empty : Values).All P := by simp [All, empty]

theorem All.get? (h : m.All P) (hv : m.get? name = some v) : v.All P :=
  h _ (Entries.mem_of_find? hv)

theorem All.insert (h : m.All P) (hv : v.All P) : (m.insert name v).All P :=
  Entries.all_insert h hv

theorem All.insertAll {entries : Entries Value} (h : m.All P)
    (hentries : ∀ e ∈ entries, e.2.All P) : (m.insertAll entries).All P := by
  induction entries generalizing m with
  | nil => exact h
  | cons e rest ih =>
    obtain ⟨he, hrest⟩ := List.forall_mem_cons.1 hentries
    exact ih (h.insert he) hrest

theorem all_ofEntries {entries : Entries Value} (h : ∀ e ∈ entries, e.2.All P) :
    (ofEntries entries).All P :=
  all_empty.insertAll h

end NameMap

def Scope.All (P : Float → Prop) (s : Scope) : Prop := ∀ layer ∈ s, layer.All P

theorem Scope.All.bindsAll {s : Scope} (h : s.All P) (names : List String) :
    Expr.BindsAll P s names := by
  intro name _ v hv
  obtain ⟨layer, hlayer, hget⟩ := List.exists_of_findSome?_eq_some hv
  exact (h layer hlayer).get? hget

namespace Value

mutual

/-- A value is finite when all numbers in it are. -/
theorem isFinite_iff_all : ∀ {v : Value}, v.isFinite ↔ v.All fun x => x.isFinite
  | .number _ => by simp
  | .array items => by
    simp only [isFinite, all_array]
    exact areFinite_iff_all
  | .object fields => by
    simp only [isFinite, all_object]
    exact fieldsAreFinite_iff_all
  | .null | .bool _ | .text _ | .date _ => by simp

theorem areFinite_iff_all :
    ∀ {items : List Value}, areFinite items ↔ ∀ v ∈ items, v.All fun x => x.isFinite
  | [] => by simp [areFinite]
  | item :: rest => by
    rw [areFinite, Bool.and_eq_true, isFinite_iff_all, areFinite_iff_all, List.forall_mem_cons]

theorem fieldsAreFinite_iff_all :
    ∀ {fields : Entries Value}, fieldsAreFinite fields ↔ ∀ f ∈ fields, f.2.All fun x => x.isFinite
  | [] => by simp [fieldsAreFinite]
  | field :: rest => by
    rw [fieldsAreFinite, Bool.and_eq_true, isFinite_iff_all, fieldsAreFinite_iff_all,
      List.forall_mem_cons]

end

end Value

theorem NameMap.isFinite_iff_all : m.IsFinite ↔ m.All fun x => x.isFinite :=
  forall₂_congr fun _ _ => Value.isFinite_iff_all

theorem Scope.isFinite_iff_all {s : Scope} : s.IsFinite ↔ s.All fun x => x.isFinite :=
  forall₂_congr fun _ _ => NameMap.isFinite_iff_all

/-! ### Formulas -/

/-- Finite numbers have the property, and `NaN` has not. -/
structure IsNumeric (P : Float → Prop) : Prop where
  of_isFinite : ∀ x : Float, x.isFinite → P x
  not_isNaN : ∀ x : Float, P x → ¬ x.isNaN

theorem isNumeric_isFinite : IsNumeric fun x => x.isFinite :=
  ⟨fun _ => id, fun _ => Number.not_isNaN_of_isFinite⟩

theorem isNumeric_not_isNaN : IsNumeric fun x => ¬ x.isNaN :=
  ⟨fun _ => Number.not_isNaN_of_isFinite, fun _ => id⟩

theorem IsNumeric.all_of_isFinite (hP : IsNumeric P) (h : v.isFinite) : v.All P :=
  fun x hx => hP.of_isFinite x (Value.isFinite_iff_all.1 h x hx)

/-- An evaluation compares bounds without an order only for a `NaN` that a variable is bound to. -/
theorem Expr.eval_ne_unorderedBounds {e : Expr} {s : Scope} {error : FormulaError}
    (hP : IsNumeric P) (hc : ∀ c ∈ e.constants, c.isLiteral) (hs : s.All P)
    (h : e.eval s = .error error) : error ≠ .unorderedBounds := by
  rintro rfl
  obtain hreported | ⟨-, hunordered⟩ := ((e.eval_explained s).of_error h).isOfEvaluation_or
  · cases hreported
  · obtain ⟨name, hname, v, hv, x, hx, hnan⟩ := exists_nan_of_comparesUnordered hc hunordered
    exact hP.not_isNaN x (hs.bindsAll e.vars name hname v hv x hx) hnan

/-- The value of a source in a scope, if it has one, has the property of the scope. -/
theorem evaluate_settles (hP : IsNumeric P) (limits : Limits) (source : String) {s : Scope}
    (hs : s.All P) :
    Settles (· ≠ .unorderedBounds) (Value.All P) (evaluate limits source s) := by
  have hparse : Settles (· ≠ .unorderedBounds) (fun e => Formula.parse limits source = .ok e)
      (Formula.parse limits source) := by
    refine .of_forall ?_ fun _ => id
    rintro _ herror rfl
    cases Formula.isOfReading_of_parse_eq_error herror
  refine hparse.bind fun e he => ?_
  have hconstants := Formula.isLiteral_constants he
  exact .of_forall (fun _ => Expr.eval_ne_unorderedBounds hP hconstants hs)
    fun _ => (Expr.eval_all hP.of_isFinite (hs.bindsAll e.vars) hconstants).of_ok

/-! ### Inputs -/

theorem DataType.all_coerce (type : DataType) (h : v.All P) : (type.coerce v).All P := by
  unfold coerce
  split
  · split
    · exact Value.all_date _
    · exact Value.all_text _
  · exact h

theorem Parameter.all_bound (hP : IsNumeric P) (p : Parameter) (h : supplied.All P) :
    (p.bound supplied).All P := by
  unfold bound
  split
  · rename_i v hv
    exact p.dataType.all_coerce (h.get? (Option.filter_eq_some_iff.1 hv).1)
  · cases hdefault : p.defaultValue? with
    | none => exact Value.all_null
    | some v => exact hP.all_of_isFinite (isFinite_defaultValue? hdefault)

theorem all_bindInputs (hP : IsNumeric P) (parameters : List Parameter) (h : supplied.All P) :
    (bindInputs parameters supplied).All P := by
  refine NameMap.all_ofEntries fun e he => ?_
  obtain ⟨p, -, rfl⟩ := List.mem_map.1 he
  exact p.all_bound hP h

/-! ### Steps -/

namespace Run

/-- The numbers of a run have a property, and it has not crashed. -/
structure Sound (P : Float → Prop) (r : Run) : Prop where
  context : r.context.All P
  results : r.results.All P
  stop : ∀ crash, r.stop ≠ some (.crashed crash)

namespace Sound

variable {r : Run}

theorem record (h : r.Sound P) (kind : StageKind) (place : Nat) : (r.record kind place).Sound P :=
  ⟨h.context, h.results, h.stop⟩

theorem close (h : r.Sound P) : r.close.Sound P := ⟨h.context, h.results, h.stop⟩

theorem fail (h : r.Sound P) (stage : Stage) (cause : Cause) : (r.fail stage cause).Sound P :=
  ⟨h.context, h.results, by simp [Run.fail]⟩

theorem halt (h : r.Sound P) (stage : Stage) {e : FormulaError} (he : e ≠ .unorderedBounds) :
    (r.halt stage e).Sound P :=
  ⟨h.context, h.results, fun _ hcrash =>
    he (Stop.ofError_eq_crashed_iff.1 (Option.some.inj hcrash)).1⟩

theorem andThen (h : r.Sound P) {next : Run → Run}
    (hnext : ∀ r : Run, r.Sound P → (next r).Sound P) : (r.andThen next).Sound P := by
  unfold Run.andThen
  split
  · exact h
  · exact hnext r h

theorem scope (h : r.Sound P) (role : DerivedRole) : (role.scope r).All P := by
  cases role with
  | internal => simpa [DerivedRole.scope, Scope.All] using h.context
  | output => simpa [DerivedRole.scope, Scope.All] using ⟨h.results, h.context⟩

theorem keep (h : r.Sound P) (role : DerivedRole) (name : String) (hv : v.All P) :
    (role.keep name v r).Sound P := by
  cases role with
  | internal => exact ⟨h.context.insert hv, h.results, h.stop⟩
  | output => exact ⟨h.context, h.results.insert hv, h.stop⟩

/-- Inputs matter only if they are valid. -/
theorem validateInputs (h : r.Sound P) (t : Template)
    (hinputs : validate t.parameters supplied = [] → (bindInputs t.parameters supplied).All P) :
    (r.validateInputs t supplied).Sound P := by
  simp only [Run.validateInputs]
  split
  · exact ⟨hinputs ‹_›, h.results, h.stop⟩
  · exact (h.record _ _).fail _ _

/-- Deriving a parameter adds the value of its formula. -/
theorem deriveOne (hP : IsNumeric P) (h : r.Sound P) (limits : Limits) (role : DerivedRole)
    (m : Placed) : (r.deriveOne limits role m).Sound P := by
  have hrecord := h.record role.kind m.place
  have hvalue := evaluate_settles hP limits (m.parameter.formulaSource?.getD "")
    (hrecord.scope role)
  simp only [Run.deriveOne]
  split
  · exact hrecord.keep role m.name (hvalue.of_ok ‹_›)
  · exact hrecord.halt _ (hvalue.of_error ‹_›)

theorem deriveEach (hP : IsNumeric P) (h : r.Sound P) (limits : Limits) (role : DerivedRole)
    (members : List Placed) : (r.deriveEach limits role members).Sound P := by
  induction members generalizing r with
  | nil => exact h
  | cons m rest ih => exact (h.deriveOne hP limits role m).andThen fun _ hr => ih hr

theorem derive (hP : IsNumeric P) (h : r.Sound P) (engine : Engine) (t : Template)
    (role : DerivedRole) : (r.derive engine t role).Sound P := by
  unfold Run.derive
  split
  · exact h.deriveEach hP _ _ _
  · exact h.fail _ _

/-- The primary formula adds its value, or the fields of its value. -/
theorem evaluatePrimary (hP : IsNumeric P) (h : r.Sound P) (limits : Limits) (t : Template) :
    (r.evaluatePrimary limits t).Sound P := by
  have hrecord := h.record .main 0
  have hscope : Scope.All P [r.context] := by simpa [Scope.All] using h.context
  have hvalue := evaluate_settles hP limits t.formula hscope
  simp only [Run.evaluatePrimary]
  split
  · rename_i fields hfields
    exact ⟨h.context, h.results.insertAll (Value.all_object.1 (hvalue.of_ok hfields)), h.stop⟩
  · exact ⟨h.context, h.results.insert (hvalue.of_ok ‹_›), h.stop⟩
  · exact hrecord.halt _ (hvalue.of_error ‹_›)

end Sound

end Run

/-! ### Whole runs -/

/-- A run whose inputs have the property keeps it to its end, whether that comes early or not. -/
theorem Run.sound_calculate (hP : IsNumeric P) (engine : Engine) (t : Template)
    (h : validate t.parameters supplied = [] → (bindInputs t.parameters supplied).All P) :
    (calculate engine t supplied).Sound P := by
  have hstart : ({} : Run).Sound P := ⟨NameMap.all_empty, NameMap.all_empty, nofun⟩
  have hbound := hstart.validateInputs t h
  have hinternals := hbound.andThen fun _ hr => hr.derive hP engine t .internal
  have hprimary := hinternals.andThen fun _ hr => hr.evaluatePrimary hP engine.limits t
  have houtputs := hprimary.andThen fun _ hr => hr.derive hP engine t .output
  exact houtputs.close

/-- A run does not crash when no `NaN` is bound to its inputs. -/
theorem execute_eq_outcome_of_bindInputs (engine : Engine) (t : Template)
    (h : validate t.parameters supplied = [] → (bindInputs t.parameters supplied).HasNoNaN) :
    execute engine t supplied = .ok (calculate engine t supplied).outcome :=
  Run.ending_eq_ok_iff.2 ⟨(Run.sound_calculate isNumeric_not_isNaN engine t h).stop, rfl⟩

/-- A run does not crash when no `NaN` is supplied. -/
theorem execute_eq_outcome (engine : Engine) (t : Template) (h : supplied.HasNoNaN) :
    execute engine t supplied = .ok (calculate engine t supplied).outcome :=
  execute_eq_outcome_of_bindInputs engine t fun _ =>
    all_bindInputs isNumeric_not_isNaN t.parameters h

/-- Finite numbers give finite numbers: whatever value a formula that is accepted has in a scope of
finite values, and whatever results a run has for finite inputs, at whichever stage it stops. -/
theorem isFinite_eval_and_execute :
    (∀ (limits : Limits) (source : String) (e : Expr), Formula.parse limits source = .ok e →
      ∀ s : Scope, s.IsFinite → ∀ v, e.eval s = .ok v → v.isFinite) ∧
    ∀ (engine : Engine) (t : Template) (supplied : Values), supplied.IsFinite →
      (execute engine t supplied).results.IsFinite := by
  constructor
  · intro limits source e hparse s hs v hv
    have hall := Expr.eval_all (fun _ => id) ((Scope.isFinite_iff_all.1 hs).bindsAll e.vars)
      (Formula.isLiteral_constants hparse)
    exact Value.isFinite_iff_all.2 (hall.of_ok hv)
  · intro engine t supplied hsupplied
    have hsound := Run.sound_calculate isNumeric_isFinite engine t fun _ =>
      all_bindInputs isNumeric_isFinite t.parameters (NameMap.isFinite_iff_all.1 hsupplied)
    rw [NameMap.isFinite_iff_all, execute, Run.results_ending hsound.stop]
    exact hsound.results

/-- The square of the second side is too large for a double. -/
def sidesTemplate : Template where
  name := "Sides"
  formula := "\x7b first: sides[0] * scale, days: [days_between(day, '2024-03-01')] \x7d"
  parameters := [
    { Parameter.input "sides" .array with defaultText := some "[2.5, 1e200, [0.1E-400]]" },
    .input "scale" .number,
    .input "day" .date,
    .output "square" .number "sides[1] * sides[1]"]

def sidesInputs : Values :=
  .ofEntries [("day", .text "2024-02-28"), ("scale", .number 1e307)]

/-- The run fails when it derives its output; the results that it has by then are finite, and so is
the value of a formula that is close to the largest double. -/
theorem isFinite_eval_and_execute_sidesTemplate :
    (execute {} sidesTemplate sidesInputs).errorMessage =
        some "output:square: non-finite numeric result in '*'" ∧
      (execute {} sidesTemplate sidesInputs).results.names = ["days", "first"] ∧
      (execute {} sidesTemplate sidesInputs).results.IsFinite ∧
      ∃ e v, Formula.parse {} "[17 * scale, day]" = .ok e ∧ e.eval [sidesInputs] = .ok v ∧
        v.isFinite := by
  have hinputs : sidesInputs.IsFinite := by decide +kernel
  have hvalue : (evaluate {} "[17 * scale, day]" [sidesInputs]).isOk := by decide +kernel
  refine ⟨by decide +kernel, by decide +kernel,
    isFinite_eval_and_execute.2 {} sidesTemplate _ hinputs, ?_⟩
  cases heval : evaluate {} "[17 * scale, day]" [sidesInputs] with
  | error e => simp [heval, Except.isOk, Except.toBool] at hvalue
  | ok v =>
    obtain ⟨e, he, hv⟩ := bind_eq_ok.1 heval
    have hscope : Scope.IsFinite [sidesInputs] := by simpa [Scope.IsFinite] using hinputs
    exact ⟨e, v, he, hv, isFinite_eval_and_execute.1 {} _ e he _ hscope v hv⟩

end Formulary
