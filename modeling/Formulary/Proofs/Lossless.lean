import Formulary.Proofs.Finite.Value
import Formulary.Proofs.Number.Whole

/-!
# Values to JSON and back

JSON has no dates, no infinities and no `NaN`: a date becomes its text and such a number `null`.
Nothing else is lost. A whole number below `2 ^ 53` goes through an integer, all other finite
numbers stay doubles, and what has once been written as JSON is written the same way again.

## Main definitions

* `Value.dates` : the dates in a value, at whatever depth.

## Main statements

* `Value.same_ofJson_toJson_iff` : the values that come back equal;
* `Value.toJson_ofJson_toJson` : the JSON that comes back is the same for all of them.
-/
namespace Formulary.Value

open Calendar (Instant)

mutual

def dates : Value → List Instant
  | .date t => [t]
  | .array items => datesOfItems items
  | .object fields => datesOfFields fields
  | .null | .bool _ | .number _ | .text _ => []

def datesOfItems : List Value → List Instant
  | [] => []
  | item :: rest => item.dates ++ datesOfItems rest

def datesOfFields : List (String × Value) → List Instant
  | [] => []
  | (_, value) :: rest => value.dates ++ datesOfFields rest

end

/-! ### Numbers -/

/-- A number comes back equal when it is finite. A negative zero comes back positive. -/
theorem same_ofJson_numberToJson_iff (x : Float) :
    (ofJson (numberToJson x)).same (.number x) ↔ x.isFinite := by
  unfold numberToJson
  cases hwhole : Number.safeInt? x with
  | some i =>
    obtain ⟨hint, hsmall⟩ := Number.safeInt?_eq_some_iff.1 hwhole
    have hfinite : x.isFinite := (Number.toInt?_eq_some_iff.1 hint).1
    exact iff_of_true (Number.ofInt_beq_of_toInt? hsmall hint) hfinite
  | none =>
    by_cases hfinite : x.isFinite
    · have hself : x == x := (Number.beq_iff_units_eq hfinite hfinite).2 rfl
      simpa [hfinite, ofJson, same] using hself
    · simp [hfinite, ofJson, same]

/-- The JSON of a number is read as a number of the same JSON. -/
theorem toJson_ofJson_numberToJson (x : Float) :
    (ofJson (numberToJson x)).toJson = numberToJson x := by
  unfold numberToJson
  cases hwhole : Number.safeInt? x with
  | some i =>
    have hsmall : i.natAbs < 2 ^ 53 := (Number.safeInt?_eq_some_iff.1 hwhole).2
    have hsame : Number.safeInt? (Float.ofInt i) = some i :=
      Number.safeInt?_eq_some_iff.2 ⟨Number.toInt?_ofInt hsmall, hsmall⟩
    simp only [ofJson, toJson, numberToJson, hsame]
  | none =>
    by_cases hfinite : x.isFinite
    · simp only [hfinite, if_true, ofJson, toJson, numberToJson, hwhole]
    · simp only [hfinite, Bool.false_eq_true, if_false, ofJson, toJson]

/-! ### Values -/

mutual

/-- The values that come back equal are those without dates whose numbers are finite. -/
theorem same_ofJson_toJson_iff : ∀ v : Value,
    (ofJson v.toJson).same v ↔ v.dates = [] ∧ v.isFinite
  | .null => iff_of_true rfl ⟨rfl, rfl⟩
  | .bool b => iff_of_true (beq_self_eq_true b) ⟨rfl, rfl⟩
  | .text s => iff_of_true (beq_self_eq_true s) ⟨rfl, rfl⟩
  | .date _ => iff_of_false Bool.false_ne_true fun h => List.cons_ne_nil _ _ h.1
  | .number x => (same_ofJson_numberToJson_iff x).trans (and_iff_right rfl).symm
  | .array items => same_ofJson_toJsonItems_iff items
  | .object fields => same_ofJson_toJsonFields_iff fields

theorem same_ofJson_toJsonItems_iff : ∀ items : List Value,
    sameItems (ofJsonItems (toJsonItems items)) items ↔ datesOfItems items = [] ∧ areFinite items
  | [] => iff_of_true rfl ⟨rfl, rfl⟩
  | item :: rest => by
    have hitem := same_ofJson_toJson_iff item
    have hrest := same_ofJson_toJsonItems_iff rest
    simp only [toJsonItems, ofJsonItems, sameItems, datesOfItems, areFinite, Bool.and_eq_true,
      List.append_eq_nil_iff, hitem, hrest]
    exact and_and_and_comm

theorem same_ofJson_toJsonFields_iff : ∀ fields : List (String × Value),
    sameFields (ofJsonMembers (toJsonFields fields)) fields ↔
      datesOfFields fields = [] ∧ fieldsAreFinite fields
  | [] => iff_of_true rfl ⟨rfl, rfl⟩
  | (name, value) :: rest => by
    have hvalue := same_ofJson_toJson_iff value
    have hrest := same_ofJson_toJsonFields_iff rest
    simp only [toJsonFields, ofJsonMembers, sameFields, datesOfFields, fieldsAreFinite,
      Bool.and_eq_true, List.append_eq_nil_iff, beq_self_eq_true, true_and, hvalue, hrest]
    exact and_and_and_comm

end

mutual

/-- The JSON of a value is read as a value of the same JSON. -/
theorem toJson_ofJson_toJson : ∀ v : Value, (ofJson v.toJson).toJson = v.toJson
  | .null | .bool _ | .text _ | .date _ => rfl
  | .number x => toJson_ofJson_numberToJson x
  | .array items => congrArg Json.array (toJsonItems_ofJsonItems items)
  | .object fields => congrArg Json.object (toJsonFields_ofJsonMembers fields)

theorem toJsonItems_ofJsonItems : ∀ items : List Value,
    toJsonItems (ofJsonItems (toJsonItems items)) = toJsonItems items
  | [] => rfl
  | item :: rest =>
    congrArg₂ List.cons (toJson_ofJson_toJson item) (toJsonItems_ofJsonItems rest)

theorem toJsonFields_ofJsonMembers : ∀ fields : List (String × Value),
    toJsonFields (ofJsonMembers (toJsonFields fields)) = toJsonFields fields
  | [] => rfl
  | (name, value) :: rest =>
    congrArg₂ (fun json members => (name, json) :: members) (toJson_ofJson_toJson value)
      (toJsonFields_ofJsonMembers rest)

end

/-- On the way to JSON and back nothing is lost but dates and numbers that are not finite, and what
is left after that stays. -/
theorem json_lossless (v : Value) :
    ((ofJson v.toJson).same v ↔ v.dates = [] ∧ v.isFinite) ∧
      (ofJson v.toJson).toJson = v.toJson :=
  ⟨same_ofJson_toJson_iff v, toJson_ofJson_toJson v⟩

end Formulary.Value
