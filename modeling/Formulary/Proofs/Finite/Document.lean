import Formulary.Parameter
import Formulary.Proofs.Finite.Magnitude
import Formulary.Proofs.Finite.Value

/-!
# Finite numbers in documents

A number of a document is a whole number of 64 bits, or a double that is refused when it is too
large. Each division by a power of ten may add the places of a mantissa to the exponent of a double,
but there are few of them.

## Main definitions

* `Json.Node.IsFinite` : nodes of a document that stand for finite values.

## Main statements

* `Json.readDocumentNumber_isFinite` : numbers of documents are finite;
* `Json.Node.isFinite_readValue` : whatever is read from a text is finite;
* `Parameter.isFinite_defaultValue?` : so are the default values of parameters.
-/
namespace Formulary

namespace Json

/-! ### Numbers -/

theorem appendDigits_le {digits : List Char} :
    ∀ {significand : Nat}, significand ≤ significandLimit →
      (appendDigits significand digits).1 ≤ significandLimit := by
  induction digits with
  | nil => exact fun h => h
  | cons c rest ih =>
    intro significand h
    simp only [appendDigits]
    split
    · exact h
    · exact ih (Nat.not_lt.1 ‹_›)

theorem atLeastOne_powerOfTen {n : Nat} (h : n ≤ 308) : Number.AtLeastOne (powerOfTen n) := by
  have hdigits : (Nat.toDigits 10 1).length = 1 := rfl
  have hsmall : ¬(1 = 0 ∨ (1 : Int) + n < -330) := by omega
  have hlarge : ¬330 < (1 : Int) + n := by omega
  have hwhole : ¬(n : Int) < 0 := by omega
  simp only [powerOfTen, Number.scaled, hdigits, Int.natCast_one, hsmall, hlarge, hwhole, if_false,
    Int.toNat_natCast]
  exact Number.atLeastOne_ofScientific_one n

/-- The steps that are left bound how much the exponent can still grow. -/
theorem isFinite_of_scaleByTens {steps : Nat} :
    ∀ {x y : Float} {e : Int} {k : Nat}, Number.Fits k x → k + 52 * steps ≤ 971 →
      scaleByTens x e steps = some y → y.isFinite := by
  induction steps with
  | zero =>
    rintro x _ e k hx hk ⟨⟩
    exact hx.isFinite hk
  | succ steps ih =>
    intro x y e k hx hk h
    simp only [scaleByTens] at h
    split at h
    · split at h
      · split at h
        · obtain rfl := Option.some.inj h
          assumption
        · cases h
      · obtain rfl := Option.some.inj h
        exact (hx.div (atLeastOne_powerOfTen ‹_›) (by omega)).isFinite (by omega)
    · split at h
      · obtain rfl := Option.some.inj h
        exact hx.isFinite (by omega)
      · split at h
        · cases h
        · exact ih (hx.div (atLeastOne_powerOfTen (Nat.le_refl 308)) (by omega)) (by omega) h

/-- A whole number of 64 bits or a finite double. -/
def DocumentNumber.IsFinite : DocumentNumber → Prop
  | .integer n => n.natAbs < 2 ^ 64
  | .double x => x.isFinite

/-- A computation of a finite number, and of the rest of a text. -/
abbrev ReadsFinite (r : Except Fault (DocumentNumber × List Char)) : Prop :=
  Gives (fun found => found.1.IsFinite) r

variable {significand : Nat} (negative : Bool)

theorem lt_of_le_significandLimit (h : significand ≤ significandLimit) : significand < 2 ^ 64 := by
  have hlimit : significandLimit = 2 ^ 64 - 1 := rfl
  omega

theorem scaledSignificand_isFinite (h : significand ≤ significandLimit) (e : Int) :
    Gives DocumentNumber.IsFinite (scaledSignificand negative significand e) := by
  unfold scaledSignificand
  split
  · rename_i x hscale
    have hx : x.isFinite :=
      isFinite_of_scaleByTens (Number.fits_ofNat (lt_of_le_significandLimit h)) (by decide) hscale
    refine .ok ?_
    cases negative
    · exact hx
    · exact Number.isFinite_neg hx
  · exact .error trivial

theorem readScaled_isFinite (h : significand ≤ significandLimit) (exponent : Int)
    (s : List Char) : ReadsFinite (readScaled negative significand exponent s) := by
  have hzero : (if negative then (-0.0 : Float) else 0.0).isFinite := by
    cases negative <;> decide
  simp only [readScaled]
  split
  all_goals
    split
    · exact .error trivial
    · split
      · split
        · exact .error trivial
        · exact .ok hzero
      · exact (scaledSignificand_isFinite negative h _).bind fun x hx => .pure hx

theorem readExponentPart_isFinite (h : significand ≤ significandLimit) (exponent : Int)
    (s : List Char) : ReadsFinite (readExponentPart negative significand exponent s) := by
  unfold readExponentPart
  split
  · exact readScaled_isFinite negative h _ _
  · exact readScaled_isFinite negative h _ _
  · exact (scaledSignificand_isFinite negative h _).bind fun x hx => .pure hx

theorem readFractionPart_isFinite (h : significand ≤ significandLimit) (exponent : Int)
    (s : List Char) : ReadsFinite (readFractionPart negative significand exponent s) := by
  simp only [readFractionPart]
  split
  · exact .error trivial
  · exact readExponentPart_isFinite negative (appendDigits_le h) _ _

theorem readUnsigned_isFinite (s : List Char) : ReadsFinite (readUnsigned negative s) := by
  have h : ∀ digits, (appendDigits 0 digits).1 ≤ significandLimit := fun digits =>
    appendDigits_le (Nat.zero_le _)
  simp only [readUnsigned]
  split
  · exact .error trivial
  · exact .error trivial
  · split
    · exact readFractionPart_isFinite negative (h _) _ _
    · exact readScaled_isFinite negative (h _) _ _
    · exact readScaled_isFinite negative (h _) _ _
    · split
      · exact (scaledSignificand_isFinite negative (h _) _).bind fun x hx => .pure hx
      · have hlt := lt_of_le_significandLimit (h (s.takeWhile Char.isDigit))
        split
        · exact .ok hlt
        · split
          · exact .ok (Number.isFinite_neg (Number.isFinite_ofNat hlt))
          · exact .ok (by simpa [DocumentNumber.IsFinite] using hlt)

/-- Numbers of documents are finite. -/
theorem readDocumentNumber_isFinite (s : List Char) : ReadsFinite (readDocumentNumber s) := by
  unfold readDocumentNumber
  split <;> exact readUnsigned_isFinite _ _

/-! ### Nodes -/

namespace Node

def IsFinite (node : Node) : Prop := (Value.ofJson node.toJson).isFinite

theorem toJsonItems_eq_map (items : List Node) : toJsonItems items = items.map toJson := by
  induction items with
  | nil => rfl
  | cons item rest ih => rw [toJsonItems, List.map_cons, ih]

theorem toJsonMembers_eq_map (members : Entries Node) :
    toJsonMembers members = members.mapValues toJson := by
  induction members with
  | nil => rfl
  | cons member rest ih => rw [toJsonMembers, ih]; rfl

variable {items : List Node} {members : Entries Node} {node : Node}

theorem isFinite_null : null.IsFinite := rfl

theorem isFinite_bool (b : Bool) : (bool b).IsFinite := rfl

theorem isFinite_text (contents : String) : (text contents).IsFinite := rfl

theorem isFinite_broken (fault : Fault) : (broken fault).IsFinite := rfl

theorem isFinite_integer {n : Int} (h : n.natAbs < 2 ^ 64) : (integer n).IsFinite :=
  Number.isFinite_ofInt h

theorem isFinite_double {x : Float} (h : x.isFinite) : (double x).IsFinite := h

theorem isFinite_array (h : ∀ node ∈ items, node.IsFinite) (fault : Option Fault) :
    (array items fault).IsFinite := by
  rw [IsFinite, toJson, toJsonItems_eq_map, Value.isFinite_ofJson_array]
  exact List.forall_mem_map.2 h

theorem isFinite_object (h : ∀ m ∈ members, m.2.IsFinite) (fault : Option Fault) :
    (object members fault).IsFinite := by
  rw [IsFinite, toJson, ofMembers, toJsonMembers_eq_map, Value.isFinite_ofJson_object]
  intro _ hjson
  obtain ⟨m, hm, rfl⟩ := List.mem_map.1 (Entries.mem_of_mem_sort hjson)
  exact h m hm

theorem isFinite_readWord (h : node.IsFinite) (word s : List Char) :
    (readWord node word s).1.IsFinite := by
  unfold readWord
  split
  · exact h
  · exact isFinite_broken _

mutual

/-- Whatever a text begins with is finite. -/
theorem isFinite_readValue :
    ∀ (fuel depth : Nat) (s : List Char), (readValue fuel depth s).1.IsFinite
  | 0, _, _ => isFinite_broken _
  | fuel + 1, depth, s => by
    simp only [readValue]
    split
    · exact isFinite_broken _
    · split_ifs
      · exact isFinite_readWord isFinite_null _ _
      · exact isFinite_readWord (isFinite_bool _) _ _
      · exact isFinite_readWord (isFinite_bool _) _ _
      · rename_i c rest _ _ _ _ _
        cases hnumber : readDocumentNumber (c :: rest) with
        | error fault => exact isFinite_broken fault
        | ok found =>
          have hfound := (readDocumentNumber_isFinite _).of_ok hnumber
          obtain ⟨n | x, rest⟩ := found
          · exact isFinite_integer hfound
          · exact isFinite_double hfound
      · split
        · exact isFinite_text _
        · exact isFinite_broken _
      · exact isFinite_broken _
      · exact isFinite_array (isFinite_readItems fuel _ _ _) _
      · exact isFinite_broken _
      · exact isFinite_object (isFinite_readMembers fuel _ _ _) _
      · exact isFinite_broken _

theorem isFinite_readItems :
    ∀ (fuel depth : Nat) (first : Bool) (s : List Char),
      ∀ node ∈ (readItems fuel depth first s).1, node.IsFinite
  | 0, _, _, _ => by simp [readItems]
  | fuel + 1, depth, first, s => by
    unfold readItems
    extract_lets item
    have hitem (s : List Char) : ∀ node ∈ (item s).1, node.IsFinite := by
      have hvalue := isFinite_readValue fuel depth s
      have hitems := fun rest => isFinite_readItems fuel depth false rest
      simp only [item]
      cases hread : readValue fuel depth s with
      | mk value rest =>
        rw [hread] at hvalue
        cases rest with
        | none => simpa using hvalue
        | some rest => exact List.forall_mem_cons.2 ⟨hvalue, hitems rest⟩
    split
    · exact List.forall_mem_nil _
    · exact List.forall_mem_nil _
    · split_ifs
      · exact hitem _
      · split
        · exact List.forall_mem_nil _
        · exact List.forall_mem_nil _
        · exact hitem _
      · exact List.forall_mem_nil _

theorem isFinite_readMembers :
    ∀ (fuel depth : Nat) (first : Bool) (s : List Char),
      ∀ m ∈ (readMembers fuel depth first s).1, m.2.IsFinite
  | 0, _, _, _ => by simp [readMembers]
  | fuel + 1, depth, first, s => by
    unfold readMembers
    extract_lets member
    have hmember (s : List Char) : ∀ m ∈ (member s).1, m.2.IsFinite := by
      have hmembers := fun rest => isFinite_readMembers fuel depth false rest
      simp only [member]
      split
      · exact List.forall_mem_nil _
      · split
        · exact List.forall_mem_nil _
        · have hvalue := isFinite_readValue fuel depth
          split
          · exact List.forall_mem_cons.2 ⟨hvalue _, hmembers _⟩
          · simpa using hvalue _
        · exact List.forall_mem_nil _
    split
    · exact List.forall_mem_nil _
    · exact List.forall_mem_nil _
    · split_ifs
      · exact hmember _
      · exact List.forall_mem_nil _
      · split
        · exact List.forall_mem_nil _
        · exact hmember _
        · exact List.forall_mem_nil _
        · exact List.forall_mem_nil _
      · exact List.forall_mem_nil _

end

end Node

/-- Whatever a document is, it is finite. -/
theorem Document.isFinite_root (text : String) : (ofText text).root.IsFinite := by
  have hroot := Node.isFinite_readValue (2 * text.length + 2) 0 text.toList
  unfold ofText
  split <;>
    rename_i hread <;>
    rw [hread] at hroot <;>
    exact hroot

end Json

/-! ### Default values -/

theorem isFinite_of_readFinite? {text : String} {v : Value} (h : readFinite? text = some v) :
    v.isFinite := by
  obtain ⟨x, -, hx⟩ := Option.bind_eq_some_iff.1 h
  split at hx
  · obtain rfl := Option.some.inj hx
    simpa
  · cases hx

theorem isFinite_of_readTruth? {text : String} {v : Value} (h : readTruth? text = some v) :
    v.isFinite := by
  simp only [readTruth?] at h
  split_ifs at h <;>
    obtain rfl := Option.some.inj h <;>
    exact Value.isFinite_bool _

/-- A value that is written as JSON is finite. -/
theorem isFinite_of_readJson? {text : String} {v : Value} (h : readJson? text = some v) :
    v.isFinite := by
  have hroot := Json.Document.isFinite_root text
  simp only [readJson?, Json.parse] at h
  cases hfault : (Json.Document.ofText text).fault? with
  | some fault =>
    rw [hfault] at h
    cases h
  | none =>
    rw [hfault] at h
    obtain rfl := Option.some.inj h
    exact hroot

theorem DataType.isFinite_of_readTyped? {type : DataType} {text : String} {v : Value}
    (h : type.readTyped? text = some v) : v.isFinite := by
  cases type with
  | number => exact isFinite_of_readFinite? h
  | boolean => exact isFinite_of_readTruth? h
  | date =>
    obtain ⟨t, -, rfl⟩ := Option.map_eq_some_iff.1 h
    exact Value.isFinite_date t
  | string | enum | array | object => cases h

/-- The value that a text stands for is finite. -/
theorem DataType.isFinite_readLiteral (type : DataType) (text : String) :
    (type.readLiteral text).isFinite := by
  simp only [readLiteral]
  split
  · exact Value.isFinite_text text
  · cases hread : (type.readTyped? (Text.trim text)).or (readJson? (Text.trim text)) with
    | none => exact Value.isFinite_text text
    | some v =>
      obtain htyped | ⟨-, hjson⟩ := Option.or_eq_some_iff.1 hread
      · exact isFinite_of_readTyped? htyped
      · exact isFinite_of_readJson? hjson

/-- Default values are finite. -/
theorem Parameter.isFinite_defaultValue? {p : Parameter} {v : Value}
    (h : p.defaultValue? = some v) : v.isFinite := by
  obtain ⟨text, -, rfl⟩ := Option.map_eq_some_iff.1 h
  exact DataType.isFinite_readLiteral _ _

end Formulary
