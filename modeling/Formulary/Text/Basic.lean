/-!
# Characters

Tables of characters are ascending lists of runs. A run takes every code point between its ends, or
every second one where upper and lower case alternate. A set of code points is the list of its ranges,
which ascend and do not touch; the operations on sets keep this form.

The blank characters are those with the property White_Space. Reading skips them between the parts of
a formula, and `trim` takes them off both ends of a text.

## Main definitions

* `CodeRun.covers` : whether a table has a code point;
* `CodeSet.has` : membership in a set;
* `CodeSet.ofRuns`, `CodeSet.ofCodes` : sets from tables and from single code points;
* `CodeSet.union`, `CodeSet.inter`, `CodeSet.diff`, `CodeSet.symmDiff`, `CodeSet.complement`;
* `isBlank`, `trim` : blank characters;
* `hexDigit`, `hexValue?` : the digits of base sixteen, written in lower case and read in either.
-/
namespace Formulary.Text

/-! ### Runs -/

/-- The code points `first`, `first + step`, … up to `last`, as `(first, last, step)`. -/
abbrev CodeRun := Nat × Nat × Nat

/-- Whether `code` lies in one of the runs, which ascend and do not overlap. -/
def CodeRun.covers : List CodeRun → Nat → Bool
  | [], _ => false
  | (first, last, step) :: rest, code =>
    if code < first then false
    else (code ≤ last && (code - first) % step == 0) || covers rest code

def CodeRun.codes : CodeRun → List Nat
  | (first, last, step) => (List.range ((last - first) / step + 1)).map fun i => first + i * step

/-- What runs cover is one of their code points. -/
theorem CodeRun.mem_codes_of_covers {runs : List CodeRun} {code : Nat} (h : covers runs code) :
    code ∈ runs.flatMap codes := by
  induction runs with
  | nil => simp [covers] at h
  | cons run runs ih =>
    obtain ⟨first, last, step⟩ := run
    simp only [covers] at h
    split at h
    · cases h
    · rw [Bool.or_eq_true, Bool.and_eq_true, decide_eq_true_eq, beq_iff_eq] at h
      rw [List.flatMap_cons, List.mem_append]
      refine h.imp (fun ⟨hlast, hstep⟩ => ?_) ih
      have hsteps : (code - first) / step ≤ (last - first) / step :=
        Nat.div_le_div_right (by omega)
      have hcode : (code - first) / step * step = code - first :=
        Nat.div_mul_cancel (Nat.dvd_of_mod_eq_zero hstep)
      exact List.mem_map.2 ⟨(code - first) / step, List.mem_range.2 (by omega), by omega⟩

/-! ### Sets -/

/-- The ranges of a set of code points, from the first code point of each to its last one. -/
abbrev CodeSet := List (Nat × Nat)

/-- The code point after another one, passing over the surrogates. -/
def nextCode (code : Nat) : Nat := if code = 0xD7FF then 0xE000 else code + 1

def previousCode (code : Nat) : Nat := if code = 0xE000 then 0xD7FF else code - 1

namespace CodeSet

def has (s : CodeSet) (code : Nat) : Bool := s.any fun (low, high) => low ≤ code && code ≤ high

/-- The range from `low` to `high`, joined with those of the ranges after it that touch it. These
ascend by their starts. -/
def coalesceFrom (low high : Nat) : List (Nat × Nat) → CodeSet
  | [] => [(low, high)]
  | (a, b) :: rest =>
    if a ≤ high + 1 then coalesceFrom low (max high b) rest
    else (low, high) :: coalesceFrom a b rest

/-- The set of some ranges that ascend by their starts. -/
def coalesce : List (Nat × Nat) → CodeSet
  | [] => []
  | (low, high) :: rest => coalesceFrom low high rest

def ofRun : CodeRun → List (Nat × Nat)
  | (first, last, 1) => [(first, last)]
  | (first, last, step) =>
    (List.range ((last - first) / step + 1)).map fun i => (first + i * step, first + i * step)

def ofRuns (runs : List CodeRun) : CodeSet := coalesce (runs.flatMap ofRun)

def ofCodes (codes : List Nat) : CodeSet :=
  coalesce ((codes.mergeSort fun a b => decide (a ≤ b)).map fun code => (code, code))

def union (s t : CodeSet) : CodeSet := coalesce (s.merge t fun a b => decide (a.1 ≤ b.1))

def unions (sets : List CodeSet) : CodeSet := sets.foldr union []

def inter : CodeSet → CodeSet → CodeSet
  | [], _ => []
  | _ :: _, [] => []
  | (a, b) :: s, (c, d) :: t =>
    let shared := if max a c ≤ min b d then [(max a c, min b d)] else []
    if b < d then shared ++ inter s ((c, d) :: t) else shared ++ inter ((a, b) :: s) t
termination_by s t => s.length + t.length

/-- The code points of the first set that are not in the second one. -/
def diff : CodeSet → CodeSet → CodeSet
  | [], _ => []
  | s, [] => s
  | (a, b) :: s, (c, d) :: t =>
    if d < a then diff ((a, b) :: s) t
    else if b < c then (a, b) :: diff s ((c, d) :: t)
    else
      let before := if a < c then [(a, previousCode c)] else []
      if d < b then before ++ diff ((nextCode d, b) :: s) t else before ++ diff s ((c, d) :: t)
termination_by s t => s.length + t.length

def symmDiff (s t : CodeSet) : CodeSet := (s.union t).diff (s.inter t)

/-- The gap between a range that ends with `high` and one that begins with `low`. Between ranges
with only the surrogates between them it has no inside, and its two ends are taken in order. -/
def gap (high low : Nat) : Nat × Nat :=
  (min (nextCode high) (previousCode low), max (nextCode high) (previousCode low))

/-- What is left out after a range that ends with `high`, up to the code point `last`. -/
def complementFrom (last high : Nat) : CodeSet → CodeSet
  | [] => if high < last then [(nextCode high, last)] else []
  | (a, b) :: rest => gap high a :: complementFrom last b rest

/-- The code points up to `last` that are not in a set. -/
def complement (last : Nat) : CodeSet → CodeSet
  | [] => [(0, last)]
  | (a, b) :: rest =>
    (if 0 < a then [(0, previousCode a)] else []) ++ complementFrom last b rest

def isAscii (s : CodeSet) : Bool := s.all fun (_, high) => high < 128

end CodeSet

/-! ### Blank characters -/

def blankRuns : List CodeRun :=
  [(0x9, 0xD, 1), (0x20, 0x20, 1), (0x85, 0x85, 1), (0xA0, 0xA0, 1), (0x1680, 0x1680, 1),
   (0x2000, 0x200A, 1), (0x2028, 0x2029, 1), (0x202F, 0x202F, 1), (0x205F, 0x205F, 1),
   (0x3000, 0x3000, 1)]

def isBlank (c : Char) : Bool := CodeRun.covers blankRuns c.toNat

theorem isBlank_eq_false_of_isDigit {c : Char} (h : c.isDigit) : isBlank c = false := by
  have hrange : 48 ≤ c.toNat ∧ c.toNat ≤ 57 := Char.isDigit_iff_toNat.1 h
  simp only [isBlank, blankRuns, CodeRun.covers]
  grind

def trimChars (s : List Char) : List Char :=
  ((s.dropWhile isBlank).reverse.dropWhile isBlank).reverse

theorem dropWhile_isBlank_of_head {s : List Char} (h : ∀ c ∈ s.head?, isBlank c = false) :
    s.dropWhile isBlank = s := by
  cases s with
  | nil => rfl
  | cons c s => exact List.dropWhile_cons_of_neg (by simp [h c rfl])

/-- Nothing is taken off ends that are not blank. -/
theorem trimChars_eq_self {s : List Char} (hfirst : ∀ c ∈ s.head?, isBlank c = false)
    (hlast : ∀ c ∈ s.getLast?, isBlank c = false) : trimChars s = s := by
  have hreverse : s.reverse.dropWhile isBlank = s.reverse :=
    dropWhile_isBlank_of_head (by rwa [List.head?_reverse])
  rw [trimChars, dropWhile_isBlank_of_head hfirst, hreverse, List.reverse_reverse]

def trim (s : String) : String := String.ofList (trimChars s.toList)

/-- Whether a text is empty or all blank. -/
def allBlank (s : String) : Bool := s.toList.all isBlank

/-- Lower the letters `A` to `Z` and keep all else. -/
def asciiLower (s : String) : String := s.map Char.toLower

/-! ### Hexadecimal digits -/

def hexDigit (n : Nat) : Char := Nat.digitChar n

def hexValue? (c : Char) : Option Nat :=
  if c.isDigit then some (c.toNat - '0'.toNat)
  else if 'a' ≤ c ∧ c ≤ 'f' then some (c.toNat - 'a'.toNat + 10)
  else if 'A' ≤ c ∧ c ≤ 'F' then some (c.toNat - 'A'.toNat + 10)
  else none

end Formulary.Text
