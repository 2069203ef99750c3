import Mathlib.Data.List.Forall2
import Formulary.Proofs.Parser.Exactness
import Formulary.Proofs.Spelling

/-!
# Parsing what was printed

A printed expression is read back as the expression it was printed from. The printer puts
parentheses around a part that is looser than its place allows; so the grammar derives each part
in its place, and the words of the text are those of the derivation.

## Main definitions

* `Grammar.Fits` : the tokens that may stand in a place of some tightness.

## Main statements

* `Expr.fits_tokens` : the grammar derives an expression from its words;
* `Expr.allWords_tokens` : the words can be written;
* `Formula.parse_print` : a printed expression is parsed back.
-/
namespace Formulary

namespace Grammar

/-- The tokens are an expression that may stand in a place of this tightness. -/
def Fits (place : Nat) (ts : List Token) (e : Expr) : Prop :=
  if place = 0 then Nonempty (Expression ts e)
  else if place ≤ 8 then Nonempty (Operation (precedence.drop (place - 1)) ts e)
  else if place = 9 then Nonempty (Power ts e)
  else Nonempty (Postfix ts e)

variable {place tightness : Nat} {ts ls rs : List Token} {e l r : Expr}

theorem fits_conditional : Fits 0 ts e ↔ Nonempty (Expression ts e) := Iff.rfl

theorem fits_condition : Fits 1 ts e ↔ Nonempty (Operation precedence ts e) := Iff.rfl

theorem fits_unary : Fits 8 ts e ↔ Nonempty (Unary ts e) := by
  refine ⟨fun ⟨d⟩ => ?_, fun ⟨d⟩ => ⟨.unary d⟩⟩
  cases d with
  | unary d => exact ⟨d⟩

theorem fits_operand : Fits 10 ts e ↔ Nonempty (Postfix ts e) := Iff.rfl

/-- What fits a place fits the next looser one. -/
theorem Fits.of_succ (h : Fits (place + 1) ts e) : Fits place ts e := by
  match place, h with
  | 0, ⟨d⟩ => exact ⟨.operation d⟩
  | 1, ⟨d⟩ | 2, ⟨d⟩ | 3, ⟨d⟩ | 4, ⟨d⟩ | 5, ⟨d⟩ | 6, ⟨d⟩ | 7, ⟨d⟩ => exact ⟨.tighter d⟩
  | 8, ⟨d⟩ => exact ⟨.unary (.power d)⟩
  | 9, ⟨d⟩ => exact ⟨.operand d⟩
  | n + 10, ⟨d⟩ => exact ⟨d⟩

theorem Fits.mono (h : Fits tightness ts e) (hle : place ≤ tightness) : Fits place ts e := by
  induction hle with
  | refl => exact h
  | step _ ih => exact ih h.of_succ

/-- An operand fits every place. -/
theorem fits_of_postfix (d : Postfix ts e) : Fits place ts e := by
  by_cases hplace : place ≤ 10
  · exact (fits_operand.2 ⟨d⟩).mono hplace
  · have h0 : place ≠ 0 := by omega
    have h8 : ¬place ≤ 8 := by omega
    have h9 : place ≠ 9 := by omega
    simp only [Fits, h0, h8, h9, if_false]
    exact ⟨d⟩

/-- A part in parentheses where it needs them fits its place. -/
theorem Fits.enclosed (h : Fits tightness ts e) : Fits place (enclosed place tightness ts) e := by
  unfold Formulary.enclosed
  split
  · exact h.mono ‹_›
  · obtain ⟨d⟩ := fits_conditional.1 (h.mono (Nat.zero_le _))
    exact fits_of_postfix (.atom (.paren d))

theorem fits_binary (op : BinaryOp) (hl : Fits op.leftTightness ls l)
    (hr : Fits op.rightTightness rs r) :
    Fits op.tightness (ls ++ .mark op.mark :: rs) (.binary op l r) := by
  cases op
  case pow =>
    obtain ⟨dl⟩ := fits_operand.1 hl
    obtain ⟨dr⟩ := fits_unary.1 hr
    exact ⟨.power dl dr⟩
  all_goals
    obtain ⟨dl⟩ := hl
    obtain ⟨dr⟩ := hr
    exact ⟨.binary dl (by simp [BinaryOp.mark]) dr⟩

theorem sign_mark (op : UnaryOp) : Sign op.mark op := by
  cases op <;> constructor

theorem callee_name (function : Builtin) : Callee (.var function.name) function := by
  refine .name ?_
  cases function <;> rfl

theorem leaf_token {numeral : Float → String} {value : Value} (h : value.Writable numeral) :
    Leaf (value.token numeral) (.const value) := by
  cases value with
  | null => exact .null
  | bool b => exact .bool b
  | number x => exact .numeral h.2.1 h.2.2
  | text s => exact .text s
  | date _ | array _ | object _ => exact h.elim

@[simp] theorem commaSeparated_nil : commaSeparated [] = [] := rfl

@[simp] theorem commaSeparated_singleton (ts : List Token) : commaSeparated [ts] = ts := by
  simp [commaSeparated]

@[simp] theorem commaSeparated_cons_cons (ts us : List Token) (parts : List (List Token)) :
    commaSeparated (ts :: us :: parts) = ts ++ .mark .comma :: commaSeparated (us :: parts) := by
  simp [commaSeparated, List.intercalate_cons_cons]

/-- Expressions with commas between them are items. -/
theorem items_commaSeparated {parts : List (List Token)} {items : List Expr}
    (h : List.Forall₂ (fun ts e => Nonempty (Expression ts e)) parts items) :
    Nonempty (Items (commaSeparated parts) items) := by
  induction h with
  | nil => exact ⟨.nil⟩
  | cons hd htail ih =>
    obtain ⟨d⟩ := hd
    obtain ⟨ds⟩ := ih
    cases htail with
    | nil => simpa using ⟨Items.last d⟩
    | cons _ _ => simpa using ⟨Items.cons d ds⟩

/-- Members with commas between them are the inside of an object. -/
theorem members_commaSeparated {parts : List (List Token)} {entries : List (String × Expr)}
    (h : List.Forall₂ (fun ts m => Nonempty (Member ts m)) parts entries) :
    Nonempty (Members (commaSeparated parts) entries) := by
  induction h with
  | nil => exact ⟨.nil⟩
  | cons hd htail ih =>
    obtain ⟨d⟩ := hd
    obtain ⟨ds⟩ := ih
    cases htail with
    | nil => simpa using ⟨Members.last d⟩
    | cons _ _ => simpa using ⟨Members.cons d ds⟩

end Grammar

namespace Expr

open Grammar

mutual

/-- The grammar derives an expression from its words. -/
theorem fits_tokens : ∀ {numerals : Numerals} {e : Expr}, e.Writable numerals →
    Fits e.tightness (e.tokens numerals) e
  | _, .const value, h => by
    rw [Writable] at h
    rw [tokens]
    exact fits_operand.2 ⟨.atom (.leaf (leaf_token h))⟩
  | _, .var name, _ => by
    rw [tokens]
    exact fits_operand.2 ⟨.atom (.leaf (.name name))⟩
  | _, .member base name, h => by
    rw [Writable] at h
    obtain ⟨d⟩ := fits_operand.1 ((fits_tokens h.1).enclosed)
    rw [tokens]
    exact fits_operand.2 ⟨.member d⟩
  | _, .index base position, h => by
    rw [Writable] at h
    obtain ⟨d⟩ := fits_operand.1 ((fits_tokens h.1).enclosed)
    obtain ⟨dp⟩ := fits_conditional.1 ((fits_tokens h.2).mono (Nat.zero_le _))
    rw [tokens]
    exact fits_operand.2 ⟨.index d dp⟩
  | _, .unary op operand, h => by
    rw [Writable] at h
    obtain ⟨d⟩ := fits_unary.1 ((fits_tokens h).enclosed)
    rw [tokens]
    exact fits_unary.2 ⟨.sign (sign_mark op) d⟩
  | _, .binary op left right, h => by
    rw [Writable] at h
    rw [tokens]
    exact fits_binary op (fits_tokens h.1).enclosed (fits_tokens h.2).enclosed
  | _, .conditional condition yes no, h => by
    rw [Writable] at h
    obtain ⟨dc⟩ := fits_condition.1 (fits_tokens h.1).enclosed
    obtain ⟨dy⟩ := fits_conditional.1 ((fits_tokens h.2.1).mono (Nat.zero_le _))
    obtain ⟨dn⟩ := fits_conditional.1 ((fits_tokens h.2.2).mono (Nat.zero_le _))
    rw [tokens]
    exact fits_conditional.2 ⟨.conditional dc dy dn⟩
  | _, .array items, h => by
    rw [Writable] at h
    obtain ⟨d⟩ := items_commaSeparated (forall₂_tokensOfItems h)
    rw [tokens]
    exact fits_operand.2 ⟨.atom (.array d)⟩
  | _, .object entries, h => by
    rw [Writable] at h
    obtain ⟨d⟩ := members_commaSeparated (forall₂_tokensOfEntries h)
    rw [tokens]
    exact fits_operand.2 ⟨.atom (.object d)⟩
  | _, .call function arguments, h => by
    rw [Writable] at h
    obtain ⟨d⟩ := items_commaSeparated (forall₂_tokensOfItems h)
    rw [tokens]
    exact fits_operand.2 ⟨.call (.atom (.leaf (.name _))) (callee_name function) d⟩

theorem forall₂_tokensOfItems : ∀ {numerals : Numerals} {items : List Expr},
    WritableItems numerals items →
      List.Forall₂ (fun ts e => Nonempty (Expression ts e)) (tokensOfItems numerals items) items
  | _, [], _ => by
    rw [tokensOfItems]
    exact .nil
  | _, item :: rest, h => by
    rw [WritableItems] at h
    have hitem := fits_conditional.1 ((fits_tokens h.1).mono (Nat.zero_le _))
    rw [tokensOfItems]
    exact .cons hitem (forall₂_tokensOfItems h.2)

theorem forall₂_tokensOfEntries : ∀ {numerals : Numerals} {entries : List (String × Expr)},
    WritableEntries numerals entries →
      List.Forall₂ (fun ts m => Nonempty (Member ts m)) (tokensOfEntries numerals entries) entries
  | _, [], _ => by
    rw [tokensOfEntries]
    exact .nil
  | _, (key, item) :: rest, h => by
    rw [WritableEntries] at h
    obtain ⟨d⟩ := fits_conditional.1 ((fits_tokens h.1).mono (Nat.zero_le _))
    rw [tokensOfEntries]
    exact .cons ⟨.pair (.text key) d⟩ (forall₂_tokensOfEntries h.2)

end

/-! ### The words can be written -/

@[simp] theorem allWords_enclosed {place tightness : Nat} {ts : List Token} :
    AllWords (enclosed place tightness ts) ↔ AllWords ts := by
  unfold enclosed
  split <;> simp

@[simp] theorem allWords_commaSeparated {parts : List (List Token)} :
    AllWords (commaSeparated parts) ↔ ∀ ts ∈ parts, AllWords ts := by
  induction parts with
  | nil => simp
  | cons ts parts ih =>
    cases parts with
    | nil => simp
    | cons us parts => simp [ih]

theorem isWord_token {numeral : Float → String} {value : Value} (h : value.Writable numeral) :
    (value.token numeral).IsWord := by
  cases value with
  | number x => exact h.1
  | _ => trivial

@[simp] theorem isName_name (function : Builtin) : isName function.name := by
  cases function <;> decide

mutual

/-- The words of an expression can be written. -/
theorem allWords_tokens : ∀ {numerals : Numerals} {e : Expr}, e.Writable numerals →
    AllWords (e.tokens numerals)
  | _, .const value, h => by
    rw [Writable] at h
    simp [tokens, isWord_token h]
  | _, .var name, h => by
    rw [Writable] at h
    simp [tokens, h]
  | _, .member base name, h => by
    rw [Writable] at h
    simp [tokens, allWords_tokens h.1, h.2]
  | _, .index base position, h => by
    rw [Writable] at h
    simp [tokens, allWords_tokens h.1, allWords_tokens h.2]
  | _, .unary op operand, h => by
    rw [Writable] at h
    simp [tokens, allWords_tokens h]
  | _, .binary op left right, h => by
    rw [Writable] at h
    simp [tokens, allWords_tokens h.1, allWords_tokens h.2]
  | _, .conditional condition yes no, h => by
    rw [Writable] at h
    simp [tokens, allWords_tokens h.1, allWords_tokens h.2.1, allWords_tokens h.2.2]
  | _, .array items, h => by
    rw [Writable] at h
    simpa [tokens] using allWords_tokensOfItems h
  | _, .object entries, h => by
    rw [Writable] at h
    simpa [tokens] using allWords_tokensOfEntries h
  | _, .call function arguments, h => by
    rw [Writable] at h
    simpa [tokens] using allWords_tokensOfItems h

theorem allWords_tokensOfItems : ∀ {numerals : Numerals} {items : List Expr},
    WritableItems numerals items → ∀ ts ∈ tokensOfItems numerals items, AllWords ts
  | _, [], _ => by simp [tokensOfItems]
  | _, item :: rest, h => by
    rw [WritableItems] at h
    rw [tokensOfItems]
    exact List.forall_mem_cons.2 ⟨allWords_tokens h.1, allWords_tokensOfItems h.2⟩

theorem allWords_tokensOfEntries : ∀ {numerals : Numerals} {entries : List (String × Expr)},
    WritableEntries numerals entries → ∀ ts ∈ tokensOfEntries numerals entries, AllWords ts
  | _, [], _ => by simp [tokensOfEntries]
  | _, (key, item) :: rest, h => by
    rw [WritableEntries] at h
    rw [tokensOfEntries]
    refine List.forall_mem_cons.2 ⟨?_, allWords_tokensOfEntries h.2⟩
    simpa using allWords_tokens h.1

end

end Expr

/-- A printed expression is parsed back, whatever the limits are, if the text is not too long and
its words are no more than the depth that is accepted. -/
theorem Formula.parse_print (limits : Limits) (numerals : Numerals) (e : Expr)
    (h : e.Writable numerals) (hlength : (e.print numerals).utf8ByteSize ≤ limits.maxLength)
    (hdepth : (e.tokens numerals).length ≤ limits.maxDepth) :
    Formula.parse limits (e.print numerals) = .ok e := by
  obtain ⟨words, hlex, htokens⟩ := lex_spellings (Expr.allWords_tokens h)
  obtain ⟨d⟩ := Grammar.fits_conditional.1 ((Expr.fits_tokens h).mono (Nat.zero_le _))
  refine Formula.parse_eq_ok.2 ⟨hlength, words, hlex, ?_⟩
  rw [htokens]
  exact ⟨d, Nat.le_trans d.nesting_le hdepth⟩

/-- A price that shrinks by a rate, and a text with a quote, a tab and a line end. -/
def shrinkingPrice : Expr :=
  .member (.object [
    ("total", .binary .mul (.var "price")
      (.binary .pow (.binary .add (.const (.number 1)) (.var "rate"))
        (.unary .negative (.const (.number 1))))),
    ("say \"so\"", .const (.text "per\tyear\n"))]) "total"

/-- The number one of the base is written without an exponent, that of the power with one. -/
def shrinkingPriceNumerals : Numerals :=
  fun path _ => if path = [0, 0, 1, 0, 0] then "1" else "10e-1"

theorem parse_print_shrinkingPrice :
    shrinkingPrice.print shrinkingPriceNumerals =
        "\x7b \"total\" : price * ( 1 + rate ) ** - 10e-1 , \"say \\\"so\\\"\" : " ++
          "\"per\\tyear\\n\" \x7d . total" ∧
      Formula.parse {} (shrinkingPrice.print shrinkingPriceNumerals) = .ok shrinkingPrice := by
  refine ⟨by decide +kernel, Formula.parse_print _ _ _ ?_ (by decide +kernel) (by decide +kernel)⟩
  simp only [shrinkingPrice, Expr.Writable, Expr.WritableEntries, Value.Writable]
  decide +kernel

end Formulary
