import Mathlib
import Formulary.Proofs.Parser.Steps

/-!
# The discipline of the parser

The parser that counts and the phrases of the parser read the same. A phrase has fuel and cannot
but end; it comes back to a depth by cutting off at zero. The machine has neither: it goes on as
long as it is told to, and lowering a number too far stops it. As the two agree from every
position, no reader runs for ever, none lowers a number too far, and each leaves the depth as it
finds it.

Reading one expression recurs through all the others, and what makes it end is the depth: an
expression within an expression is a step deeper. The induction is on the steps that are left down
to the greatest depth. The loops inside it pass a word each time, and are led by the words that are
left.

## Main definitions

* `Machine.Reader` : the readers of expressions and of their parts, with what each of them does and
  the phrase that it reads.

## Main statements

* `Machine.expression_mirrors` : an expression is read as its phrase reads it;
* `Machine.Reader.mirrors` : so is every part of it;
* `Machine.readers_disciplined` : every reader ends, and leaves the state of the parser in order.
-/
namespace Formulary.Parser.Machine

variable {δ : Type} {input : Input} {place depth least : Nat}

/-! ### Phrases by their first words -/

/-- An entry by its key. -/
theorem entry_cons (frame : Frame) (e : Phrase Expr) (word : Lexeme) (rest : List Lexeme)
    (depth : Nat) :
    Parser.entry frame e ⟨word :: rest, depth⟩ =
      match key? (some word) with
      | none => .error (unexpected frame .propertyName ⟨word :: rest, depth⟩)
      | some (key, isName) =>
        if beginsWith [.colon] rest then do
          let (value, c) ← e ⟨rest.tail, depth⟩
          return ((key, value), c)
        else if isName then .ok ((key, .var key), ⟨rest, depth⟩)
        else .error (unexpected frame .colon ⟨rest, depth⟩) := by
  obtain ⟨start, token, stop⟩ := word
  cases token with
  | bool | null | mark => rfl
  | name | text | numeral =>
    cases rest with
    | nil => rfl
    | cons next rest =>
      obtain ⟨start, token, stop⟩ := next
      cases token with
      | mark m => cases m <;> rfl
      | _ => rfl

def powerPhrase (frame : Frame) (e : Phrase Expr) (fuel : Nat) : Phrase Expr := fun c => do
  let (base, c) ← Parser.operand frame e c
  match c.ahead with
  | ⟨_, .mark .power, _⟩ :: rest =>
    let c ← Parser.enter frame { c with ahead := rest }
    let (exponent, c) ← Parser.unary frame e fuel c
    return (.binary .pow base exponent, Parser.leave 1 c)
  | _ => return (base, c)

theorem unary_succ (frame : Frame) (e : Phrase Expr) (fuel : Nat) (c : Cursor) :
    Parser.unary frame e (fuel + 1) c =
      match unaryOp? c.ahead with
      | some (op, rest) => do
        let c ← Parser.enter frame { c with ahead := rest }
        let (inner, c) ← Parser.unary frame e fuel c
        return (.unary op inner, Parser.leave 1 c)
      | none => powerPhrase frame e fuel c := rfl

theorem unaryOp?_eq (ahead : List Lexeme) :
    unaryOp? ahead = (sign? ahead.head?).map fun op => (op, ahead.tail) := by
  cases ahead with
  | nil => rfl
  | cons word rest =>
    obtain ⟨start, token, stop⟩ := word
    cases token with
    | mark m => cases m <;> rfl
    | _ => rfl

theorem binaryOp?_eq (ops : List (Mark × BinaryOp)) (ahead : List Lexeme) :
    binaryOp? ops ahead = (operator? ops ahead.head?).map fun op => (op, ahead.tail) := by
  cases ahead with
  | nil => rfl
  | cons word rest =>
    obtain ⟨start, token, stop⟩ := word
    cases token <;> rfl

/-! ### Chains -/

/-- As `Arrives`, at a depth that is not told: what a chain charges is released by others. -/
def ArrivesDeeper (input : Input) (least : Nat) (p : Expr × Position) (b : Expr × Cursor) : Prop :=
  ∃ depth, Arrives input least depth p b

theorem ArrivesDeeper.mono {more : Nat} {p : Expr × Position} {b : Expr × Cursor}
    (h : ArrivesDeeper input more p b) (hle : least ≤ more) : ArrivesDeeper input least p b :=
  h.imp fun _ hb => hb.mono hle

/-- From each later word on, a chain reads what `k` reads. -/
def ContinuesAs (input : Input) (k : Expr → Phrase Expr) (place depth : Nat) : Prop :=
  ∀ head later, place < later → later ≤ input.words.length →
    Follows (ArrivesDeeper input place) (input.chain head) ⟨later, depth⟩
      (k head ⟨input.words.drop later, depth⟩)

/-- Words that begin with no other mark end a chain. -/
theorem chain_stops (head : Expr) (hs : Position.Within input ⟨place, depth⟩)
    (h : beginsWith [.dot, .openBracket, .openParen] (input.words.drop place) = false) :
    Follows (ArrivesDeeper input place) (input.chain head) ⟨place, depth⟩
      (.ok (head, ⟨input.words.drop place, depth⟩)) := by
  have hlink : input.link head (input.words.drop place).head? = pure head := by
    rw [Input.link.eq_def]
    split
    · rename_i hword
      simp [beginsWith, hword] at h
    · rename_i hword
      simp [beginsWith, hword] at h
    · rename_i hword
      simp [beginsWith, hword] at h
    · rfl
  -- Nothing is charged.
  rw [Input.chain]
  refine follows_nextIs hs ?_
  rw [h]
  refine follows_peek hs ?_
  rw [hlink]
  exact (follows_return head (Nat.le_refl _) hs.place_le).mono fun _ _ hb => ⟨depth, hb⟩

/-- A chain that goes on charges a step before the next word is passed. -/
theorem follows_enter_chain {m : Mark} {head : Expr} {start stop : Nat} {rest : List Lexeme}
    {R : Expr × Position → δ → Prop} {g : Cursor → Except FormulaError δ} {ahead : List Lexeme}
    (hdepth : depth ≤ input.maxDepth)
    (hahead : input.words.drop place = ⟨start, .mark m, stop⟩ :: rest)
    (hm : m ∈ [Mark.dot, .openBracket, .openParen])
    (hf : depth < input.maxDepth → Follows R (input.link head (some ⟨start, .mark m, stop⟩))
      ⟨place, depth + 1⟩ (g ⟨ahead, depth + 1⟩)) :
    Follows R (input.chain head) ⟨place, depth⟩
      (Parser.enter input.frame ⟨ahead, depth⟩ >>= g) := by
  have hplace := Nat.le_of_lt (lt_of_drop_eq_cons hahead)
  rw [Input.chain]
  refine follows_nextIs_of_mem hdepth hahead rfl hm ?_
  refine follows_enter fun hdeeper => follows_peek ⟨hplace, hdeeper⟩ ?_
  rw [hahead]
  exact hf hdeeper

theorem link_member {k : Expr → Phrase Expr} {head : Expr} {start stop : Nat}
    (hlt : place < input.words.length) (hdepth : depth ≤ input.maxDepth)
    (hk : ContinuesAs input k place depth) :
    Follows (ArrivesDeeper input place) (input.link head (some ⟨start, .mark .dot, stop⟩))
      ⟨place, depth⟩
      (match input.words.drop (place + 1) with
        | ⟨_, .name name, _⟩ :: rest => k (.member head name) ⟨rest, depth⟩
        | _ => .error (unexpected input.frame .propertyName
          ⟨input.words.drop (place + 1), depth⟩)) := by
  rw [Input.link]
  refine follows_advance hdepth hlt (follows_peek ⟨hlt, hdepth⟩ ?_)
  cases hname : input.words.drop (place + 1) with
  | nil => exact outcome_refuse ⟨hlt, hdepth⟩ hname
  | cons word rest =>
    obtain ⟨start, token, stop⟩ := word
    have hlt' := lt_of_drop_eq_cons hname
    obtain rfl := drop_succ_of_drop_eq_cons hname
    cases token with
    | name name => exact follows_advance hdepth hlt' (hk _ _ (by omega) hlt')
    | _ => exact outcome_refuse ⟨hlt, hdepth⟩ hname

/-! ### Operators of one level -/

theorem fold_follows {tighter : List (List (Mark × BinaryOp))} {t : Phrase Expr}
    (ht : Mirrors input least (input.operation tighter) t) (ops : List (Mark × BinaryOp))
    {fuel : Nat} (folded : Nat) (left : Expr) (hplace : place ≤ input.words.length)
    (hleast : least ≤ depth) (hdepth : depth + folded ≤ input.maxDepth)
    (hfuel : input.words.length - place ≤ fuel) :
    Follows (Arrives input place depth) (input.fold ops tighter folded left)
      ⟨place, depth + folded⟩
      (Parser.fold input.frame ops t fuel folded left
        ⟨input.words.drop place, depth + folded⟩) := by
  induction fuel generalizing place folded left with
  | zero =>
    have hahead : input.words.drop place = [] := List.drop_eq_nil_of_le (by omega)
    rw [Input.fold]
    refine follows_peek ⟨hplace, hdepth⟩ ?_
    rw [hahead]
    have hreturn : Follows (Arrives input place depth) _ ⟨place, depth + folded⟩ _ :=
      follows_leave_return left (Nat.le_refl _) hplace
    rwa [hahead] at hreturn
  | succ fuel ih =>
    rw [Input.fold, Parser.fold, binaryOp?_eq]
    refine follows_peek ⟨hplace, hdepth⟩ ?_
    cases hop : operator? ops (input.words.drop place).head? with
    | none => exact follows_leave_return left (Nat.le_refl _) hplace
    | some op =>
      have hlt : place < input.words.length := lt_of_drop_ne_nil fun hnil => by
        rw [hnil] at hop
        cases hop
      refine follows_advance hdepth hlt (follows_enter fun hdeeper => ?_)
      rw [List.tail_drop]
      refine (ht _ _ hlt (by omega) hdeeper).andThen fun right _ hle hle' => ?_
      refine (ih (folded + 1) (.binary op left right) hle' hdeeper (by omega)).mono fun _ _ hb => ?_
      exact hb.mono (by omega)

/-! ### Readers by the reading of expressions -/

section

variable {e : Phrase Expr} (he : Mirrors input least input.expression e)

include he

theorem entry_mirrors : Mirrors input least input.entry (Parser.entry input.frame e) := by
  intro place depth hplace hleast hdepth
  have hs : Position.Within input ⟨place, depth⟩ := ⟨hplace, hdepth⟩
  rw [Input.entry]
  refine follows_peek hs ?_
  cases hahead : input.words.drop place with
  | nil => exact outcome_refuse hs hahead
  | cons word rest =>
    have hlt := lt_of_drop_eq_cons hahead
    obtain rfl := drop_succ_of_drop_eq_cons hahead
    rw [entry_cons, List.head?_cons]
    cases key? (some word) with
    | none => exact outcome_refuse hs hahead
    | some found =>
      obtain ⟨key, isName⟩ := found
      refine follows_advance hdepth hlt (follows_nextIs ⟨hlt, hdepth⟩ ?_)
      cases hcolon : beginsWith [.colon] (input.words.drop (place + 1)) with
      | true =>
        have hlt' := lt_of_beginsWith hcolon
        refine follows_advance hdepth hlt' ?_
        rw [List.tail_drop]
        refine (he _ _ hlt' hleast hdepth).andThen fun value _ hle hle' => ?_
        exact follows_return (key, value) (by omega) hle'
      | false =>
        cases isName with
        | true => exact follows_return _ (Nat.le_refl _) hlt
        | false => exact outcome_refuse ⟨hlt, hdepth⟩ rfl

theorem items_follows {fuel : Nat} (close : Mark) (hplace : place ≤ input.words.length)
    (hleast : least ≤ depth) (hdepth : depth ≤ input.maxDepth)
    (hfuel : input.words.length - place < fuel) :
    Follows (Arrives input (place + 1) depth) (input.items close []) ⟨place, depth⟩
      (phrasesUpTo input.frame close e fuel ⟨input.words.drop place, depth⟩) :=
  list_follows he (fun found => by rw [Input.items]) [] hplace hleast hdepth hfuel

theorem entries_follows {fuel : Nat} (hplace : place ≤ input.words.length)
    (hleast : least ≤ depth) (hdepth : depth ≤ input.maxDepth)
    (hfuel : input.words.length - place < fuel) :
    Follows (Arrives input (place + 1) depth) (input.entries []) ⟨place, depth⟩
      (phrasesUpTo input.frame .closeBrace (Parser.entry input.frame e) fuel
        ⟨input.words.drop place, depth⟩) :=
  list_follows (entry_mirrors he) (fun found => by rw [Input.entries]) [] hplace hleast hdepth hfuel

theorem atom_mirrors : Mirrors input least input.atom (Parser.atom input.frame e) := by
  intro place depth hplace hleast hdepth
  have hs : Position.Within input ⟨place, depth⟩ := ⟨hplace, hdepth⟩
  rw [Input.atom]
  cases hahead : input.words.drop place with
  | nil =>
    have hadvance : outcome input.advance ⟨place, depth⟩ = some (.ok (none, ⟨place, depth⟩)) := by
      rw [Input.advance, outcome_bind_of_ok (outcome_peek hs), hahead]
      rfl
    exact .after hadvance (outcome_refuse hs hahead)
  | cons word rest =>
    obtain ⟨start, token, stop⟩ := word
    have hlt := lt_of_drop_eq_cons hahead
    obtain rfl := drop_succ_of_drop_eq_cons hahead
    have hcount : input.words.length - (place + 1) < input.frame.wordCount :=
      Nat.sub_lt (Nat.zero_lt_of_lt hlt) (Nat.succ_pos place)
    refine follows_advance hdepth hlt ?_
    rw [hahead]
    cases token with
    | numeral text =>
      simp only [List.head?_cons, Parser.atom]
      cases Number.readNumber? text with
      | none => exact rfl
      | some x =>
        cases hx : x.isFinite with
        | true =>
          simp only [hx, if_true]
          exact follows_return _ (Nat.le_refl _) hlt
        | false =>
          simp only [hx, Bool.false_eq_true, if_false]
          exact rfl
    | text | bool | null | name => exact follows_return _ (Nat.le_refl _) hlt
    | mark m =>
      cases m with
      | openParen =>
        refine (he _ _ hlt hleast hdepth).andThen fun inner place' hle hle' => ?_
        refine follows_pass ⟨hle', hdepth⟩ fun hlt' => ?_
        exact follows_return inner (by omega) hlt'
      | openBracket =>
        refine follows_enter fun hdeeper => ?_
        refine (items_follows he _ hlt (by omega) hdeeper hcount).andThen fun found _ hle hle' => ?_
        exact follows_leave_return _ (by omega) hle'
      | openBrace =>
        refine follows_enter fun hdeeper => ?_
        refine (entries_follows he hlt (by omega) hdeeper hcount).andThen fun found _ hle hle' => ?_
        exact follows_leave_return _ (by omega) hle'
      | _ => exact .after outcome_stepBack (outcome_refuse hs hahead)

theorem link_index {k : Expr → Phrase Expr} {head : Expr} {start stop : Nat}
    (hlt : place < input.words.length) (hleast : least ≤ depth) (hdepth : depth ≤ input.maxDepth)
    (hk : ContinuesAs input k place depth) :
    Follows (ArrivesDeeper input place) (input.link head (some ⟨start, .mark .openBracket, stop⟩))
      ⟨place, depth⟩
      (do
        let (position, c) ← e ⟨input.words.drop (place + 1), depth⟩
        let c ← Parser.pass input.frame .closeBracket c
        k (.index head position) c) := by
  rw [Input.link]
  refine follows_advance hdepth hlt ?_
  refine (he _ _ hlt hleast hdepth).andThen fun position place' hle hle' => ?_
  refine follows_pass ⟨hle', hdepth⟩ fun hlt' => ?_
  exact hk (.index head position) _ (by omega) hlt'

theorem link_call {k : Expr → Phrase Expr} {head : Expr} {start stop : Nat}
    (hlt : place < input.words.length) (hleast : least ≤ depth) (hdepth : depth ≤ input.maxDepth)
    (hk : ContinuesAs input k place depth) :
    Follows (ArrivesDeeper input place) (input.link head (some ⟨start, .mark .openParen, stop⟩))
      ⟨place, depth⟩
      (match calledName? head with
        | none => .error (.malformed start .notCallable)
        | some name =>
          match Builtin.ofName? name with
          | none => .error (.unknownFunction name)
          | some function => do
            let (arguments, c) ← phrasesUpTo input.frame .closeParen e input.frame.wordCount
              ⟨input.words.drop (place + 1), depth⟩
            k (.call function arguments) c) := by
  rw [Input.link]
  cases calledName? head with
  | none => exact rfl
  | some name =>
    dsimp only
    cases Builtin.ofName? name with
    | none => exact rfl
    | some function =>
      have hcount : input.words.length - (place + 1) < input.frame.wordCount :=
        Nat.sub_lt (Nat.zero_lt_of_lt hlt) (Nat.succ_pos place)
      refine follows_advance hdepth hlt ?_
      refine (items_follows he _ hlt hleast hdepth hcount).andThen fun arguments _ hle hle' => ?_
      exact hk (.call function arguments) _ (by omega) hle'

theorem chain_follows {fuel : Nat} (head : Expr) (hplace : place ≤ input.words.length)
    (hleast : least ≤ depth) (hdepth : depth ≤ input.maxDepth)
    (hfuel : input.words.length - place ≤ fuel) :
    Follows (ArrivesDeeper input place) (input.chain head) ⟨place, depth⟩
      (Parser.chain input.frame e fuel head ⟨input.words.drop place, depth⟩) := by
  induction fuel generalizing head place depth with
  | zero =>
    have hahead : input.words.drop place = [] := List.drop_eq_nil_of_le (by omega)
    exact chain_stops head ⟨hplace, hdepth⟩ (by rw [hahead]; rfl)
  | succ fuel ih =>
    -- Each part passes a word, so there is fuel for the rest.
    have hnext (hdeeper : depth < input.maxDepth) :
        ContinuesAs input (Parser.chain input.frame e fuel) place (depth + 1) := by
      intro head later hlt hlater
      refine (ih head hlater (by omega) hdeeper (by omega)).mono fun _ _ hb => ?_
      exact hb.mono (Nat.le_of_lt hlt)
    rw [Parser.chain]
    dsimp only
    split
    · rename_i start stop rest hahead
      obtain rfl := drop_succ_of_drop_eq_cons hahead
      refine follows_enter_chain hdepth hahead (by simp) fun hdeeper => ?_
      exact link_member (lt_of_drop_eq_cons hahead) hdeeper (hnext hdeeper)
    · rename_i start stop rest hahead
      obtain rfl := drop_succ_of_drop_eq_cons hahead
      refine follows_enter_chain hdepth hahead (by simp) fun hdeeper => ?_
      exact link_index he (lt_of_drop_eq_cons hahead) (by omega) hdeeper (hnext hdeeper)
    · rename_i start stop rest hahead
      obtain rfl := drop_succ_of_drop_eq_cons hahead
      refine follows_enter_chain hdepth hahead (by simp) fun hdeeper => ?_
      exact link_call he (lt_of_drop_eq_cons hahead) (by omega) hdeeper (hnext hdeeper)
    · rename_i hdot hbracket hparen
      have hmarks : beginsWith [.dot, .openBracket, .openParen] (input.words.drop place) = false :=
        beginsWith_eq_false (by simpa using ⟨hdot, hbracket, hparen⟩)
      exact chain_stops head ⟨hplace, hdepth⟩ hmarks

theorem operand_mirrors : Mirrors input least input.operand (Parser.operand input.frame e) := by
  intro place depth hplace hleast hdepth
  rw [Input.operand]
  refine .after (outcome_get _) ?_
  refine (atom_mirrors he _ _ hplace hleast hdepth).andThen fun head place' hle hle' => ?_
  refine (chain_follows he head hle' hleast hdepth (Nat.sub_le ..)).bind fun whole s' b hb => ?_
  obtain ⟨whole', c⟩ := b
  -- Whatever the chain has charged, the depth is set back.
  obtain ⟨depth', rfl, rfl, rfl, hlast, hlast'⟩ := hb
  have hplace' : place + 1 ≤ s'.place := Nat.le_trans hle hlast
  exact .after (outcome_modify _ _) (follows_return whole hplace' hlast')

theorem power_follows {fuel : Nat}
    (hunary : ∀ {place depth}, place ≤ input.words.length → least ≤ depth →
      depth ≤ input.maxDepth → input.words.length - place ≤ fuel →
      Follows (Arrives input (place + 1) depth) input.unary ⟨place, depth⟩
        (Parser.unary input.frame e fuel ⟨input.words.drop place, depth⟩))
    (hplace : place ≤ input.words.length) (hleast : least ≤ depth) (hdepth : depth ≤ input.maxDepth)
    (hfuel : input.words.length - place ≤ fuel + 1) :
    Follows (Arrives input (place + 1) depth) input.power ⟨place, depth⟩
      (powerPhrase input.frame e fuel ⟨input.words.drop place, depth⟩) := by
  rw [Input.power, powerPhrase]
  refine (operand_mirrors he _ _ hplace hleast hdepth).andThen fun base place' hle hle' => ?_
  dsimp only
  split
  · rename_i start stop rest hahead
    have hlt := lt_of_drop_eq_cons hahead
    obtain rfl := drop_succ_of_drop_eq_cons hahead
    refine follows_nextIs_of_mem hdepth hahead rfl List.mem_cons_self ?_
    refine follows_advance hdepth hlt (follows_enter fun hdeeper => ?_)
    refine (hunary hlt (by omega) hdeeper (by omega)).andThen fun exponent _ hlast hlast' => ?_
    exact follows_leave_return _ (by omega) hlast'
  · rename_i hne
    refine follows_nextIs_of_ne ⟨hle', hdepth⟩ (by simpa using hne) ?_
    exact follows_return base (by omega) hle'

theorem unary_follows {fuel : Nat} (hplace : place ≤ input.words.length) (hleast : least ≤ depth)
    (hdepth : depth ≤ input.maxDepth) (hfuel : input.words.length - place ≤ fuel) :
    Follows (Arrives input (place + 1) depth) input.unary ⟨place, depth⟩
      (Parser.unary input.frame e fuel ⟨input.words.drop place, depth⟩) := by
  induction fuel generalizing place depth with
  | zero =>
    -- No words are left, and what an operand is refused for is refused here.
    have hahead : input.words.drop place = [] := List.drop_eq_nil_of_le (by omega)
    have hoperand := operand_mirrors he place depth hplace hleast hdepth
    rw [hahead] at hoperand ⊢
    rw [Input.unary]
    refine follows_peek ⟨hplace, hdepth⟩ ?_
    rw [hahead, Input.power]
    exact outcome_bind_of_error hoperand
  | succ fuel ih =>
    rw [Input.unary, unary_succ, unaryOp?_eq]
    refine follows_peek ⟨hplace, hdepth⟩ ?_
    cases hsign : sign? (input.words.drop place).head? with
    | none => exact power_follows he ih hplace hleast hdepth hfuel
    | some op =>
      have hlt : place < input.words.length := lt_of_drop_ne_nil fun hnil => by
        rw [hnil] at hsign
        cases hsign
      refine follows_advance hdepth hlt (follows_enter fun hdeeper => ?_)
      rw [List.tail_drop]
      refine (ih hlt (by omega) hdeeper (by omega)).andThen fun inner _ hle hle' => ?_
      exact follows_leave_return _ (by omega) hle'

theorem operation_mirrors (levels : List (List (Mark × BinaryOp))) :
    Mirrors input least (input.operation levels) (Parser.operation input.frame e levels) := by
  induction levels with
  | nil =>
    intro place depth hplace hleast hdepth
    rw [Input.operation]
    exact unary_follows he hplace hleast hdepth (Nat.sub_le ..)
  | cons ops tighter ih =>
    intro place depth hplace hleast hdepth
    rw [Input.operation]
    refine (ih _ _ hplace hleast hdepth).andThen fun left _ hle hle' => ?_
    refine (fold_follows ih ops 0 left hle' hleast hdepth (Nat.sub_le ..)).mono fun _ _ hb => ?_
    exact hb.mono hle

end

/-- An expression charges a step before it reads its parts. -/
theorem conditional_mirrors {e : Phrase Expr}
    (he : Mirrors input (least + 1) input.expression e) :
    Mirrors input least input.expression (conditional input.frame e) := by
  intro place depth hplace hleast hdepth
  rw [Input.expression, conditional]
  refine follows_enter fun hdeeper => ?_
  refine (operation_mirrors he levels _ _ hplace (by omega) hdeeper).andThen
    fun condition place' hle hle' => ?_
  dsimp only
  split
  · rename_i start stop rest hahead
    have hlt := lt_of_drop_eq_cons hahead
    obtain rfl := drop_succ_of_drop_eq_cons hahead
    refine follows_nextIs_of_mem hdeeper hahead rfl List.mem_cons_self ?_
    refine follows_advance hdeeper hlt ?_
    have hinner : least + 1 ≤ depth + 1 := Nat.succ_le_succ hleast
    refine (he _ _ hlt hinner hdeeper).andThen fun yes _ hyes hyes' => ?_
    refine follows_pass ⟨hyes', hdeeper⟩ fun hlt' => ?_
    refine (he _ _ hlt' hinner hdeeper).andThen fun no _ hno hno' => ?_
    exact .after (outcome_pure _ _) (follows_leave_return _ (by omega) hno')
  · rename_i hne
    refine follows_nextIs_of_ne ⟨hle', hdeeper⟩ (by simpa using hne) ?_
    exact .after (outcome_pure _ _) (follows_leave_return condition hle hle')

theorem expression_mirrors {fuel : Nat} (hfuel : input.maxDepth - least ≤ fuel) :
    Mirrors input least input.expression (Parser.expression input.frame fuel) := by
  -- Without fuel there is no depth left, and an expression is refused as it is entered.
  induction fuel generalizing least with
  | zero =>
    intro place depth hplace hleast hdepth
    rw [Input.expression]
    exact outcome_bind_of_error (outcome_enter_of_le (by omega))
  | succ fuel ih => exact conditional_mirrors (ih (by omega))

/-! ### All readers -/

/-- The readers of expressions and of their parts. -/
inductive Reader
  | expression
  | operation (levels : List (List (Mark × BinaryOp)))
  | unary | power | operand | atom

namespace Reader

def action (input : Input) : Reader → Action Expr
  | .expression => input.expression
  | .operation levels => input.operation levels
  | .unary => input.unary
  | .power => input.power
  | .operand => input.operand
  | .atom => input.atom

def phrase (input : Input) : Reader → Phrase Expr :=
  let e := Parser.expression input.frame input.maxDepth
  fun
  | .expression => e
  | .operation levels => Parser.operation input.frame e levels
  | .unary => Parser.unary input.frame e input.words.length
  | .power => powerPhrase input.frame e input.words.length
  | .operand => Parser.operand input.frame e
  | .atom => Parser.atom input.frame e

/-- Every reader reads what its phrase reads. -/
theorem mirrors (reader : Reader) :
    Mirrors input 0 (reader.action input) (reader.phrase input) := by
  have he : Mirrors input 0 input.expression _ := expression_mirrors (Nat.le_refl _)
  cases reader with
  | expression => exact he
  | operation levels => exact operation_mirrors he levels
  | unary =>
    intro place depth hplace hleast hdepth
    exact unary_follows he hplace hleast hdepth (Nat.sub_le ..)
  | power =>
    intro place depth hplace hleast hdepth
    refine power_follows he (unary_follows he) hplace hleast hdepth ?_
    exact Nat.le_succ_of_le (Nat.sub_le ..)
  | operand => exact operand_mirrors he
  | atom => exact atom_mirrors he

end Reader

/-! ### Whole formulas -/

theorem formula_follows (input : Input) :
    Follows (fun p e => p = (e, ⟨input.words.length, 0⟩)) input.formula ⟨0, 0⟩
      (Parser.wholeFormula input.frame input.words) := by
  rw [Input.formula, Parser.wholeFormula]
  cases input.words.isEmpty with
  | true => exact rfl
  | false =>
    have he : Mirrors input 0 input.expression _ := expression_mirrors (Nat.le_refl _)
    have hreads := he 0 0 (Nat.zero_le _) (Nat.le_refl _) (Nat.zero_le _)
    refine hreads.andThen fun e place _ hplace => ?_
    have hs : Position.Within input ⟨place, 0⟩ := ⟨hplace, Nat.zero_le _⟩
    refine follows_peek hs ?_
    dsimp only
    cases hahead : input.words.drop place with
    | nil =>
      have hend : place = input.words.length :=
        Nat.le_antisymm hplace (List.drop_eq_nil_iff.1 hahead)
      exact ⟨_, outcome_pure _ _, hend ▸ rfl⟩
    | cons word rest => exact outcome_refuse hs hahead

/-- Where reading stands at a position. -/
def Input.cursorAt (input : Input) (s : Position) : Cursor := ⟨input.words.drop s.place, s.depth⟩

/-- The state of a parser is in order wherever it may be. From each position within the words and
the greatest depth, every reader comes to an end, and nothing is lowered below zero or looked at
from outside. It yields what its phrase reads, at the depth it was called at and at least one word
later, or it refuses the words as its phrase does. So a whole formula is read or refused. -/
theorem readers_disciplined (input : Input) (reader : Reader) (s : Position) (hs : s.Within input) :
    ((∃ e s', outcome (reader.action input) s = some (.ok (e, s')) ∧
        s'.depth = s.depth ∧ s.place < s'.place ∧ s'.place ≤ input.words.length ∧
        reader.phrase input (input.cursorAt s) = .ok (e, input.cursorAt s')) ∨
      ∃ e, outcome (reader.action input) s = some (.error (.refused e)) ∧
        reader.phrase input (input.cursorAt s) = .error e) ∧
    outcome input.formula ⟨0, 0⟩ = match Parser.wholeFormula input.frame input.words with
      | .ok e => some (.ok (e, ⟨input.words.length, 0⟩))
      | .error e => some (.error (.refused e)) := by
  constructor
  · have hreads : Follows (Arrives input (s.place + 1) s.depth) (reader.action input) s
        (reader.phrase input (input.cursorAt s)) :=
      reader.mirrors s.place s.depth hs.place_le (Nat.zero_le _) hs.depth_le
    cases hphrase : reader.phrase input (input.cursorAt s) with
    | ok b =>
      rw [hphrase] at hreads
      obtain ⟨⟨e, s'⟩, houtcome, hb⟩ := hreads
      refine .inl ⟨e, s', houtcome, hb.depth_eq, hb.least_le, hb.place_le, ?_⟩
      exact congrArg Except.ok (Prod.ext hb.value_eq.symm hb.cursor_eq)
    | error e =>
      rw [hphrase] at hreads
      exact .inr ⟨e, hreads, rfl⟩
  · have hformula := formula_follows input
    cases hwhole : Parser.wholeFormula input.frame input.words with
    | ok e =>
      rw [hwhole] at hformula
      obtain ⟨p, hp, rfl⟩ := hformula
      exact hp
    | error e =>
      rw [hwhole] at hformula
      exact hformula

def signedMember : Input where
  words := [⟨0, .mark .minus, 1⟩, ⟨1, .name "rate", 5⟩, ⟨5, .mark .dot, 6⟩, ⟨6, .name "limit", 11⟩]
  endOffset := 11
  maxDepth := 3

/-- A member is charged one step more than the two around it, and no more is left of it. -/
theorem readers_disciplined_signedMember :
    Position.Within signedMember ⟨1, 2⟩ ∧
      outcome (signedMember.operand) ⟨1, 2⟩ =
        some (.ok (.member (.var "rate") "limit", ⟨4, 2⟩)) := by
  have hs : Position.Within signedMember ⟨1, 2⟩ := by decide
  have hphrase : Reader.operand.phrase signedMember (signedMember.cursorAt ⟨1, 2⟩) =
      .ok (.member (.var "rate") "limit", ⟨[], 2⟩) := by rfl
  refine ⟨hs, ?_⟩
  obtain ⟨⟨e, ⟨place, depth⟩, houtcome, rfl, -, hplace, hread⟩ | ⟨e, -, hread⟩, -⟩ :=
    readers_disciplined signedMember .operand ⟨1, 2⟩ hs
  · obtain ⟨rfl, hcursor⟩ := Prod.mk.inj (Except.ok.inj (hphrase.symm.trans hread))
    have hrest : signedMember.words.drop place = [] := (Cursor.mk.inj hcursor).1.symm
    have hend : place = 4 := Nat.le_antisymm hplace (List.drop_eq_nil_iff.1 hrest)
    exact hend ▸ houtcome
  · rw [hphrase] at hread
    cases hread

end Formulary.Parser.Machine
