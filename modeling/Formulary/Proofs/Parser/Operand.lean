import Formulary.Proofs.Evaluation
import Formulary.Proofs.Parser.Reading

/-!
# Operands are read exactly

Given a phrase that reads expressions, the parser reads entries, atoms and operands as the grammar
derives them, and no deeper than the limit.

## Main definitions

* `Grammar.Expression.Within` and its like : derivations that nest no deeper than some bound;
* `Parser.ReadsExpressions` : a phrase reads expressions at all depths from some depth on.

## Main statements

* `Parser.entry_reads`, `Parser.atom_reads`, `Parser.operand_reads` : what the phrases read.
-/
namespace Formulary

namespace Grammar

variable (n : Nat) (ts : List Token)

/-- An expression that nests no deeper than `n`. -/
def Expression.Within (e : Expr) : Prop := ∃ d : Expression ts e, d.nesting ≤ n

def Postfix.Within (e : Expr) : Prop := ∃ d : Postfix ts e, d.nesting ≤ n

def Atom.Within (e : Expr) : Prop := ∃ d : Atom ts e, d.nesting ≤ n

def Member.Within (m : String × Expr) : Prop := ∃ d : Member ts m, d.nesting ≤ n

end Grammar

namespace Parser

open Grammar

variable {frame : Frame} {expression : Phrase Expr} {depth n : Nat} {ts : List Token}

theorem listed_of_items : ∀ {ts : List Token} {es : List Expr} (d : Items ts es),
    d.nesting ≤ n → Listed (Expression.Within n) ts es
  | _, _, .nil, _ => .nil
  | _, _, .last d, h => .last ⟨d, h⟩
  | _, _, .cons d ds, h =>
    .cons ⟨d, (Nat.max_le.1 h).1⟩ (listed_of_items ds (Nat.max_le.1 h).2)

theorem exists_items {es : List Expr} (h : Listed (Expression.Within n) ts es) :
    ∃ d : Items ts es, d.nesting ≤ n := by
  induction h with
  | nil => exact ⟨.nil, Nat.zero_le n⟩
  | last h =>
    obtain ⟨d, hd⟩ := h
    exact ⟨.last d, hd⟩
  | cons h _ ih =>
    obtain ⟨d, hd⟩ := h
    obtain ⟨ds, hds⟩ := ih
    exact ⟨.cons d ds, Nat.max_le.2 ⟨hd, hds⟩⟩

theorem listed_of_members : ∀ {ts : List Token} {ms : List (String × Expr)} (d : Members ts ms),
    d.nesting ≤ n → Listed (Member.Within n) ts ms
  | _, _, .nil, _ => .nil
  | _, _, .last d, h => .last ⟨d, h⟩
  | _, _, .cons d ds, h =>
    .cons ⟨d, (Nat.max_le.1 h).1⟩ (listed_of_members ds (Nat.max_le.1 h).2)

theorem exists_members {ms : List (String × Expr)} (h : Listed (Member.Within n) ts ms) :
    ∃ d : Members ts ms, d.nesting ≤ n := by
  induction h with
  | nil => exact ⟨.nil, Nat.zero_le n⟩
  | last h =>
    obtain ⟨d, hd⟩ := h
    exact ⟨.last d, hd⟩
  | cons h _ ih =>
    obtain ⟨d, hd⟩ := h
    obtain ⟨ds, hds⟩ := ih
    exact ⟨.cons d ds, Nat.max_le.2 ⟨hd, hds⟩⟩

/-- The marks that continue an operand. -/
def operandMarks : List Mark := [.dot, .openBracket, .openParen]

def operationMarks (levels : List (List (Mark × BinaryOp))) : List Mark :=
  levels.flatMap (fun ops => ops.map (·.1)) ++ .power :: operandMarks

def expressionMarks : List Mark := .question :: operationMarks precedence

def entryMarks : List Mark := .colon :: expressionMarks

/-- A phrase reads the expressions that fit under the limit, at all depths from `least` on. -/
def ReadsExpressions (frame : Frame) (least : Nat) (expression : Phrase Expr) : Prop :=
  ∀ depth, least ≤ depth →
    Reads frame depth expressionMarks (Expression.Within (frame.maxDepth - depth)) expression

/-- After a key and a colon, the entry is the expression that is read. -/
theorem entry_pair_sound (h : Reads frame depth expressionMarks (Expression.Within n) expression)
    {word : Lexeme} {key : String} (hkey : Key word.token key) {colon : Lexeme}
    (hcolon : colon.token = .mark .colon) {rest : List Lexeme} {m : String × Expr} {c : Cursor}
    (hread : (do
      let (value, c) ← expression ⟨rest, depth⟩
      return ((key, value), c)) = .ok (m, c)) :
    ∃ words ts rest', word :: colon :: rest = words ++ rest' ∧ c = ⟨rest', depth⟩ ∧
      words.map Lexeme.token = ts ∧ Member.Within n ts m := by
  obtain ⟨⟨e, c₁⟩, he, hthen⟩ := bind_eq_ok.1 hread
  cases hthen
  obtain ⟨words, ts, rest', rfl, rfl, hwords, d, hd⟩ := h.sound he
  exact ⟨word :: colon :: words, _, rest', rfl, rfl, by simp [hcolon, hwords], .pair hkey d, hd⟩

/-- Entries are read as the grammar derives them. -/
theorem entry_reads (h : Reads frame depth expressionMarks (Expression.Within n) expression) :
    Reads frame depth entryMarks (Member.Within n) (entry frame expression) where
  sound := by
    intro ahead m c hread
    unfold entry at hread
    split at hread
    · rename_i start token stop rest hahead
      obtain rfl : ahead = ⟨start, token, stop⟩ :: rest := hahead
      cases token with
      | name key =>
        dsimp only at hread
        split at hread
        · exact entry_pair_sound h (.name key) rfl hread
        · simp only [if_pos] at hread
          cases hread
          exact ⟨[_], _, rest, rfl, rfl, rfl, .short key, Nat.zero_le n⟩
      | text key =>
        dsimp only at hread
        split at hread
        · exact entry_pair_sound h (.text key) rfl hread
        · cases hread
      | numeral key =>
        dsimp only at hread
        split at hread
        · exact entry_pair_sound h (.numeral key) rfl hread
        · cases hread
      | bool | null | mark => cases hread
    · cases hread
  complete := by
    rintro ts m ⟨d, hd⟩ words hwords rest hstops hcount
    cases d with
    | @pair t key ts e hkey d =>
      obtain ⟨word, words, rfl, hword, hwords⟩ := List.map_eq_cons_iff.1 hwords
      obtain ⟨colon, words, rfl, hcolon, hwords⟩ := List.map_eq_cons_iff.1 hwords
      simp only [List.length_cons] at hcount
      have he := h.complete ⟨d, hd⟩ hwords rest (hstops.mono (List.subset_cons_self _ _)) (by omega)
      obtain ⟨start, token, stop⟩ := word
      obtain ⟨start', token', stop'⟩ := colon
      obtain rfl : token = t := hword
      obtain rfl : token' = .mark .colon := hcolon
      cases hkey <;> simp only [entry, List.cons_append, he, bind, Except.bind] <;> rfl
    | short name =>
      obtain ⟨⟨start, token, stop⟩, words, rfl, hword, hwords⟩ := List.map_eq_cons_iff.1 hwords
      obtain rfl := List.map_eq_nil_iff.1 hwords
      obtain rfl : token = .name name := hword
      simp only [entry, List.cons_append, List.nil_append]
      split
      · exact absurd rfl (hstops .colon List.mem_cons_self)
      · rfl

/-- Items are read up to the mark that closes them. -/
theorem items_complete (h : Reads frame depth expressionMarks (Expression.Within n) expression)
    {close : Mark} (hclose : close = .closeParen ∨ close = .closeBracket) {es : List Expr}
    (d : Items ts es) (hd : d.nesting ≤ n) {words rest : List Lexeme} {word : Lexeme}
    (hwords : words.map Lexeme.token = ts) (hword : word.token = .mark close)
    (hcount : words.length + rest.length < frame.wordCount) :
    phrasesUpTo frame close expression frame.wordCount ⟨words ++ word :: rest, depth⟩ =
      .ok (es, ⟨rest, depth⟩) := by
  obtain ⟨fuel, hfuel⟩ : ∃ fuel, frame.wordCount = fuel + 1 := ⟨frame.wordCount - 1, by omega⟩
  rw [hfuel]
  refine h.phrasesUpTo_complete (listed_of_items d hd) ?_ (by decide) ?_ ?_ hwords hword
    (by omega) hcount
  · rintro ts e ⟨d, -⟩
    obtain ⟨t, us, rfl, ht⟩ := d.begins
    exact ⟨t, us, rfl, by rintro rfl; rcases hclose with rfl | rfl <;> cases ht⟩
  · rcases hclose with rfl | rfl <;> decide
  · rcases hclose with rfl | rfl <;> decide

/-- Entries are read up to the brace that closes them. -/
theorem members_complete (h : Reads frame depth expressionMarks (Expression.Within n) expression)
    {ms : List (String × Expr)} (d : Members ts ms) (hd : d.nesting ≤ n)
    {words rest : List Lexeme} {word : Lexeme} (hwords : words.map Lexeme.token = ts)
    (hword : word.token = .mark .closeBrace)
    (hcount : words.length + rest.length < frame.wordCount) :
    phrasesUpTo frame .closeBrace (entry frame expression) frame.wordCount
      ⟨words ++ word :: rest, depth⟩ = .ok (ms, ⟨rest, depth⟩) := by
  obtain ⟨fuel, hfuel⟩ : ∃ fuel, frame.wordCount = fuel + 1 := ⟨frame.wordCount - 1, by omega⟩
  rw [hfuel]
  refine (entry_reads h).phrasesUpTo_complete (listed_of_members d hd) ?_ (by decide) (by decide)
    (by decide) hwords hword (by omega) hcount
  rintro ts m ⟨d, -⟩
  cases d with
  | pair hkey d => exact ⟨_, _, rfl, by cases hkey <;> simp⟩
  | short name => exact ⟨_, _, rfl, by simp⟩

/-- Atoms are read as the grammar derives them, whatever follows. -/
theorem atom_reads (h : ReadsExpressions frame depth expression) :
    Reads frame depth [] (Atom.Within (frame.maxDepth - depth)) (atom frame expression) where
  sound := by
    intro ahead e c hread
    unfold atom at hread
    dsimp only at hread
    split at hread
    · cases hread
    · rename_i start token stop rest
      have hleaf {e : Expr} (hleaf : Leaf token e) :
          ∃ words ts rest', ⟨start, token, stop⟩ :: rest = words ++ rest' ∧
            (⟨rest, depth⟩ : Cursor) = ⟨rest', depth⟩ ∧ words.map Lexeme.token = ts ∧
            Atom.Within (frame.maxDepth - depth) ts e :=
        ⟨[⟨start, token, stop⟩], [token], rest, rfl, rfl, rfl, .leaf hleaf, Nat.zero_le _⟩
      split at hread
      case h_1 text =>
        split at hread
        · split at hread
          · cases hread
            exact hleaf (.numeral ‹_› ‹_›)
          · cases hread
        · cases hread
      case h_2 contents =>
        cases hread
        exact hleaf (.text contents)
      case h_3 b =>
        cases hread
        exact hleaf (.bool b)
      case h_4 =>
        cases hread
        exact hleaf .null
      case h_5 name =>
        cases hread
        exact hleaf (.name name)
      case h_6 =>
        obtain ⟨⟨inner, c₁⟩, hinner, hthen⟩ := bind_eq_ok.1 hread
        obtain ⟨words, ts, rest₁, rfl, rfl, hwords, d, hd⟩ := (h depth (Nat.le_refl _)).sound hinner
        obtain ⟨c₂, hpass, hthen⟩ := bind_eq_ok.1 hthen
        cases hthen
        obtain ⟨word, rest₂, hword, rfl, rfl⟩ := pass_eq_ok.1 hpass
        exact ⟨⟨start, .mark .openParen, stop⟩ :: (words ++ [word]), _, rest₂, by simp, rfl,
          by simp [hwords, hword], .paren d, hd⟩
      case h_7 =>
        obtain ⟨c₁, henter, hthen⟩ := bind_eq_ok.1 hread
        obtain ⟨hdepth, rfl⟩ := enter_eq_ok.1 henter
        obtain ⟨⟨items, c₂⟩, hitems, hthen⟩ := bind_eq_ok.1 hthen
        cases hthen
        obtain ⟨words, word, ts, rest₁, rfl, rfl, hword, hwords, hlisted⟩ :=
          (h _ (Nat.le_succ depth)).phrasesUpTo_sound hitems
        obtain ⟨d, hd⟩ := exists_items hlisted
        exact ⟨⟨start, .mark .openBracket, stop⟩ :: (words ++ [word]), _, rest₁, by simp, rfl,
          by simp [hwords, hword], .array d, by simp only [Atom.nesting] at hdepth ⊢; omega⟩
      case h_8 =>
        obtain ⟨c₁, henter, hthen⟩ := bind_eq_ok.1 hread
        obtain ⟨hdepth, rfl⟩ := enter_eq_ok.1 henter
        obtain ⟨⟨entries, c₂⟩, hentries, hthen⟩ := bind_eq_ok.1 hthen
        cases hthen
        obtain ⟨words, word, ts, rest₁, rfl, rfl, hword, hwords, hlisted⟩ :=
          (entry_reads (h _ (Nat.le_succ depth))).phrasesUpTo_sound hentries
        obtain ⟨d, hd⟩ := exists_members hlisted
        exact ⟨⟨start, .mark .openBrace, stop⟩ :: (words ++ [word]), _, rest₁, by simp, rfl,
          by simp [hwords, hword], .object d, by simp only [Atom.nesting] at hdepth ⊢; omega⟩
      case h_9 => cases hread
  complete := by
    rintro ts m ⟨d, hd⟩ words hwords rest - hcount
    cases d with
    | leaf hleaf =>
      obtain ⟨⟨start, token, stop⟩, later, rfl, htoken, hlater⟩ := List.map_eq_cons_iff.1 hwords
      obtain rfl := List.map_eq_nil_iff.1 hlater
      obtain rfl : token = _ := htoken
      cases hleaf <;> simp [atom, *]
    | @paren ts _ d =>
      obtain ⟨⟨start, token, stop⟩, inside, close, rfl, htoken, hinside, hclose⟩ :=
        exists_of_map_eq_enclosed hwords
      obtain rfl : token = _ := htoken
      simp only [List.length_cons, List.length_append, List.length_nil] at hcount
      have hinner := (h depth (Nat.le_refl _)).complete ⟨d, hd⟩ hinside (close :: rest)
        (stops_cons hclose (by decide)) (by simp only [List.length_cons]; omega)
      simp only [atom, List.cons_append, List.append_assoc, List.nil_append, hinner, bind,
        Except.bind, pass_of_eq frame hclose]
      rfl
    | @array ts items d =>
      obtain ⟨⟨start, token, stop⟩, inside, close, rfl, htoken, hinside, hclose⟩ :=
        exists_of_map_eq_enclosed hwords
      obtain rfl : token = _ := htoken
      simp only [List.length_cons, List.length_append, List.length_nil] at hcount
      simp only [Atom.nesting] at hd
      have hdepth : depth < frame.maxDepth := by omega
      have hitems : phrasesUpTo frame .closeBracket expression frame.wordCount
          ⟨inside ++ close :: rest, depth + 1⟩ = .ok (items, ⟨rest, depth + 1⟩) :=
        items_complete (h _ (Nat.le_succ depth)) (.inr rfl) d (by omega) hinside hclose (by omega)
      simp only [atom, List.cons_append, List.append_assoc, List.nil_append, enter_of_lt hdepth,
        hitems, bind, Except.bind, leave]
      rfl
    | @object ts entries d =>
      obtain ⟨⟨start, token, stop⟩, inside, close, rfl, htoken, hinside, hclose⟩ :=
        exists_of_map_eq_enclosed hwords
      obtain rfl : token = _ := htoken
      simp only [List.length_cons, List.length_append, List.length_nil] at hcount
      simp only [Atom.nesting] at hd
      have hdepth : depth < frame.maxDepth := by omega
      have hentries : phrasesUpTo frame .closeBrace (entry frame expression) frame.wordCount
          ⟨inside ++ close :: rest, depth + 1⟩ = .ok (entries, ⟨rest, depth + 1⟩) :=
        members_complete (h _ (Nat.le_succ depth)) d (by omega) hinside hclose (by omega)
      simp only [atom, List.cons_append, List.append_assoc, List.nil_append, enter_of_lt hdepth,
        hentries, bind, Except.bind, leave]
      rfl

/-- The expressions that have calls are those that a name is called by. -/
theorem callee_iff {e : Expr} {function : Builtin} :
    Callee e function ↔
      ∃ name, calledName? e = some name ∧ Builtin.ofName? name = some function := by
  constructor
  · rintro (h | h)
    · exact ⟨_, rfl, h⟩
    · exact ⟨_, rfl, h⟩
  · rintro ⟨name, hname, h⟩
    unfold calledName? at hname
    split at hname
    · cases hname
      exact .name h
    · split at hname
      · rename_i hmath
        cases hname
        obtain rfl := Expr.eq_var_of_isMath hmath
        exact .member h
      · cases hname
    · cases hname

/-- A chain after an operand makes a longer operand. -/
theorem chain_sound (h : ReadsExpressions frame depth expression) {fuel : Nat} {ts : List Token}
    {e : Expr} (d : Postfix ts e) (hd : d.nesting ≤ frame.maxDepth - depth)
    {ahead : List Lexeme} {e' : Expr} {c : Cursor}
    (hread : chain frame expression fuel e ⟨ahead, depth + d.steps⟩ = .ok (e', c)) :
    ∃ words us, ahead = words ++ c.ahead ∧ words.map Lexeme.token = us ∧
      Postfix.Within (frame.maxDepth - depth) (ts ++ us) e' := by
  induction fuel generalizing ts e ahead with
  | zero =>
    cases hread
    exact ⟨[], [], rfl, rfl, by rw [List.append_nil]; exact ⟨d, hd⟩⟩
  | succ fuel ih =>
    unfold chain at hread
    dsimp only at hread
    split at hread
    · rename_i start stop rest
      obtain ⟨c₁, henter, hthen⟩ := bind_eq_ok.1 hread
      obtain ⟨hdepth, rfl⟩ := enter_eq_ok.1 henter
      split at hthen
      · rename_i start' name stop' rest
        let d' : Postfix _ (.member e name) := .member d
        have hd' : d'.nesting ≤ frame.maxDepth - depth := by
          simp only [d', Postfix.nesting]
          omega
        obtain ⟨words, us, rfl, rfl, hwithin⟩ := ih d' hd' hthen
        exact ⟨⟨start, .mark .dot, stop⟩ :: ⟨start', .name name, stop'⟩ :: words, _, rfl, rfl,
          by simpa using hwithin⟩
      · cases hthen
    · rename_i start stop rest
      obtain ⟨c₁, henter, hthen⟩ := bind_eq_ok.1 hread
      obtain ⟨hdepth, rfl⟩ := enter_eq_ok.1 henter
      obtain ⟨⟨position, c₁⟩, hposition, hthen⟩ := bind_eq_ok.1 hthen
      obtain ⟨inside, ps, rest₁, rfl, rfl, rfl, p, hp⟩ := (h _ (by omega)).sound hposition
      obtain ⟨c₂, hpass, hthen⟩ := bind_eq_ok.1 hthen
      obtain ⟨close, rest₂, hclose, rfl, rfl⟩ := pass_eq_ok.1 hpass
      let d' : Postfix _ (.index e position) := .index d p
      have hd' : d'.nesting ≤ frame.maxDepth - depth := by
        simp only [d', Postfix.nesting]
        omega
      obtain ⟨words, us, rfl, rfl, hwithin⟩ := ih d' hd' hthen
      exact ⟨⟨start, .mark .openBracket, stop⟩ :: (inside ++ close :: words), _, by simp, rfl,
        by simpa [hclose] using hwithin⟩
    · rename_i start stop rest
      obtain ⟨c₁, henter, hthen⟩ := bind_eq_ok.1 hread
      obtain ⟨hdepth, rfl⟩ := enter_eq_ok.1 henter
      split at hthen
      · cases hthen
      · split at hthen
        · cases hthen
        · rename_i name hcalled _ function hfunction
          obtain ⟨⟨arguments, c₁⟩, harguments, hthen⟩ := bind_eq_ok.1 hthen
          obtain ⟨inside, close, as, rest₁, rfl, rfl, hclose, rfl, hlisted⟩ :=
            (h _ (by omega)).phrasesUpTo_sound harguments
          obtain ⟨items, hitems⟩ := exists_items hlisted
          let d' : Postfix _ (.call function arguments) :=
            .call d (callee_iff.2 ⟨name, hcalled, hfunction⟩) items
          have hd' : d'.nesting ≤ frame.maxDepth - depth := by
            simp only [d', Postfix.nesting]
            omega
          obtain ⟨words, us, rfl, rfl, hwithin⟩ := ih d' hd' hthen
          exact ⟨⟨start, .mark .openParen, stop⟩ :: (inside ++ close :: words), _, by simp, rfl,
            by simpa [hclose] using hwithin⟩
    · cases hread
      exact ⟨[], [], rfl, rfl, by rw [List.append_nil]; exact ⟨d, hd⟩⟩

/-- Reading what spells `ts` comes to a chain after `e`, with its steps charged and with fuel for
all that follows. -/
def ReachesChain (frame : Frame) (expression : Phrase Expr) (depth : Nat) (ts : List Token)
    (e : Expr) (steps : Nat) : Prop :=
  ∀ words rest : List Lexeme, words.map Lexeme.token = ts →
    words.length + rest.length ≤ frame.wordCount →
    ∃ fuel, rest.length ≤ fuel ∧
      (do
        let (head, after) ← atom frame expression ⟨words ++ rest, depth⟩
        chain frame expression frame.wordCount head after) =
        chain frame expression fuel e ⟨rest, depth + steps⟩

/-- When a step between two marks follows, the chain is about to read its opening mark. -/
theorem ReachesChain.enclosed {e : Expr} {steps : Nat} {opening closing : Mark}
    (h : ReachesChain frame expression depth ts e steps) {inner : List Token}
    {words : List Lexeme} (rest : List Lexeme)
    (hwords : words.map Lexeme.token = ts ++ .mark opening :: (inner ++ [.mark closing]))
    (hcount : words.length + rest.length ≤ frame.wordCount) :
    ∃ start stop inside close fuel, inside.map Lexeme.token = inner ∧
      close.token = .mark closing ∧ inside.length + rest.length + 1 < frame.wordCount ∧
      rest.length ≤ fuel ∧
      (do
        let (head, after) ← atom frame expression ⟨words ++ rest, depth⟩
        chain frame expression frame.wordCount head after) =
        chain frame expression (fuel + 1) e
          ⟨⟨start, .mark opening, stop⟩ :: (inside ++ close :: rest), depth + steps⟩ := by
  obtain ⟨before, ⟨start, token, stop⟩, after, rfl, hbefore, hopen, hafter⟩ :=
    exists_of_map_eq_append_cons hwords
  obtain ⟨inside, close, later, rfl, hinside, hclose, hlater⟩ :=
    exists_of_map_eq_append_cons hafter
  obtain rfl := List.map_eq_nil_iff.1 hlater
  obtain rfl : token = _ := hopen
  simp only [List.length_append, List.length_cons, List.length_nil] at hcount
  obtain ⟨fuel, hfuel, hchain⟩ := h before (_ :: (inside ++ close :: rest)) hbefore
    (by simp only [List.length_cons, List.length_append]; omega)
  simp only [List.length_cons, List.length_append] at hfuel
  obtain ⟨fuel, rfl⟩ : ∃ n, fuel = n + 1 := ⟨fuel - 1, by omega⟩
  refine ⟨start, stop, inside, close, fuel, hinside, hclose, by omega, by omega, ?_⟩
  rw [List.append_assoc, List.cons_append, List.append_assoc, List.cons_append, List.nil_append,
    hchain]

/-- An operand is read as far as it goes; then its chain goes on. -/
theorem chain_complete (h : ReadsExpressions frame depth expression) :
    ∀ {ts : List Token} {e : Expr} (d : Postfix ts e), d.nesting ≤ frame.maxDepth - depth →
      ReachesChain frame expression depth ts e d.steps
  | _, _, .atom d, hd, words, rest, hwords, hcount => by
    have hatom := (atom_reads h).complete ⟨d, hd⟩ hwords rest (stops_nil rest) hcount
    exact ⟨frame.wordCount, by omega, by rw [hatom]; rfl⟩
  | _, _, .member d, hd, words, rest, hwords, hcount => by
    simp only [Postfix.nesting] at hd
    obtain ⟨before, ⟨start, token, stop⟩, after, rfl, hbefore, hdot, hafter⟩ :=
      exists_of_map_eq_append_cons hwords
    obtain ⟨⟨start', token', stop'⟩, later, rfl, hname, hlater⟩ := List.map_eq_cons_iff.1 hafter
    obtain rfl := List.map_eq_nil_iff.1 hlater
    obtain rfl : token = _ := hdot
    obtain rfl : token' = _ := hname
    simp only [List.length_append, List.length_cons, List.length_nil] at hcount
    obtain ⟨fuel, hfuel, hchain⟩ := chain_complete h d (by omega) before (_ :: _ :: rest)
      hbefore (by simp only [List.length_cons]; omega)
    simp only [List.length_cons] at hfuel
    obtain ⟨fuel, rfl⟩ : ∃ n, fuel = n + 1 := ⟨fuel - 1, by omega⟩
    have hdepth : depth + d.steps < frame.maxDepth := by omega
    refine ⟨fuel, by omega, ?_⟩
    rw [List.append_assoc, List.cons_append, List.cons_append, List.nil_append, hchain]
    simp only [chain, enter_of_lt hdepth]
    rfl
  | _, _, .index d p, hd, words, rest, hwords, hcount => by
    simp only [Postfix.nesting] at hd
    have hdepth : depth + d.steps < frame.maxDepth := by omega
    obtain ⟨start, stop, inside, close, fuel, hinside, hclose, hcount', hfuel, hchain⟩ :=
      (chain_complete h d (by omega)).enclosed rest hwords hcount
    have hposition := (h (depth + d.steps + 1) (by omega)).complete ⟨p, by omega⟩ hinside
      (close :: rest) (stops_cons hclose (by decide)) (by simp only [List.length_cons]; omega)
    refine ⟨fuel, hfuel, ?_⟩
    rw [hchain]
    simp only [chain, enter_of_lt hdepth, bind, Except.bind, hposition, pass_of_eq frame hclose]
    rfl
  | _, _, .call d hcallee items, hd, words, rest, hwords, hcount => by
    obtain ⟨name, hcalled, hfunction⟩ := callee_iff.1 hcallee
    simp only [Postfix.nesting] at hd
    have hdepth : depth + d.steps < frame.maxDepth := by omega
    obtain ⟨start, stop, inside, close, fuel, hinside, hclose, hcount', hfuel, hchain⟩ :=
      (chain_complete h d (by omega)).enclosed rest hwords hcount
    have harguments := items_complete (h (depth + d.steps + 1) (by omega)) (.inl rfl) items
      (by omega) hinside hclose (show inside.length + rest.length < frame.wordCount by omega)
    refine ⟨fuel, hfuel, ?_⟩
    rw [hchain]
    simp only [chain, enter_of_lt hdepth, bind, Except.bind, hcalled, hfunction, harguments]
    rfl

/-- A chain ends where nothing continues an operand. -/
theorem chain_stops {fuel : Nat} {e : Expr} {rest : List Lexeme}
    (hstops : Stops operandMarks rest) :
    chain frame expression fuel e ⟨rest, depth⟩ = .ok (e, ⟨rest, depth⟩) := by
  cases fuel with
  | zero => rfl
  | succ fuel =>
    unfold chain
    dsimp only
    split
    · exact absurd rfl (hstops .dot (by decide))
    · exact absurd rfl (hstops .openBracket (by decide))
    · exact absurd rfl (hstops .openParen (by decide))
    · rfl

theorem operand_eq (c : Cursor) :
    operand frame expression c =
      (do
        let (head, after) ← atom frame expression c
        chain frame expression frame.wordCount head after) >>= fun (whole, after) =>
          return (whole, { after with depth := c.depth }) := by
  rw [operand, bind_assoc]

/-- Operands are read as the grammar derives them. -/
theorem operand_reads (h : ReadsExpressions frame depth expression) :
    Reads frame depth operandMarks (Postfix.Within (frame.maxDepth - depth))
      (operand frame expression) where
  sound := by
    intro ahead e c hread
    obtain ⟨⟨head, c₁⟩, hhead, hthen⟩ := bind_eq_ok.1 hread
    obtain ⟨words, ts, rest, rfl, rfl, hwords, d, hd⟩ := (atom_reads h).sound hhead
    obtain ⟨⟨whole, c₂⟩, hwhole, hthen⟩ := bind_eq_ok.1 hthen
    cases hthen
    obtain ⟨words', us, rfl, hwords', hwithin⟩ := chain_sound h (.atom d) hd hwhole
    exact ⟨words ++ words', _, c₂.ahead, by simp, rfl, by simp [hwords, hwords'], hwithin⟩
  complete := by
    rintro ts e ⟨d, hd⟩ words hwords rest hstops hcount
    obtain ⟨fuel, -, hchain⟩ := chain_complete h d hd words rest hwords hcount
    rw [operand_eq, hchain, chain_stops hstops]
    rfl

end Parser

end Formulary
