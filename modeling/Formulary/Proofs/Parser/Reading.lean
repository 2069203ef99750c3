import Formulary.Proofs.Fallible
import Formulary.Proofs.Grammar

/-!
# What a phrase reads

A phrase of the parser reads some words from where it stands and leaves the rest. It reads what a
grammar derives when it succeeds on nothing else, and succeeds on all of it that is followed by a
word which could not continue it.

## Main definitions

* `Parser.Stops` : what follows does not begin with certain marks;
* `Parser.Reads` : a phrase reads exactly what a grammar derives;
* `Parser.Listed` : lists with commas.

## Main statements

* `Parser.Reads.phrasesUpTo_sound`, `Parser.Reads.phrasesUpTo_complete` : a phrase that reads the
  parts reads lists of them.
-/
namespace Formulary

namespace Parser

variable {α β : Type} {frame : Frame} {ahead : List Lexeme} {depth : Nat} {c : Cursor}

theorem pass_eq_ok {m : Mark} :
    pass frame m ⟨ahead, depth⟩ = .ok c ↔
      ∃ word rest, word.token = .mark m ∧ ahead = word :: rest ∧ c = ⟨rest, depth⟩ := by
  unfold pass
  split
  · rename_i start found stop rest hahead
    obtain rfl : ahead = ⟨start, .mark found, stop⟩ :: rest := hahead
    split <;> grind
  · rename_i hne
    simp only [reduceCtorEq, false_iff]
    rintro ⟨⟨start, token, stop⟩, rest, rfl, hahead, -⟩
    exact hne _ _ _ _ hahead

variable (frame) in
theorem pass_of_eq {m : Mark} {word : Lexeme} (h : word.token = .mark m) (rest : List Lexeme)
    (depth : Nat) : pass frame m ⟨word :: rest, depth⟩ = .ok ⟨rest, depth⟩ :=
  pass_eq_ok.2 ⟨word, rest, h, rfl, rfl⟩

variable (frame) in
/-- What begins with another token cannot be passed. -/
theorem pass_of_ne {m : Mark} {words : List Lexeme} {ts : List Token}
    (hwords : words.map Lexeme.token = ts) (h : ∃ t us, ts = t :: us ∧ t ≠ .mark m)
    (rest : List Lexeme) (depth : Nat) : ∃ e, pass frame m ⟨words ++ rest, depth⟩ = .error e := by
  cases hpass : pass frame m ⟨words ++ rest, depth⟩ with
  | error e => exact ⟨e, rfl⟩
  | ok c =>
    obtain ⟨t, us, rfl, ht⟩ := h
    obtain ⟨word, words, rfl, rfl, -⟩ := List.map_eq_cons_iff.1 hwords
    obtain ⟨word', rest', hword, hahead, -⟩ := pass_eq_ok.1 hpass
    cases hahead
    exact absurd hword ht

theorem enter_eq_ok :
    enter frame ⟨ahead, depth⟩ = .ok c ↔ depth < frame.maxDepth ∧ c = ⟨ahead, depth + 1⟩ := by
  unfold enter
  split <;> grind

theorem enter_of_lt (h : depth < frame.maxDepth) (ahead : List Lexeme) :
    enter frame ⟨ahead, depth⟩ = .ok ⟨ahead, depth + 1⟩ :=
  enter_eq_ok.2 ⟨h, rfl⟩

/-- Words that spell tokens with a token among them are divided at that token. -/
theorem exists_of_map_eq_append_cons {words : List Lexeme} {ts us : List Token} {t : Token}
    (h : words.map Lexeme.token = ts ++ t :: us) :
    ∃ before word after, words = before ++ word :: after ∧ before.map Lexeme.token = ts ∧
      word.token = t ∧ after.map Lexeme.token = us := by
  obtain ⟨before, later, rfl, hbefore, hlater⟩ := List.map_eq_append_iff.1 h
  obtain ⟨word, after, rfl, hword, hafter⟩ := List.map_eq_cons_iff.1 hlater
  exact ⟨before, word, after, rfl, hbefore, hword, hafter⟩

/-- Words that spell tokens between two others have words around them. -/
theorem exists_of_map_eq_enclosed {words : List Lexeme} {ts : List Token} {t u : Token}
    (h : words.map Lexeme.token = t :: (ts ++ [u])) :
    ∃ opening inside closing, words = opening :: (inside ++ [closing]) ∧ opening.token = t ∧
      inside.map Lexeme.token = ts ∧ closing.token = u := by
  obtain ⟨opening, later, rfl, hopening, hlater⟩ := List.map_eq_cons_iff.1 h
  obtain ⟨inside, closing, after, rfl, hinside, hclosing, hafter⟩ :=
    exists_of_map_eq_append_cons hlater
  obtain rfl := List.map_eq_nil_iff.1 hafter
  exact ⟨opening, inside, closing, rfl, hopening, hinside, hclosing⟩

/-- The next word is none of some marks. -/
def Stops (marks : List Mark) : List Lexeme → Prop
  | [] => True
  | word :: _ => ∀ m ∈ marks, word.token ≠ .mark m

theorem stops_nil (rest : List Lexeme) : Stops [] rest := by
  cases rest with
  | nil => trivial
  | cons word rest => simp [Stops]

theorem Stops.mono {marks more : List Mark} {rest : List Lexeme} (h : Stops more rest)
    (hsub : marks ⊆ more) : Stops marks rest := by
  cases rest with
  | nil => trivial
  | cons word rest => exact fun m hm => h m (hsub hm)

theorem stops_cons {marks : List Mark} {word : Lexeme} {rest : List Lexeme} {m : Mark}
    (hword : word.token = .mark m) (hm : m ∉ marks) : Stops marks (word :: rest) := by
  rintro n hn heq
  rw [hword, Token.mark.injEq] at heq
  exact hm (heq ▸ hn)

/-- At a depth, a phrase reads the words that spell `P`, where none of `marks` follows. -/
structure Reads (frame : Frame) (depth : Nat) (marks : List Mark)
    (P : List Token → α → Prop) (phrase : Phrase α) : Prop where
  sound : ∀ {ahead a c}, phrase ⟨ahead, depth⟩ = .ok (a, c) → ∃ words ts rest,
    ahead = words ++ rest ∧ c = ⟨rest, depth⟩ ∧ words.map Lexeme.token = ts ∧ P ts a
  complete : ∀ {ts a}, P ts a → ∀ {words}, words.map Lexeme.token = ts → ∀ rest, Stops marks rest →
    words.length + rest.length ≤ frame.wordCount →
    phrase ⟨words ++ rest, depth⟩ = .ok (a, ⟨rest, depth⟩)

/-- Lists with commas between their parts, and maybe one after them. -/
inductive Listed (P : List Token → α → Prop) : List Token → List α → Prop
  | nil : Listed P [] []
  | last {ts : List Token} {a : α} : P ts a → Listed P ts [a]
  | cons {ts us : List Token} {a : α} {as : List α} : P ts a → Listed P us as →
      Listed P (ts ++ .mark .comma :: us) (a :: as)

namespace Reads

variable {marks : List Mark} {P : List Token → α → Prop} {phrase : Phrase α}
  {close : Mark}

/-- What is read up to a closing mark is a list. -/
theorem phrasesUpTo_sound (h : Reads frame depth marks P phrase) {fuel : Nat}
    {as : List α} (hread : phrasesUpTo frame close phrase fuel ⟨ahead, depth⟩ = .ok (as, c)) :
    ∃ words word ts rest, ahead = words ++ word :: rest ∧ c = ⟨rest, depth⟩ ∧
      word.token = .mark close ∧ words.map Lexeme.token = ts ∧ Listed P ts as := by
  induction fuel generalizing ahead as with
  | zero => cases hread
  | succ fuel ih =>
    unfold phrasesUpTo at hread
    split at hread
    · cases hread
      obtain ⟨word, rest, hword, rfl, rfl⟩ := pass_eq_ok.1 ‹_›
      exact ⟨[], word, [], rest, rfl, rfl, hword, rfl, .nil⟩
    · rename_i hclose
      obtain ⟨⟨a, c₁⟩, hfirst, hthen⟩ := bind_eq_ok.1 hread
      obtain ⟨words, ts, ahead', rfl, rfl, hwords, ha⟩ := h.sound hfirst
      clear hread hclose hfirst
      dsimp only at hthen
      split at hthen
      · rename_i start stop rest
        obtain ⟨⟨others, c₂⟩, hothers, hthen⟩ := bind_eq_ok.1 hthen
        cases hthen
        obtain ⟨words', word, us, rest', rfl, rfl, hword, hwords', hus⟩ := ih hothers
        refine ⟨words ++ ⟨start, .mark .comma, stop⟩ :: words', word, _, rest', ?_, rfl, hword, ?_,
          .cons ha hus⟩
        · simp
        · simp [hwords, hwords']
      · obtain ⟨c₂, hpass, hthen⟩ := bind_eq_ok.1 hthen
        cases hthen
        obtain ⟨word, rest, hword, rfl, rfl⟩ := pass_eq_ok.1 hpass
        exact ⟨words, word, ts, rest, rfl, rfl, hword, hwords, .last ha⟩

/-- A list is read up to the mark that closes it, when no part of it begins with that mark and
neither that mark nor a comma continues a part. -/
theorem phrasesUpTo_complete (h : Reads frame depth marks P phrase) {fuel : Nat}
    {ts : List Token} {as : List α} (has : Listed P ts as)
    (hbegins : ∀ ts a, P ts a → ∃ t us, ts = t :: us ∧ t ≠ .mark close)
    (hcomma : .comma ∉ marks) (hclose : close ∉ marks) (hne : close ≠ .comma)
    {words rest : List Lexeme} {word : Lexeme} (hwords : words.map Lexeme.token = ts)
    (hword : word.token = .mark close) (hfuel : words.length ≤ fuel)
    (hcount : words.length + rest.length < frame.wordCount) :
    phrasesUpTo frame close phrase (fuel + 1) ⟨words ++ word :: rest, depth⟩ =
      .ok (as, ⟨rest, depth⟩) := by
  induction has generalizing fuel words with
  | nil =>
    obtain rfl := List.map_eq_nil_iff.1 hwords
    simp only [phrasesUpTo, List.nil_append, pass_of_eq frame hword]
  | @last ts a ha =>
    have hfirst := h.complete ha hwords (word :: rest) (stops_cons hword hclose)
      (by simp only [List.length_cons]; omega)
    obtain ⟨e, he⟩ := pass_of_ne frame hwords (hbegins ts a ha) (word :: rest) depth
    simp only [phrasesUpTo, he, hfirst, bind, Except.bind]
    split
    · rename_i heq
      cases heq
      exact absurd (Token.mark.inj hword).symm hne
    · rw [pass_of_eq frame hword]
      rfl
  | @cons ts us a as ha hus ih =>
    obtain ⟨before, comma, after, rfl, hbefore, hmark, hafter⟩ :=
      exists_of_map_eq_append_cons hwords
    simp only [List.length_append, List.length_cons] at hfuel hcount
    obtain ⟨fuel, rfl⟩ : ∃ n, fuel = n + 1 := ⟨fuel - 1, by omega⟩
    have hfirst := h.complete ha hbefore (comma :: (after ++ word :: rest))
      (stops_cons hmark hcomma) (by simp only [List.length_cons, List.length_append]; omega)
    obtain ⟨e, he⟩ := pass_of_ne frame hbefore (hbegins ts a ha) (comma :: (after ++ word :: rest))
      depth
    have hothers : phrasesUpTo frame close phrase (fuel + 1) ⟨after ++ word :: rest, depth⟩ =
        .ok (as, ⟨rest, depth⟩) := ih hafter (by omega) (by omega)
    obtain ⟨start, token, stop⟩ := comma
    obtain rfl : token = .mark .comma := hmark
    rw [List.append_assoc, List.cons_append, phrasesUpTo, he, hfirst]
    simp only [bind, Except.bind, hothers]
    rfl

end Reads

end Parser

end Formulary
