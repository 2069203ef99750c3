import Formulary.Proofs.Parser.Operand

/-!
# Operations are read exactly

Given a phrase that reads expressions, the parser reads operators in front of operands, powers and
all levels of binary operators as the grammar derives them. An operator of a level never continues
an operand of that level, as no mark belongs to two levels.

## Main statements

* `Parser.unary_reads`, `Parser.level_reads`, `Parser.operation_reads` : what the phrases read.
-/
namespace Formulary

namespace Grammar

variable (n : Nat) (levels : List (List (Mark × BinaryOp))) (ts : List Token) (e : Expr)

/-- Operators in front of an operand that nest no deeper than `n`. -/
def Unary.Within : Prop := ∃ d : Unary ts e, d.nesting ≤ n

def Operation.Within : Prop := ∃ d : Operation levels ts e, d.nesting ≤ n

end Grammar

namespace Parser

open Grammar

variable {frame : Frame} {expression tighter : Phrase Expr} {depth : Nat} {ts : List Token}
  {e : Expr} {ahead rest : List Lexeme} {c : Cursor}

theorem ReadsExpressions.mono {least more : Nat} (h : ReadsExpressions frame least expression)
    (hle : least ≤ more) : ReadsExpressions frame more expression :=
  fun depth hdepth => h depth (Nat.le_trans hle hdepth)

theorem unaryOp?_of_sign {op : UnaryOp} {m : Mark} {word : Lexeme} (h : Sign m op)
    (hword : word.token = .mark m) (rest : List Lexeme) :
    unaryOp? (word :: rest) = some (op, rest) := by
  obtain ⟨start, token, stop⟩ := word
  obtain rfl : token = .mark m := hword
  cases h <;> rfl

theorem exists_sign {op : UnaryOp} (h : unaryOp? ahead = some (op, rest)) :
    ∃ word m, Sign m op ∧ word.token = .mark m ∧ ahead = word :: rest := by
  unfold unaryOp? at h
  split at h <;> cases h
  · exact ⟨_, _, .minus, rfl, rfl⟩
  · exact ⟨_, _, .plus, rfl, rfl⟩
  · exact ⟨_, _, .not, rfl, rfl⟩

/-- What begins with an operand has no operator in front. -/
theorem unaryOp?_eq_none {words : List Lexeme} (hwords : words.map Lexeme.token = ts)
    (h : ∃ t us, ts = t :: us ∧ beginsOperand t) (rest : List Lexeme) :
    unaryOp? (words ++ rest) = none := by
  cases hop : unaryOp? (words ++ rest) with
  | none => rfl
  | some found =>
    obtain ⟨op, rest'⟩ := found
    obtain ⟨word, m, hsign, hword, hahead⟩ := exists_sign hop
    obtain ⟨t, us, rfl, ht⟩ := h
    obtain ⟨word', later, rfl, rfl, -⟩ := List.map_eq_cons_iff.1 hwords
    cases hahead
    rw [hword] at ht
    cases hsign <;> cases ht

/-- Operators in front of an operand are derived by the grammar. -/
theorem unary_sound (h : ReadsExpressions frame depth expression) {fuel : Nat}
    (hread : unary frame expression fuel ⟨ahead, depth⟩ = .ok (e, c)) :
    ∃ words ts rest, ahead = words ++ rest ∧ c = ⟨rest, depth⟩ ∧ words.map Lexeme.token = ts ∧
      Unary.Within (frame.maxDepth - depth) ts e := by
  induction fuel generalizing depth ahead e c with
  | zero =>
    obtain ⟨words, ts, rest, rfl, rfl, hwords, d, hd⟩ := (operand_reads h).sound hread
    exact ⟨words, ts, rest, rfl, rfl, hwords, .power (.operand d), hd⟩
  | succ fuel ih =>
    unfold unary at hread
    dsimp only at hread
    split at hread
    · rename_i op rest hop
      obtain ⟨word, m, hsign, hword, rfl⟩ := exists_sign hop
      obtain ⟨c₁, henter, hthen⟩ := bind_eq_ok.1 hread
      obtain ⟨hdepth, rfl⟩ := enter_eq_ok.1 henter
      obtain ⟨⟨inner, c₂⟩, hinner, hthen⟩ := bind_eq_ok.1 hthen
      cases hthen
      obtain ⟨words, ts, rest₁, rfl, rfl, hwords, d, hd⟩ :=
        ih (h.mono (Nat.le_add_right depth 1)) hinner
      exact ⟨word :: words, _, rest₁, rfl, rfl, by simp [hword, hwords], .sign hsign d,
        by simp only [Unary.nesting]; omega⟩
    · rename_i hnone
      obtain ⟨⟨base, c₁⟩, hbase, hthen⟩ := bind_eq_ok.1 hread
      obtain ⟨words, ts, ahead', rfl, rfl, hwords, b, hb⟩ := (operand_reads h).sound hbase
      dsimp only at hthen
      split at hthen
      · rename_i start stop rest
        obtain ⟨c₁, henter, hthen⟩ := bind_eq_ok.1 hthen
        obtain ⟨hdepth, rfl⟩ := enter_eq_ok.1 henter
        obtain ⟨⟨exponent, c₂⟩, hexponent, hthen⟩ := bind_eq_ok.1 hthen
        cases hthen
        obtain ⟨words', us, rest₁, rfl, rfl, hwords', d, hd⟩ :=
          ih (h.mono (Nat.le_add_right depth 1)) hexponent
        exact ⟨words ++ ⟨start, .mark .power, stop⟩ :: words', _, rest₁, by simp, rfl,
          by simp [hwords, hwords'], .power (.power b d),
          by simp only [Unary.nesting, Power.nesting]; omega⟩
      · cases hthen
        exact ⟨words, ts, ahead', rfl, rfl, hwords, .power (.operand b), hb⟩

/-- Operators in front of an operand are read when there is fuel for their words. -/
theorem unary_complete : ∀ {ts : List Token} {e : Expr} (d : Unary ts e) {depth : Nat},
    ReadsExpressions frame depth expression → d.nesting ≤ frame.maxDepth - depth →
    ∀ {words : List Lexeme} (rest : List Lexeme) {fuel : Nat}, words.map Lexeme.token = ts →
    Stops (operationMarks []) rest → words.length + rest.length ≤ frame.wordCount →
    words.length ≤ fuel →
    unary frame expression fuel ⟨words ++ rest, depth⟩ = .ok (e, ⟨rest, depth⟩)
  | _, _, .power (.operand p), depth, h, hd, words, rest, fuel, hwords, hstops, hcount, hfuel => by
    have hoperand := (operand_reads h).complete ⟨p, hd⟩ hwords rest
      (hstops.mono (List.subset_cons_self _ _)) hcount
    cases fuel with
    | zero => exact hoperand
    | succ fuel =>
      unfold unary
      simp only [unaryOp?_eq_none hwords p.begins, hoperand, bind, Except.bind]
      split
      · exact absurd rfl (hstops .power List.mem_cons_self)
      · rfl
  | _, _, .power (.power b d), depth, h, hd, words, rest, fuel, hwords, hstops, hcount, hfuel => by
    obtain ⟨before, ⟨start, token, stop⟩, after, rfl, hbefore, htoken, hafter⟩ :=
      exists_of_map_eq_append_cons hwords
    simp only [List.length_cons, List.length_append] at hcount hfuel
    simp only [Unary.nesting, Power.nesting] at hd
    obtain ⟨fuel, rfl⟩ : ∃ n, fuel = n + 1 := ⟨fuel - 1, by omega⟩
    have hdepth : depth < frame.maxDepth := by omega
    have hbase := (operand_reads h).complete ⟨b, by omega⟩ hbefore (_ :: (after ++ rest))
      (stops_cons htoken (by decide)) (by simp only [List.length_cons, List.length_append]; omega)
    have hexponent := unary_complete d (h.mono (Nat.le_add_right depth 1)) (by omega) rest
      hafter hstops (by omega) (show after.length ≤ fuel by omega)
    obtain rfl : token = _ := htoken
    rw [List.append_assoc, List.cons_append, unary]
    simp only [unaryOp?_eq_none hbefore b.begins, hbase, bind, Except.bind, enter_of_lt hdepth,
      hexponent, leave]
    rfl
  | _, _, .sign hsign d, depth, h, hd, words, rest, fuel, hwords, hstops, hcount, hfuel => by
    obtain ⟨word, words, rfl, hword, hlater⟩ := List.map_eq_cons_iff.1 hwords
    simp only [List.length_cons] at hcount hfuel
    simp only [Unary.nesting] at hd
    obtain ⟨fuel, rfl⟩ : ∃ n, fuel = n + 1 := ⟨fuel - 1, by omega⟩
    have hdepth : depth < frame.maxDepth := by omega
    have hinner := unary_complete d (h.mono (Nat.le_add_right depth 1)) (by omega) rest hlater
      hstops (by omega) (Nat.le_of_succ_le_succ hfuel)
    rw [List.cons_append, unary]
    simp only [unaryOp?_of_sign hsign hword, enter_of_lt hdepth, bind, Except.bind, hinner, leave]
    rfl

theorem unary_reads (h : ReadsExpressions frame depth expression) :
    Reads frame depth (operationMarks []) (Unary.Within (frame.maxDepth - depth))
      (unary frame expression frame.wordCount) where
  sound := unary_sound h
  complete := by
    rintro ts e ⟨d, hd⟩ words hwords rest hstops hcount
    exact unary_complete d h hd rest hwords hstops hcount (by omega)

variable {ops : List (Mark × BinaryOp)} {levels : List (List (Mark × BinaryOp))}

theorem exists_operator {op : BinaryOp} (h : binaryOp? ops ahead = some (op, rest)) :
    ∃ word m, (m, op) ∈ ops ∧ word.token = .mark m ∧ ahead = word :: rest := by
  unfold binaryOp? at h
  split at h
  · rename_i m _ later
    obtain ⟨found, hlookup, heq⟩ := Option.map_eq_some_iff.1 h
    cases heq
    obtain ⟨before, after, rfl, -⟩ := List.lookup_eq_some_iff.1 hlookup
    exact ⟨_, m, by simp, rfl, rfl⟩
  · cases h

/-- The marks of an operator table find their own operators when they are all different. -/
theorem binaryOp?_of_mem {m : Mark} {op : BinaryOp} {word : Lexeme} (hnodup : (ops.map (·.1)).Nodup)
    (h : (m, op) ∈ ops) (hword : word.token = .mark m) (rest : List Lexeme) :
    binaryOp? ops (word :: rest) = some (op, rest) := by
  obtain ⟨before, after, rfl⟩ := List.append_of_mem h
  have hlookup : (before ++ (m, op) :: after).lookup m = some op := by
    refine List.lookup_eq_some_iff.2 ⟨before, after, rfl, fun p hp => ?_⟩
    simp only [List.map_append, List.map_cons, List.nodup_append] at hnodup
    have hne := hnodup.2.2 p.1 (List.mem_map_of_mem hp) m List.mem_cons_self
    simpa using Ne.symm hne
  obtain ⟨start, token, stop⟩ := word
  obtain rfl : token = .mark m := hword
  simp [binaryOp?, hlookup]

theorem binaryOp?_of_stops (h : Stops (ops.map (·.1)) rest) : binaryOp? ops rest = none := by
  cases hop : binaryOp? ops rest with
  | none => rfl
  | some found =>
    obtain ⟨op, later⟩ := found
    obtain ⟨word, m, hm, hword, rfl⟩ := exists_operator hop
    exact absurd hword (h m (List.mem_map_of_mem hm))

/-- What reads the operands of a level, at all depths from some depth on. -/
def ReadsOperations (frame : Frame) (least : Nat) (levels : List (List (Mark × BinaryOp)))
    (phrase : Phrase Expr) : Prop :=
  ∀ depth, least ≤ depth →
    Reads frame depth (operationMarks levels) (Operation.Within (frame.maxDepth - depth) levels)
      phrase

/-- Operators after a left operand make a longer operation. -/
theorem fold_sound (h : ReadsOperations frame depth levels tighter) {fuel : Nat} {ts : List Token}
    {left : Expr} (d : Operation (ops :: levels) ts left) (hd : d.nesting ≤ frame.maxDepth - depth)
    (hread : fold frame ops tighter fuel d.chained left ⟨ahead, depth + d.chained⟩ = .ok (e, c)) :
    ∃ words us rest, ahead = words ++ rest ∧ c = ⟨rest, depth⟩ ∧ words.map Lexeme.token = us ∧
      Operation.Within (frame.maxDepth - depth) (ops :: levels) (ts ++ us) e := by
  induction fuel generalizing ts left ahead with
  | zero =>
    cases hread
    exact ⟨[], [], ahead, rfl, by simp [leave], rfl, by rw [List.append_nil]; exact ⟨d, hd⟩⟩
  | succ fuel ih =>
    unfold fold at hread
    dsimp only at hread
    split at hread
    · cases hread
      exact ⟨[], [], ahead, rfl, by simp [leave], rfl, by rw [List.append_nil]; exact ⟨d, hd⟩⟩
    · rename_i op rest hop
      obtain ⟨word, m, hm, hword, rfl⟩ := exists_operator hop
      obtain ⟨c₁, henter, hthen⟩ := bind_eq_ok.1 hread
      obtain ⟨hdepth, rfl⟩ := enter_eq_ok.1 henter
      obtain ⟨⟨right, c₂⟩, hright, hthen⟩ := bind_eq_ok.1 hthen
      obtain ⟨words, rs, rest₁, rfl, rfl, rfl, r, hr⟩ := (h _ (by omega)).sound hright
      let d' : Operation (ops :: levels) _ (.binary op left right) := .binary d hm r
      have hd' : d'.nesting ≤ frame.maxDepth - depth := by
        simp only [d', Operation.nesting]
        omega
      obtain ⟨words', us, rest₂, rfl, rfl, rfl, hwithin⟩ := ih d' hd' hthen
      exact ⟨word :: (words ++ words'), _, rest₂, by simp, rfl, rfl,
        by simpa [hword] using hwithin⟩

/-- A level reads an operation as far as it goes; then its chain goes on, with fuel for all that
follows. -/
theorem fold_complete (h : ReadsOperations frame depth levels tighter)
    (hops : (ops.map (·.1)).Nodup) (hnew : ∀ m ∈ ops.map (·.1), m ∉ operationMarks levels) :
    ∀ {all : List (List (Mark × BinaryOp))} {ts : List Token} {e : Expr} (d : Operation all ts e),
      all = ops :: levels → d.nesting ≤ frame.maxDepth - depth →
      ∀ {words : List Lexeme} (rest : List Lexeme), words.map Lexeme.token = ts →
      Stops (operationMarks levels) rest → words.length + rest.length ≤ frame.wordCount →
      ∃ fuel, rest.length ≤ fuel ∧
        level frame ops tighter ⟨words ++ rest, depth⟩ =
          fold frame ops tighter fuel d.chained e ⟨rest, depth + d.chained⟩
  | _, _, _, .tighter d, hall, hd, words, rest, hwords, hstops, hcount => by
    cases hall
    have hleft := (h depth (Nat.le_refl _)).complete ⟨d, hd⟩ hwords rest hstops hcount
    exact ⟨frame.wordCount, by omega, by rw [level, hleft]; rfl⟩
  | _, _, _, .binary l hm r, hall, hd, words, rest, hwords, hstops, hcount => by
    cases hall
    simp only [Operation.nesting] at hd
    obtain ⟨before, word, after, rfl, hbefore, hword, hafter⟩ :=
      exists_of_map_eq_append_cons hwords
    simp only [List.length_append, List.length_cons] at hcount
    obtain ⟨fuel, hfuel, hlevel⟩ := fold_complete h hops hnew l rfl (by omega)
      (word :: (after ++ rest)) hbefore (stops_cons hword (hnew _ (List.mem_map_of_mem hm)))
      (by simp only [List.length_cons, List.length_append]; omega)
    simp only [List.length_cons, List.length_append] at hfuel
    obtain ⟨fuel, rfl⟩ : ∃ n, fuel = n + 1 := ⟨fuel - 1, by omega⟩
    have hdepth : depth + l.chained < frame.maxDepth := by omega
    have hright := (h (depth + l.chained + 1) (by omega)).complete ⟨r, by omega⟩ hafter rest hstops
      (by omega)
    refine ⟨fuel, by omega, ?_⟩
    rw [List.append_assoc, List.cons_append, hlevel]
    simp only [fold, binaryOp?_of_mem hops hm hword, enter_of_lt hdepth, bind, Except.bind, hright]
    rfl

theorem operationMarks_cons :
    operationMarks (ops :: levels) = ops.map (·.1) ++ operationMarks levels := by
  simp [operationMarks]

/-- A level is read as the grammar derives it when its marks belong to no other level. -/
theorem level_reads (h : ReadsOperations frame depth levels tighter)
    (hnodup : (operationMarks (ops :: levels)).Nodup) :
    Reads frame depth (operationMarks (ops :: levels))
      (Operation.Within (frame.maxDepth - depth) (ops :: levels)) (level frame ops tighter) where
  sound := by
    intro ahead e c hread
    obtain ⟨⟨left, c₁⟩, hleft, hthen⟩ := bind_eq_ok.1 hread
    obtain ⟨words, ts, rest, rfl, rfl, hwords, d, hd⟩ := (h depth (Nat.le_refl _)).sound hleft
    let d' : Operation (ops :: levels) ts left := .tighter d
    have hd' : d'.nesting ≤ frame.maxDepth - depth := by simpa only [d', Operation.nesting] using hd
    obtain ⟨words', us, rest', rfl, rfl, hwords', hwithin⟩ := fold_sound h d' hd' hthen
    exact ⟨words ++ words', _, rest', by simp, rfl, by simp [hwords, hwords'], hwithin⟩
  complete := by
    rintro ts e ⟨d, hd⟩ words hwords rest hstops hcount
    rw [operationMarks_cons] at hnodup hstops
    obtain ⟨hops, -, hnew⟩ := List.nodup_append.1 hnodup
    obtain ⟨fuel, -, hlevel⟩ := fold_complete h hops (fun m hm hm' => hnew m hm m hm' rfl) d rfl hd
      rest hwords (hstops.mono (List.subset_append_right _ _)) hcount
    rw [hlevel]
    cases fuel with
    | zero => simp [fold, leave]
    | succ fuel =>
      simp [fold, binaryOp?_of_stops (hstops.mono (List.subset_append_left _ _)), leave]

/-- All levels are read as the grammar derives them when their marks are all different. -/
theorem operation_reads (h : ReadsExpressions frame depth expression)
    (levels : List (List (Mark × BinaryOp))) (hnodup : (operationMarks levels).Nodup) :
    Reads frame depth (operationMarks levels) (Operation.Within (frame.maxDepth - depth) levels)
      (operation frame expression levels) := by
  induction levels generalizing depth with
  | nil =>
    refine ⟨fun hread => ?_, ?_⟩
    · obtain ⟨words, ts, rest, hahead, hc, hwords, d, hd⟩ := (unary_reads h).sound hread
      exact ⟨words, ts, rest, hahead, hc, hwords, .unary d, hd⟩
    · rintro ts e ⟨d, hd⟩
      cases d with
      | unary d => exact (unary_reads h).complete ⟨d, hd⟩
  | cons ops levels ih =>
    refine level_reads (fun depth' hdepth => ih (h.mono hdepth) ?_) hnodup
    rw [operationMarks_cons] at hnodup
    exact (List.nodup_append.1 hnodup).2.1

end Parser

end Formulary
