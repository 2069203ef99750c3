import Mathlib
import Formulary.Proofs.Parser.Machine
import Formulary.Proofs.Parser.Operation

/-!
# The steps of a parser that counts

What the steps of the machine come to from a position it may stand at, and when an action of the
machine does what a phrase of the parser does: from the words that are left it reads the same, or it
refuses them for the same reason.

## Main definitions

* `Machine.outcome` : what comes of an action from a position;
* `Machine.Follows` : an action does what a reading does;
* `Machine.Mirrors` : an action reads what a phrase reads, keeps the depth and passes a word.

## Main statements

* `Machine.Follows.bind` : what goes on from where actions and readings agree;
* `Machine.follows_peek`, `Machine.follows_advance`, `Machine.follows_pass`,
  `Machine.follows_enter`, `Machine.follows_leave_return` : one step more;
* `Machine.list_follows` : a loop over phrases between commas reads the list of them.
-/
namespace Formulary.Parser.Machine

variable {α β γ δ : Type}

/-- What comes of an action from a position; `none` when its steps have no end. -/
def outcome (m : Action α) (s : Position) : Option (Except Stop (α × Position)) :=
  (m.run s).run

section Outcome

variable {m : Action α} {f : α → Action β} {s s' : Position} {a : α} {e : Stop}

theorem outcome_pure (a : α) (s : Position) : outcome (pure a) s = some (.ok (a, s)) := rfl

theorem outcome_get (s : Position) : outcome get s = some (.ok (s, s)) := rfl

theorem outcome_modify (g : Position → Position) (s : Position) :
    outcome (modify g) s = some (.ok ((), g s)) := rfl

theorem outcome_bind_of_ok (h : outcome m s = some (.ok (a, s'))) :
    outcome (m >>= f) s = outcome (f a) s' := by
  simp only [outcome, StateT.run_bind, ExceptT.run_bind] at h ⊢
  rw [h]
  rfl

theorem outcome_bind_of_error (h : outcome m s = some (.error e)) :
    outcome (m >>= f) s = some (.error e) := by
  simp only [outcome, StateT.run_bind, ExceptT.run_bind] at h ⊢
  rw [h]
  rfl

end Outcome

def Input.frame (input : Input) : Frame where
  maxDepth := input.maxDepth
  endOffset := input.endOffset
  wordCount := input.words.length

/-- An action does what a reading does: it yields something that corresponds to what is read, or it
refuses the words for the same reason. -/
def Follows (R : α × Position → β → Prop) (m : Action α) (s : Position) :
    Except FormulaError β → Prop
  | .ok b => ∃ p, outcome m s = some (.ok p) ∧ R p b
  | .error e => outcome m s = some (.error (.refused e))

/-- A machine has come to where the words that are left begin, from `least` on and at a depth. -/
structure Arrives (input : Input) (least depth : Nat) (p : α × Position) (b : α × Cursor) :
    Prop where
  value_eq : p.1 = b.1
  cursor_eq : b.2 = ⟨input.words.drop p.2.place, p.2.depth⟩
  depth_eq : p.2.depth = depth
  least_le : least ≤ p.2.place
  place_le : p.2.place ≤ input.words.length

/-- From a depth on, an action reads what a phrase reads: at least one word, and no more than there
are. It leaves the depth as it was. -/
def Mirrors (input : Input) (least : Nat) (m : Action α) (phrase : Phrase α) : Prop :=
  ∀ place depth, place ≤ input.words.length → least ≤ depth → depth ≤ input.maxDepth →
    Follows (Arrives input (place + 1) depth) m ⟨place, depth⟩
      (phrase ⟨input.words.drop place, depth⟩)

variable {input : Input} {R : γ × Position → δ → Prop} {place depth least : Nat}

namespace Follows

variable {m : Action α} {s s' : Position} {r : Except FormulaError β}

/-- A step of the machine alone. -/
theorem after {a : α} {f : α → Action γ} {r : Except FormulaError δ}
    (h : outcome m s = some (.ok (a, s'))) (hf : Follows R (f a) s' r) :
    Follows R (m >>= f) s r := by
  cases r with
  | ok b =>
    obtain ⟨p, hp, hR⟩ := hf
    exact ⟨p, (outcome_bind_of_ok h).trans hp, hR⟩
  | error e => exact (outcome_bind_of_ok h).trans hf

theorem bind {R' : α × Position → β → Prop} {f : α → Action γ} {g : β → Except FormulaError δ}
    (h : Follows R' m s r) (hf : ∀ a s' b, R' (a, s') b → Follows R (f a) s' (g b)) :
    Follows R (m >>= f) s (r >>= g) := by
  cases r with
  | ok b =>
    obtain ⟨⟨a, s'⟩, hp, hR⟩ := h
    exact .after hp (hf a s' b hR)
  | error e => exact outcome_bind_of_error h

theorem mono {R' : γ × Position → δ → Prop} {m : Action γ} {s : Position}
    {r : Except FormulaError δ} (h : Follows R' m s r) (hR : ∀ p b, R' p b → R p b) :
    Follows R m s r := by
  cases r with
  | ok b =>
    obtain ⟨p, hp, hb⟩ := h
    exact ⟨p, hp, hR p b hb⟩
  | error e => exact h

/-- What has been read is put together. -/
theorem returns {R' : γ × Position → β → Prop} {m : Action γ} {g : β → δ} (h : Follows R' m s r)
    (hg : ∀ p b, R' p b → R p (g b)) : Follows R m s (r >>= fun b => pure (g b)) := by
  cases r with
  | ok b =>
    obtain ⟨p, hp, hR⟩ := h
    exact ⟨p, hp, hg p b hR⟩
  | error e => exact h

/-- What goes on from where a phrase was read. -/
theorem andThen {f : α → Action γ} {g : α × Cursor → Except FormulaError δ}
    {r : Except FormulaError (α × Cursor)} (h : Follows (Arrives input least depth) m s r)
    (hf : ∀ a place, least ≤ place → place ≤ input.words.length →
      Follows R (f a) ⟨place, depth⟩ (g (a, ⟨input.words.drop place, depth⟩))) :
    Follows R (m >>= f) s (r >>= g) := by
  refine h.bind fun a s' b hb => ?_
  obtain ⟨a', c⟩ := b
  obtain ⟨rfl, rfl, rfl, hleast, hplace⟩ := hb
  exact hf a s'.place hleast hplace

end Follows

theorem Arrives.mono {more : Nat} {p : α × Position} {b : α × Cursor}
    (h : Arrives input more depth p b) (hle : least ≤ more) : Arrives input least depth p b :=
  { h with least_le := Nat.le_trans hle h.least_le }

/-! ### Steps -/

section Steps

variable {m : Mark} {marks : List Mark} {word : Lexeme} {rest : List Lexeme} {what : Expectation}
  {r : Except FormulaError δ}

/-- There is a next word when there are words left. -/
theorem lt_of_drop_ne_nil (h : input.words.drop place ≠ []) : place < input.words.length :=
  Nat.lt_of_not_le fun hle => h (List.drop_eq_nil_of_le hle)

theorem lt_of_drop_eq_cons (h : input.words.drop place = word :: rest) :
    place < input.words.length :=
  lt_of_drop_ne_nil (h ▸ List.cons_ne_nil word rest)

theorem drop_succ_of_drop_eq_cons (h : input.words.drop place = word :: rest) :
    input.words.drop (place + 1) = rest := by
  rw [← List.tail_drop, h]
  rfl

theorem outcome_peek (hs : Position.Within input ⟨place, depth⟩) :
    outcome input.peek ⟨place, depth⟩ =
      some (.ok ((input.words.drop place).head?, ⟨place, depth⟩)) := by
  rw [List.head?_drop]
  simp [Input.peek, outcome, hs]

theorem follows_peek {f : Option Lexeme → Action γ} (hs : Position.Within input ⟨place, depth⟩)
    (hf : Follows R (f (input.words.drop place).head?) ⟨place, depth⟩ r) :
    Follows R (input.peek >>= f) ⟨place, depth⟩ r :=
  .after (outcome_peek hs) hf

def beginsWith (marks : List Mark) (ahead : List Lexeme) : Bool :=
  ahead.head?.any fun word => marks.any fun m => word.token = .mark m

theorem outcome_nextIs (hs : Position.Within input ⟨place, depth⟩) :
    outcome (input.nextIs marks) ⟨place, depth⟩ =
      some (.ok (beginsWith marks (input.words.drop place), ⟨place, depth⟩)) := by
  rw [Input.nextIs, outcome_bind_of_ok (outcome_peek hs)]
  rfl

theorem follows_nextIs {f : Bool → Action γ} (hs : Position.Within input ⟨place, depth⟩)
    (hf : Follows R (f (beginsWith marks (input.words.drop place))) ⟨place, depth⟩ r) :
    Follows R (input.nextIs marks >>= f) ⟨place, depth⟩ r :=
  .after (outcome_nextIs hs) hf

theorem follows_advance {f : Option Lexeme → Action γ} (hdepth : depth ≤ input.maxDepth)
    (hplace : place < input.words.length)
    (hf : Follows R (f (input.words.drop place).head?) ⟨place + 1, depth⟩ r) :
    Follows R (input.advance >>= f) ⟨place, depth⟩ r := by
  refine .after ?_ hf
  have hs : Position.Within input ⟨place, depth⟩ := ⟨Nat.le_of_lt hplace, hdepth⟩
  rw [Input.advance, outcome_bind_of_ok (outcome_peek hs), List.head?_drop,
    List.getElem?_eq_getElem hplace]
  rfl

theorem outcome_stepBack : outcome stepBack ⟨place + 1, depth⟩ = some (.ok ((), ⟨place, depth⟩)) :=
  rfl

/-- A word is refused in the same way, whatever would have come after it. -/
theorem outcome_refuse {ahead : List Lexeme} (hs : Position.Within input ⟨place, depth⟩)
    (h : input.words.drop place = ahead) :
    outcome (input.refuse what : Action γ) ⟨place, depth⟩ =
      some (.error (.refused (unexpected input.frame what ⟨ahead, depth⟩))) := by
  rw [Input.refuse, outcome_bind_of_ok (outcome_peek hs), h, unexpected]
  cases ahead <;> rfl

theorem beginsWith_eq_true (h : input.words.drop place = word :: rest)
    (hword : word.token = .mark m) (hm : m ∈ marks) :
    beginsWith marks (input.words.drop place) = true := by
  simpa [beginsWith, h, hword] using hm

theorem beginsWith_eq_false {ahead : List Lexeme}
    (h : ∀ m ∈ marks, ∀ start stop rest, ahead ≠ ⟨start, .mark m, stop⟩ :: rest) :
    beginsWith marks ahead = false := by
  cases ahead with
  | nil => rfl
  | cons word rest =>
    obtain ⟨start, token, stop⟩ := word
    simp only [beginsWith, List.head?_cons, Option.any_some, List.any_eq_false,
      decide_eq_true_eq]
    rintro m hm rfl
    exact h m hm start stop rest rfl

/-- A mark is passed when the words begin with it. -/
theorem pass_eq (frame : Frame) (m : Mark) (ahead : List Lexeme) (depth : Nat) :
    Parser.pass frame m ⟨ahead, depth⟩ =
      if beginsWith [m] ahead then .ok ⟨ahead.tail, depth⟩
      else .error (unexpected frame (.mark m) ⟨ahead, depth⟩) := by
  cases ahead with
  | nil => rfl
  | cons word rest =>
    obtain ⟨start, token, stop⟩ := word
    cases token <;> simp [Parser.pass, beginsWith]

theorem lt_of_beginsWith (h : beginsWith marks (input.words.drop place)) :
    place < input.words.length :=
  lt_of_drop_ne_nil fun hnil => by
    rw [hnil] at h
    cases h

/-- The next word is one of the marks. -/
theorem follows_nextIs_of_mem {f : Bool → Action γ} (hdepth : depth ≤ input.maxDepth)
    (hahead : input.words.drop place = word :: rest) (hword : word.token = .mark m)
    (hm : m ∈ marks) (hf : Follows R (f true) ⟨place, depth⟩ r) :
    Follows R (input.nextIs marks >>= f) ⟨place, depth⟩ r := by
  refine follows_nextIs ⟨Nat.le_of_lt (lt_of_drop_eq_cons hahead), hdepth⟩ ?_
  rwa [beginsWith_eq_true hahead hword hm]

/-- The next word is none of the marks. -/
theorem follows_nextIs_of_ne {f : Bool → Action γ} (hs : Position.Within input ⟨place, depth⟩)
    (hne : ∀ m ∈ marks, ∀ start stop rest, input.words.drop place ≠ ⟨start, .mark m, stop⟩ :: rest)
    (hf : Follows R (f false) ⟨place, depth⟩ r) :
    Follows R (input.nextIs marks >>= f) ⟨place, depth⟩ r := by
  refine follows_nextIs hs ?_
  rwa [beginsWith_eq_false hne]

theorem outcome_pass (hs : Position.Within input ⟨place, depth⟩)
    (h : beginsWith [m] (input.words.drop place)) :
    outcome (input.pass m) ⟨place, depth⟩ = some (.ok ((), ⟨place + 1, depth⟩)) := by
  rw [Input.pass, outcome_bind_of_ok (outcome_nextIs hs), h]
  rfl

theorem follows_pass {f : Unit → Action γ} {g : Cursor → Except FormulaError δ}
    (hs : Position.Within input ⟨place, depth⟩)
    (hf : place < input.words.length →
      Follows R (f ()) ⟨place + 1, depth⟩ (g ⟨input.words.drop (place + 1), depth⟩)) :
    Follows R (input.pass m >>= f) ⟨place, depth⟩
      (Parser.pass input.frame m ⟨input.words.drop place, depth⟩ >>= g) := by
  rw [pass_eq]
  cases hbegins : beginsWith [m] (input.words.drop place) with
  | false =>
    rw [Input.pass, bind_assoc]
    refine follows_nextIs hs ?_
    rw [hbegins]
    exact outcome_bind_of_error (outcome_refuse hs rfl)
  | true =>
    rw [List.tail_drop]
    exact .after (outcome_pass hs hbegins) (hf (lt_of_beginsWith hbegins))

theorem outcome_enter_of_lt (hdepth : depth < input.maxDepth) :
    outcome input.enter ⟨place, depth⟩ = some (.ok ((), ⟨place, depth + 1⟩)) := by
  simp [Input.enter, outcome, Nat.not_le.2 hdepth]

theorem outcome_enter_of_le (hdepth : input.maxDepth ≤ depth) :
    outcome input.enter ⟨place, depth⟩ =
      some (.error (.refused (.tooDeep input.maxDepth))) := by
  simp [Input.enter, outcome, hdepth]

theorem follows_enter {f : Unit → Action γ} {g : Cursor → Except FormulaError δ}
    {ahead : List Lexeme}
    (hf : depth < input.maxDepth → Follows R (f ()) ⟨place, depth + 1⟩ (g ⟨ahead, depth + 1⟩)) :
    Follows R (input.enter >>= f) ⟨place, depth⟩
      (Parser.enter input.frame ⟨ahead, depth⟩ >>= g) := by
  by_cases hdepth : depth < input.maxDepth
  · rw [enter_of_lt hdepth]
    exact .after (outcome_enter_of_lt hdepth) (hf hdepth)
  · have hrefused : Parser.enter input.frame ⟨ahead, depth⟩ = .error (.tooDeep input.maxDepth) :=
      if_neg hdepth
    rw [hrefused]
    exact outcome_bind_of_error (outcome_enter_of_le (Nat.not_lt.1 hdepth))

theorem outcome_leave {steps : Nat} (hsteps : steps ≤ depth) :
    outcome (leave steps) ⟨place, depth⟩ = some (.ok ((), ⟨place, depth - steps⟩)) := by
  simp [leave, outcome, Nat.not_lt.2 hsteps]

theorem follows_return (a : α) (hleast : least ≤ place) (hplace : place ≤ input.words.length) :
    Follows (Arrives input least depth) (pure a) ⟨place, depth⟩
      (.ok (a, ⟨input.words.drop place, depth⟩)) :=
  ⟨_, outcome_pure _ _, rfl, rfl, rfl, hleast, hplace⟩

/-- What has been charged is released at the end. -/
theorem follows_leave_return {steps : Nat} (a : α) (hleast : least ≤ place)
    (hplace : place ≤ input.words.length) :
    Follows (Arrives input least depth) (leave steps >>= fun _ => pure a) ⟨place, depth + steps⟩
      (.ok (a, Parser.leave steps ⟨input.words.drop place, depth + steps⟩)) := by
  refine .after (outcome_leave (Nat.le_add_left ..)) ?_
  rw [Parser.leave, Nat.add_sub_cancel]
  exact follows_return a hleast hplace

end Steps

/-! ### Lists -/

/-- A loop over phrases between commas reads what the list of them reads, when there is fuel for the
words that are left. -/
theorem list_follows {item : Action α} {phrase : Phrase α} {loop : List α → Action (List α)}
    {close : Mark} (hitem : Mirrors input least item phrase)
    (hloop : ∀ found, loop found = do
      if ← input.nextIs [close] then
        input.pass close
        return found
      else
        let first ← item
        if ← input.nextIs [.comma] then
          let _ ← input.advance
          loop (found ++ [first])
        else
          input.pass close
          return found ++ [first])
    {fuel : Nat} (found : List α) (hplace : place ≤ input.words.length) (hleast : least ≤ depth)
    (hdepth : depth ≤ input.maxDepth) (hfuel : input.words.length - place < fuel) :
    Follows (fun p b => Arrives input (place + 1) depth p (found ++ b.1, b.2)) (loop found)
      ⟨place, depth⟩
      (phrasesUpTo input.frame close phrase fuel ⟨input.words.drop place, depth⟩) := by
  induction fuel generalizing place found with
  | zero => omega
  | succ fuel ih =>
    have hs : Position.Within input ⟨place, depth⟩ := ⟨hplace, hdepth⟩
    rw [hloop, phrasesUpTo, pass_eq]
    refine follows_nextIs hs ?_
    cases hbegins : beginsWith [close] (input.words.drop place) with
    | true =>
      refine .after (outcome_pass hs hbegins) ⟨_, outcome_pure _ _, ?_⟩
      dsimp only
      rw [List.tail_drop, List.append_nil]
      exact ⟨rfl, rfl, rfl, Nat.le_refl _, lt_of_beginsWith hbegins⟩
    | false =>
      refine (hitem place depth hplace hleast hdepth).andThen fun first place' hlt hplace' => ?_
      dsimp only
      split
      · rename_i start stop rest hahead
        have hlt' := lt_of_drop_eq_cons hahead
        refine follows_nextIs_of_mem hdepth hahead rfl List.mem_cons_self ?_
        refine follows_advance hdepth hlt' ?_
        rw [← drop_succ_of_drop_eq_cons hahead]
        refine (ih (found ++ [first]) hlt' (by omega)).returns fun p b hb => ?_
        rw [List.append_assoc] at hb
        exact hb.mono (by omega)
      · rename_i hne
        have hs' : Position.Within input ⟨place', depth⟩ := ⟨hplace', hdepth⟩
        refine follows_nextIs_of_ne hs' (by simpa using hne) ?_
        refine follows_pass hs' fun hlt' => ⟨_, outcome_pure _ _, ?_⟩
        exact ⟨rfl, rfl, rfl, Nat.le_succ_of_le hlt, hlt'⟩

end Formulary.Parser.Machine
