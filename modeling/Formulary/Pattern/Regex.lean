import Formulary.Text.Property

/-!
# Regular expressions and matching

A regular expression matches parts of a text. `ends` computes, from where a match may start, all
places where it may end; the places are kept as ascending lists, so that nothing is computed
twice however the expression repeats itself.

## Main definitions

* `Anchor` : a condition on the neighbours of a place;
* `Regex` : a regular expression;
* `Regex.ends` : the places where a match may end;
* `Regex.isMatch` : whether some part of a text matches.
-/
namespace Formulary.Pattern

open Text (CodeSet)

/-- Where a place stands to the words around it. -/
inductive WordSide
  | boundary | noBoundary | start | stop | startHalf | stopHalf
deriving DecidableEq, Repr

/-- A condition on the neighbours of a place. Lines end at line feeds, and also at carriage returns
where these count; words are those of Unicode or those of ASCII. -/
inductive Anchor
  | textStart | textEnd
  | lineStart (carriageReturn : Bool)
  | lineEnd (carriageReturn : Bool)
  | word (side : WordSide) (unicode : Bool)
deriving DecidableEq, Repr

def isAsciiWord (c : Char) : Bool := c.isAlphanum || c == '_'

def wordAt (unicode : Bool) (c : Option Char) : Bool :=
  match c with
  | none => false
  | some c => if unicode then Text.Property.word.has c.toNat else isAsciiWord c

/-- Whether the neighbours of a place satisfy a condition. -/
def Anchor.holds (anchor : Anchor) (before after : Option Char) : Bool :=
  match anchor with
  | .textStart => before.isNone
  | .textEnd => after.isNone
  | .lineStart carriageReturn =>
    before.isNone || before == some '\n'
      || (carriageReturn && before == some '\r' && after != some '\n')
  | .lineEnd carriageReturn =>
    after.isNone ||
      if carriageReturn then after == some '\r' || (after == some '\n' && before != some '\r')
      else after == some '\n'
  | .word side unicode =>
    let wordBefore := wordAt unicode before
    let wordAfter := wordAt unicode after
    match side with
    | .boundary => wordBefore != wordAfter
    | .noBoundary => wordBefore == wordAfter
    | .start => !wordBefore && wordAfter
    | .stop => wordBefore && !wordAfter
    | .startHalf => !wordBefore
    | .stopHalf => !wordAfter

/-- What the members of a set are: characters, or bytes, which are those of ASCII. -/
inductive Alphabet
  | characters | bytes
deriving DecidableEq, Repr

/-- A regular expression. A group is told from what it holds, and a captured one by the place where
it is written. -/
inductive Regex
  | empty
  | char (c : Char)
  | set (alphabet : Alphabet) (codes : CodeSet)
  | look (anchor : Anchor)
  | seq (first second : Regex)
  | alt (left right : Regex)
  | repetition (inner : Regex) (least : Nat) (most : Option Nat) (greedy : Bool)
  | group (captured : Option Nat) (inner : Regex)
deriving Inhabited

def mergePlaces (a b : List Nat) : List Nat :=
  a.foldl insertPlace b
where
  /-- Insert a place, unless it is there. -/
  insertPlace : List Nat → Nat → List Nat
    | [], p => [p]
    | q :: rest, p =>
      if p < q then p :: q :: rest
      else if p = q then q :: rest
      else q :: insertPlace rest p

/-- All places that a step leads to from some places. -/
def stepAll (step : Nat → List Nat) (places : List Nat) : List Nat :=
  places.foldl (fun found p => mergePlaces (step p) found) []

/-- Exactly `count` steps. When the places no longer change, further steps do not change
them either. -/
def stepTimes (step : Nat → List Nat) : (count : Nat) → List Nat → List Nat
  | 0, places => places
  | count + 1, places =>
    let next := stepAll step places
    if next = places then places else stepTimes step count next

/-- At most `count` steps from the places in `fresh`, together with the places in `found`. Steps
from places that were found before are not taken again. -/
def stepUpTo (step : Nat → List Nat) : (count : Nat) → (fresh found : List Nat) → List Nat
  | 0, _, found => found
  | count + 1, fresh, found =>
    let next := (stepAll step fresh).filter fun p => !found.contains p
    if next.isEmpty then found else stepUpTo step count next (mergePlaces next found)

namespace Regex

def step (text : Array Char) (accepts : Char → Bool) (i : Nat) : List Nat :=
  match text[i]? with
  | some c => if accepts c then [i + 1] else []
  | none => []

/-- The places where a match from a place may end. -/
def ends (text : Array Char) : Regex → Nat → List Nat
  | .empty, i => [i]
  | .char c, i => step text (· == c) i
  | .set _ codes, i => step text (fun c => codes.has c.toNat) i
  | .look anchor, i =>
    let before := if i = 0 then none else text[i - 1]?
    if anchor.holds before text[i]? then [i] else []
  | .seq first second, i => stepAll (second.ends text) (first.ends text i)
  | .alt left right, i => mergePlaces (left.ends text i) (right.ends text i)
  | .repetition inner least most _, i =>
    let start := stepTimes (inner.ends text) least [i]
    let count := match most with
      | some most => most - least
      | none => text.size + 1
    stepUpTo (inner.ends text) count start start
  | .group _ inner, i => inner.ends text i

/-- Whether some part of a text matches. -/
def isMatch (r : Regex) (text : String) : Bool :=
  let chars := text.toList.toArray
  (List.range (chars.size + 1)).any fun i => !(r.ends chars i).isEmpty

end Regex

end Formulary.Pattern
