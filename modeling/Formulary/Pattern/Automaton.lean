import Formulary.Pattern.Footprint
import Formulary.Pattern.Plan

/-!
# The limit on automata

A regular expression is matched by two automata, one that reads a text forward and one that reads
it backward. Either may take memory up to a limit. The automata are not built here: only their
size is computed, in the order in which their states would be laid out.

## Main definitions

* `Automaton.layOut` : the size after the states of a plan;
* `Automaton.size` : the size of an automaton;
* `Automaton.isTooLarge` : whether an automaton of a regular expression is beyond the limit.
-/
namespace Formulary.Pattern

open Text (CodeSet)

namespace Automaton

def sizeLimit : Nat := 10485760

mutual

/-- Whether the last state of a plan branches, so that to go on from it is one more branch. -/
def endsBranching (backward : Bool) : Plan → Bool
  | .repetition inner least none _ => 0 < least || 0 < inner.shortest?.getD 0
  | .repetition inner least (some most) _ => least = most && endsBranching backward inner
  | .capture _ inner => backward && endsBranching backward inner
  | .concat items => if backward then firstEndsBranching items else lastEndsBranching items
  | .empty | .word _ | .set .. | .look _ | .alternation _ => false

/-- Whether the last state of plans in a row branches, read backward. -/
def firstEndsBranching : List Plan → Bool
  | [] => false
  | p :: _ => endsBranching true p

/-- Whether the last state of plans in a row branches, read forward. -/
def lastEndsBranching : List Plan → Bool
  | [] => false
  | [p] => endsBranching false p
  | _ :: rest => lastEndsBranching rest

end

/-- The branch that is added where a plan ends, if its last state branches. -/
def endBranch (backward : Bool) (p : Plan) : Nat := if endsBranching backward p then 1 else 0

/-- The states of a set. Those of ASCII read one byte. -/
def layOutSet (backward : Bool) (codes : CodeSet) (f : Footprint) : Footprint :=
  if codes.isAscii then (f.addStates 1).addReader codes.length
  else if backward then f.backwardSet codes.byteRanges
  else f.forwardSet codes.byteRanges

/-- Words cut where one of them ends. Words that end before any letter count once. -/
def cutAtEnds (words : List (List Nat)) : List (List (List Nat)) :=
  let words := if words.head?.any List.isEmpty then [] :: words.dropWhile List.isEmpty else words
  words.foldr
    (fun word chunks => if word.isEmpty then [] :: chunks
      else match chunks with
        | chunk :: rest => (word :: chunk) :: rest
        | [] => [[word]])
    [[]]

/-- Words by their first letters, with what follows it in each word. -/
def byFirst (words : List (List Nat)) : List (Nat × List (List Nat)) :=
  words.foldr
    (fun word groups => match word with
      | [] => groups
      | letter :: rest =>
        match groups.lookup letter with
        | some rests =>
          (letter, rest :: rests) :: groups.filter fun group => group.1 != letter
        | none => (letter, [rest]) :: groups)
    []

/-- The states of a tree of words, whose depth `fuel` bounds. Words share their beginnings, and a
word that ends is a branch before the words that go on. -/
def layOutTree : (fuel : Nat) → List (List Nat) → Footprint → Footprint
  | 0, _, f => f
  | fuel + 1, words, f =>
    let chunks := cutAtEnds words
    let f := chunks.foldl
      (fun f chunk =>
        let groups := byFirst chunk
        let f := groups.foldl
          (fun f group =>
            if group.2.all List.isEmpty then f else layOutTree fuel group.2 f)
          f
        match groups.length with
        | 0 => f
        | 1 => (f.addStates 1).addBranches 1
        | count => (f.addReader count).addBranches 1)
      f
    (f.addStates 1).addBranches (chunks.length - 1)

def wordBytes (backward : Bool) (chars : List Char) : List Nat :=
  let bytes := chars.flatMap fun c => Text.utf8Bytes c.toNat
  if backward then bytes.reverse else bytes

/-- The words that plans consist of, if they are nothing else. -/
def words? (plans : List Plan) : Option (List (List Char)) :=
  plans.mapM fun p => match p with
    | .word chars => some chars
    | _ => none

/-- Some copies of a plan. Nothing is added any more beyond the limit. -/
def copies (layOut : Footprint → Footprint) : (count : Nat) → Footprint → Footprint
  | 0, f => f
  | count + 1, f => if sizeLimit < f.bytes then f else copies layOut count (layOut f)

/-- The states of a repetition, by those of one copy; `join` is the branch where a copy ends. -/
def layOutRepetition (layOut : Footprint → Footprint) (join : Nat) (consumes : Bool)
    (least : Nat) (most : Option Nat) (f : Footprint) : Footprint :=
  match least, most with
  | 0, some 1 => ((layOut (f.addStates 1)).addStates 1).addBranches (join + 2)
  | 0, none =>
    if consumes then (layOut (f.addStates 1)).addBranches (join + 1)
    else ((layOut f).addStates 3).addBranches (join + 4)
  | least, none => ((copies layOut least f).addStates 1).addBranches (join * least + 1)
  | least, some most =>
    if least = most then (copies layOut least f).addBranches (join * (least - 1))
    else
      let f := if least = 0 then f.addStates 1 else copies layOut least f
      let optional := fun f : Footprint => (layOut (f.addStates 1)).addBranches 2
      (copies optional (most - least) (f.addStates 1)).addBranches (join * most)

mutual

/-- The size after the states of a plan. -/
def layOut (backward : Bool) : Plan → Footprint → Footprint
  | .empty, f => f.addStates 1
  | .word chars, f => f.addStates (wordBytes backward chars).length
  | .set _ codes, f => layOutSet backward codes f
  | .look _, f => f.addStates 1
  | .repetition inner least most _, f =>
    layOutRepetition (layOut backward inner) (endBranch backward inner)
      (0 < inner.shortest?.getD 0) least most f
  | .capture _ inner, f =>
    if backward then layOut backward inner f
    else ((layOut backward inner (f.addStates 1)).addStates 1).addBranches
      (endBranch backward inner)
  | .concat items, f => if backward then layOutLast items f else layOutFirst items f
  | .alternation branches, f =>
    match words? branches with
    | some words =>
      let words := words.map (wordBytes backward)
      layOutTree ((words.map List.length).foldr max 0 + 1) words (f.addStates 1)
    | none => layOutChoice backward 2 branches f

def layOutFirst : List Plan → Footprint → Footprint
  | [], f => f
  | [p], f => layOut false p f
  | p :: rest, f => layOutFirst rest ((layOut false p f).addBranches (endBranch false p))

def layOutLast : List Plan → Footprint → Footprint
  | [], f => f
  | p :: rest, f =>
    let f := layOutLast rest f
    let join := match rest with
      | [] => 0
      | q :: _ => endBranch true q
    layOut true p (f.addBranches join)

/-- The size after the states of alternatives. The state that branches to them and the one where
they meet are laid out after the first `before` alternatives. -/
def layOutChoice (backward : Bool) (before : Nat) : List Plan → Footprint → Footprint
  | [], f => f
  | p :: rest, f =>
    let f := (layOut backward p f).addBranches (endBranch backward p + 1)
    layOutChoice backward (before - 1) rest (if before = 1 then f.addStates 2 else f)

end

/-- Where the text has to begin, in the direction of reading. -/
def beginning (backward : Bool) : Anchor := if backward then .textEnd else .textStart

/-- The size of the automaton of a plan. Unless a match can only begin where the text does, the
automaton first passes over any bytes. Read forward, it marks where a match begins and ends. -/
def size (backward : Bool) (p : Plan) : Footprint :=
  let start :=
    if p.requires backward (beginning backward) then Footprint.none.addStates 1
    else ((Footprint.none.addStates 2).addReader 1).addBranches 2
  let whole := layOut backward (.capture 0 p) start
  let join := if backward then endBranch backward p else 0
  (whole.addStates 1).addBranches join

/-- Whether an automaton of a regular expression is beyond the limit. -/
def isTooLarge (r : Regex) : Bool :=
  let p := Plan.ofRegex r
  sizeLimit < (size false p).bytes || sizeLimit < (size true p).bytes

end Automaton

end Formulary.Pattern
