import Formulary.Text.Basic

/-!
# The size of automata

An automaton takes memory for each of its states and for the links between them. The states of a
set of characters are laid out for the bytes of UTF-8: the characters between two others are those of
a few sequences of ranges of bytes, each of which takes every combination of its bytes. Equal states
are shared as far as a table of limited size remembers them.

## Main definitions

* `CodeSet.byteRanges` : the sequences of ranges of bytes for a set;
* `Footprint` : how large an automaton is so far;
* `Footprint.forwardSet` : a set, read from the first byte of a character on;
* `Footprint.backwardSet` : a set, read from the last byte on.
-/
namespace Formulary.Text

/-! ### Ranges of bytes -/

structure ByteRange where
  low : Nat
  high : Nat
deriving DecidableEq, Repr, Inhabited

def utf8Bytes (code : Nat) : List Nat :=
  if code < 0x80 then [code]
  else if code < 0x800 then [0xC0 + code / 0x40, 0x80 + code % 0x40]
  else if code < 0x10000 then
    [0xE0 + code / 0x1000, 0x80 + code / 0x40 % 0x40, 0x80 + code % 0x40]
  else
    [0xF0 + code / 0x40000, 0x80 + code / 0x1000 % 0x40, 0x80 + code / 0x40 % 0x40,
      0x80 + code % 0x40]

/-- Where a range of code points has to be cut first: between the surrogates, between lengths in
UTF-8, or beside the code points that share their bytes but for the last few. The code point is
the last one before the cut. -/
def cut? (low high : Nat) : Option Nat :=
  match [0x7F, 0x7FF, 0xFFFF].find? fun last => low ≤ last && last < high with
  | some last => some last
  | none =>
    if high < 0x80 then none
    else
      [0x40, 0x1000, 0x40000].findSome? fun size =>
        if low / size = high / size then none
        else if low % size ≠ 0 then some (low / size * size + size - 1)
        else if high % size ≠ size - 1 then some (high / size * size - 1)
        else none

/-- The sequences of a range without surrogates, cut at most as often as `fuel` tells. -/
def byteRangesFrom : (fuel : Nat) → (low high : Nat) → List (List ByteRange)
  | 0, _, _ => []
  | fuel + 1, low, high =>
    match cut? low high with
    | some last => byteRangesFrom fuel low last ++ byteRangesFrom fuel (last + 1) high
    | none => [(utf8Bytes low).zipWith ByteRange.mk (utf8Bytes high)]

/-- The sequences of a range of code points, in ascending order. Surrogates are left out. -/
def byteRanges (low high : Nat) : List (List ByteRange) :=
  let below := min high 0xD7FF
  let above := max low 0xE000
  (if low ≤ below then byteRangesFrom 32 low below else [])
    ++ if above ≤ high then byteRangesFrom 32 above high else []

def CodeSet.byteRanges (s : CodeSet) : List (List ByteRange) :=
  s.flatMap fun (low, high) => Text.byteRanges low high

end Formulary.Text

namespace Formulary.Pattern

open Text (ByteRange)

/-- How large an automaton is so far: the count of its states, by which they are numbered, and the
bytes that are taken by the links of the states that have several. -/
structure Footprint where
  states : Nat
  linkBytes : Nat
deriving DecidableEq, Repr

namespace Footprint

/-- The bytes that a state takes, but for its links where it may have several. -/
def stateBytes : Nat := 32

def branchBytes : Nat := 4

def readBytes : Nat := 8

/-- The bytes that an automaton takes. -/
def bytes (f : Footprint) : Nat := stateBytes * f.states + f.linkBytes

def none : Footprint := ⟨0, 0⟩

def addStates (count : Nat) (f : Footprint) : Footprint := { f with states := f.states + count }

def addBranches (count : Nat) (f : Footprint) : Footprint :=
  { f with linkBytes := f.linkBytes + branchBytes * count }

def addReader (links : Nat) (f : Footprint) : Footprint :=
  ⟨f.states + 1, f.linkBytes + readBytes * links⟩

/-- A link that is followed by reading a byte of a range, and the state that it leads to. -/
structure Link where
  range : ByteRange
  target : Nat
deriving DecidableEq, Repr, Inhabited

/-- One step of the hash by which a state is looked up. -/
def mix (hash : UInt64) (n : Nat) : UInt64 := (hash ^^^ n.toUInt64) * 1099511628211

def hashStart : UInt64 := 14695981039346656037

/-- The hash of the links of a state, for characters that are read from their first byte on. -/
def forwardHash (links : List Link) : UInt64 :=
  links.foldl (fun hash link => mix (mix (mix hash link.range.low) link.range.high) link.target)
    hashStart

def backwardHash (link : Link) : UInt64 :=
  mix (mix (mix hashStart link.target) link.range.low) link.range.high

/-- States that are remembered with their links; a later one takes the place of an earlier one with
the same remainder of the hash. -/
abbrev Memory := Array (Option (List Link × Nat))

/-- How many states are remembered when characters are read from their first byte on. -/
def forwardSlots : Nat := 10000

def backwardSlots : Nat := 1000

/-- An automaton that is being laid out, with the states that are remembered. -/
structure Layout where
  footprint : Footprint
  memory : Memory

namespace Layout

/-- A new state with some links, which `add` lays out and a slot remembers. -/
def remember (slot : Nat) (links : List Link) (add : Footprint → Footprint) (l : Layout) :
    Nat × Layout :=
  let number := l.footprint.states
  (number, ⟨add l.footprint, l.memory.setIfInBounds slot (some (links, number))⟩)

/-- The number of the state with some links, which have a hash: one that is remembered, or else a
new one, which `add` lays out. -/
def find (hash : UInt64) (links : List Link) (add : Footprint → Footprint) (l : Layout) :
    Nat × Layout :=
  let slot := (hash % l.memory.size.toUInt64).toNat
  match l.memory[slot]? with
  | some (some (known, number)) =>
    if known = links then (number, l) else l.remember slot links add
  | _ => l.remember slot links add

end Layout

/-- A state that may get more links: those that are complete, the last one first, and the range of
one whose target is not laid out yet. -/
structure OpenState where
  links : List Link
  range : Option ByteRange

namespace OpenState

/-- The target of the last link is known. -/
def close (target : Nat) (s : OpenState) : OpenState :=
  match s.range with
  | some range => ⟨⟨range, target⟩ :: s.links, Option.none⟩
  | Option.none => s

def layOut (s : OpenState) (l : Layout) : Nat × Layout :=
  let links := s.links.reverse
  l.find (forwardHash links) links (·.addReader links.length)

/-- Lay out states that lead to each other, the last of them to the state `last`. -/
def layOutAll (last : Nat) : List OpenState → Layout → Nat × Layout
  | [], l => (last, l)
  | s :: rest, l =>
    let (target, l) := layOutAll last rest l
    (s.close target).layOut l

/-- Add a sequence to open states that lead to each other. What it does not share with the sequence
before it is laid out. -/
def insert (last : Nat) : List ByteRange → List OpenState → Layout → List OpenState × Layout
  | range :: ranges, s :: rest, l =>
    if s.range = some range then
      let (rest, l) := insert last ranges rest l
      (s :: rest, l)
    else
      let (target, l) := layOutAll last rest l
      let s := s.close target
      ({ s with range := some range } :: ranges.map fun range => ⟨[], some range⟩, l)
  | _, states, l => (states, l)

end OpenState

/-- A set of sequences, read from their first byte on. States with equal links are shared. -/
def forwardSet (sequences : List (List ByteRange)) (f : Footprint) : Footprint :=
  let last := f.states
  let start : List OpenState × Layout :=
    ([⟨[], Option.none⟩], ⟨f.addStates 1, Array.replicate forwardSlots Option.none⟩)
  let (states, l) := sequences.foldl (fun (states, l) s => OpenState.insert last s states l) start
  (OpenState.layOutAll last states l).2.footprint

/-- The states for the bytes of a sequence, each leading to the one before it, and the first to a
given one. -/
def chain (target : Nat) : List ByteRange → Layout → Layout
  | [], l => { l with footprint := l.footprint.addBranches 1 }
  | range :: ranges, l =>
    let link : Link := ⟨range, target⟩
    let (number, l) := l.find (backwardHash link) [link] (·.addStates 1)
    chain number ranges l

/-- A set of sequences, read from their last byte on. Each sequence is a branch of its own; those
that begin alike share states. -/
def backwardSet (sequences : List (List ByteRange)) (f : Footprint) : Footprint :=
  let last := f.states + 1
  let start : Layout := ⟨f.addStates 2, Array.replicate backwardSlots Option.none⟩
  (sequences.foldl (fun l s => chain last s l) start).footprint

end Footprint

end Formulary.Pattern
