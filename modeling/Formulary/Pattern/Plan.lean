import Formulary.Pattern.Regex

/-!
# Plans of automata

Before an automaton is laid out for a regular expression, the expression is brought into a simpler
form that accepts the same texts: characters in a row become one word, alternatives of one
character become a set, what alternatives share at their beginning is taken out of them, and what
repeats nothing is dropped.

## Main definitions

* `Plan` : the simpler form;
* `Plan.ofRegex` : the plan of a regular expression;
* `Plan.shortest?`, `Plan.onlyEmpty`, `Plan.requires` : how long the texts are that a plan accepts,
  and where it does so.
-/
namespace Formulary.Pattern

open Text (CodeSet)

/-- The plan of an automaton. -/
inductive Plan
  | empty
  | word (chars : List Char)
  | set (alphabet : Alphabet) (codes : CodeSet)
  | look (anchor : Anchor)
  | repetition (inner : Plan) (least : Nat) (most : Option Nat) (greedy : Bool)
  | capture (place : Nat) (inner : Plan)
  | concat (items : List Plan)
  | alternation (branches : List Plan)
deriving Inhabited

namespace Plan

mutual

def same : Plan → Plan → Bool
  | .empty, .empty => true
  | .word a, .word b => a == b
  | .set a s, .set b t => a == b && s == t
  | .look a, .look b => a == b
  | .repetition p l m g, .repetition q l' m' g' => l == l' && m == m' && g == g' && p.same q
  | .capture a p, .capture b q => a == b && p.same q
  | .concat ps, .concat qs => allSame ps qs
  | .alternation ps, .alternation qs => allSame ps qs
  | _, _ => false

def allSame : List Plan → List Plan → Bool
  | [], [] => true
  | p :: ps, q :: qs => p.same q && allSame ps qs
  | _, _ => false

end

mutual

/-- The least count of characters that is accepted: `none` where nothing is. -/
def shortest? : Plan → Option Nat
  | .empty | .look _ => some 0
  | .word chars => some chars.length
  | .set _ codes => if codes.isEmpty then none else some 1
  | .repetition inner least _ _ => inner.shortest?.map (least * ·)
  | .capture _ inner => inner.shortest?
  | .concat items => shortestOfAll? items
  | .alternation branches => shortestOfAny? branches

def shortestOfAll? : List Plan → Option Nat
  | [] => some 0
  | p :: rest =>
    match p.shortest?, shortestOfAll? rest with
    | some a, some b => some (a + b)
    | _, _ => none

def shortestOfAny? : List Plan → Option Nat
  | [] => none
  | [p] => p.shortest?
  | p :: rest =>
    match p.shortest?, shortestOfAny? rest with
    | some a, some b => some (min a b)
    | _, _ => none

end

mutual

/-- Whether nothing but the empty text can be accepted. -/
def onlyEmpty : Plan → Bool
  | .empty | .look _ => true
  | .word chars => chars.isEmpty
  | .set .. => false
  | .repetition inner _ most _ => most.isSome && inner.onlyEmpty
  | .capture _ inner => inner.onlyEmpty
  | .concat items => allOnlyEmpty items
  | .alternation branches => allOnlyEmpty branches

def allOnlyEmpty : List Plan → Bool
  | [] => true
  | p :: rest => p.onlyEmpty && allOnlyEmpty rest

end

mutual

/-- Whether a condition has to hold where a match begins, or, seen from behind, where it ends. -/
def requires (behind : Bool) (anchor : Anchor) : Plan → Bool
  | .look a => a == anchor
  | .repetition inner least _ _ => 0 < least && inner.requires behind anchor
  | .capture _ inner => inner.requires behind anchor
  | .concat items => if behind then lastRequires anchor items else firstRequires anchor items
  | .alternation branches => allRequire behind anchor branches
  | .empty | .word _ | .set .. => false

def firstRequires (anchor : Anchor) : List Plan → Bool
  | [] => false
  | p :: rest => p.requires false anchor || (p.onlyEmpty && firstRequires anchor rest)

/-- Whether a condition has to hold where a match of plans in a row ends. -/
def lastRequires (anchor : Anchor) : List Plan → Bool
  | [] => false
  | p :: rest => lastRequires anchor rest || (allOnlyEmpty rest && p.requires true anchor)

def allRequire (behind : Bool) (anchor : Anchor) : List Plan → Bool
  | [] => true
  | p :: rest => p.requires behind anchor && allRequire behind anchor rest

end

/-- The plan of a set. A set of one character is a word. -/
def ofSet (alphabet : Alphabet) (codes : CodeSet) : Plan :=
  match codes with
  | [] => .set .bytes []
  | [(low, high)] => if low = high then .word [Char.ofNat low] else .set alphabet codes
  | codes => .set alphabet codes

/-- What a plan adds to plans in a row. -/
def inRow : Plan → List Plan
  | .empty => []
  | .concat items => items
  | p => [p]

/-- Make words that follow each other one. -/
def joinWords : List Plan → List Plan
  | [] => []
  | p :: rest =>
    match p, joinWords rest with
    | .word a, .word b :: rest => .word (a ++ b) :: rest
    | p, rest => p :: rest

def concatOf (parts : List Plan) : Plan :=
  match joinWords (parts.flatMap inRow) with
  | [] => .empty
  | [p] => p
  | items => .concat items

/-- A plan repeated. What accepts nothing but the empty text is repeated at most once. -/
def repetitionOf (inner : Plan) (least : Nat) (most : Option Nat) (greedy : Bool) : Plan :=
  let least := if inner.onlyEmpty then min least 1 else least
  let most := if inner.onlyEmpty then some (min (most.getD 1) 1) else most
  if least = 0 ∧ most = some 0 then .empty
  else if least = 1 ∧ most = some 1 then inner
  else .repetition inner least most greedy

def inChoice : Plan → List Plan
  | .alternation branches => branches
  | p => [p]

def oneChar? : Plan → Option Nat
  | .word [c] => some c.toNat
  | _ => none

/-- The set of characters that a plan accepts. -/
def codes? : Plan → Option CodeSet
  | .set _ codes => some codes
  | _ => none

def items? : Plan → Option (List Plan)
  | .concat items => some items
  | _ => none

/-- Alternatives that are one set: those of one character each, and those that are sets. -/
def asSet? (branches : List Plan) : Option Plan :=
  match branches.mapM oneChar? with
  | some chars => some (.ofSet .characters (.ofCodes chars))
  | none => (branches.mapM codes?).map fun sets => .ofSet .characters (.unions sets)

/-- How many plans two rows share at their beginning. -/
def sharedLength : List Plan → List Plan → Nat
  | p :: ps, q :: qs => if p.same q then sharedLength ps qs + 1 else 0
  | _, _ => 0

def sharedBeginning : List (List Plan) → List Plan
  | [] => []
  | [row] => row
  | row :: rest =>
    let others := sharedBeginning rest
    row.take (sharedLength row others)

/-- Alternatives of which no beginning is taken out. -/
def choiceOf (branches : List Plan) : Plan :=
  let branches := branches.flatMap inChoice
  (asSet? branches).getD (.alternation branches)

/-- Alternatives. When all are rows of plans with a shared beginning, what is left of them shares
none. -/
def alternationOf : List Plan → Plan
  | [p] => p
  | branches =>
    match choiceOf branches with
    | .alternation branches =>
      match branches.mapM items? with
      | some rows =>
        let shared := sharedBeginning rows
        if shared.isEmpty then .alternation branches
        else
          let rests := rows.map fun row => concatOf (row.drop shared.length)
          concatOf (shared ++ [choiceOf rests])
      | none => .alternation branches
    | p => p

def branchesOf : Regex → List Plan
  | .empty => [.empty]
  | .char c => [.word [c]]
  | .set alphabet codes => [.ofSet alphabet codes]
  | .look anchor => [.look anchor]
  | .seq first second =>
    [concatOf [alternationOf (branchesOf first), alternationOf (branchesOf second)]]
  | .alt left right => alternationOf (branchesOf left) :: branchesOf right
  | .repetition inner least most greedy =>
    [repetitionOf (alternationOf (branchesOf inner)) least most greedy]
  | .group none inner => [alternationOf (branchesOf inner)]
  | .group (some place) inner => [.capture place (alternationOf (branchesOf inner))]

def ofRegex (r : Regex) : Plan := alternationOf (branchesOf r)

end Plan

end Formulary.Pattern
