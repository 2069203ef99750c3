import Formulary.Pattern.Fault
import Formulary.Pattern.Property
import Formulary.Pattern.Reader
import Formulary.Pattern.Automaton
import Formulary.Text.LetterCase

/-!
# The meaning of patterns

A pattern becomes a regular expression under switches. A switch holds from where it stands to
the end of the group around it, alternatives included. A pattern whose automaton would be too
large is refused.

## Main definitions

* `Mode` : the switches at a place;
* `ClassItem.meaning`, `Ast.meaning` : what is meant under them;
* `Refusal` : why a text is refused as a pattern;
* `compile` : the regular expression of a text.
-/
namespace Formulary.Pattern

open Text (Category CodeSet)

/-- The switches at a place in a pattern. -/
structure Mode where
  ignoreCase : Bool := false
  multiLine : Bool := false
  dotAll : Bool := false
  swapGreed : Bool := false
  carriageReturn : Bool := false
  unicode : Bool := true

namespace Mode

def switch (mode : Mode) (flag : Flag) (on : Bool) : Mode :=
  match flag with
  | .ignoreCase => { mode with ignoreCase := on }
  | .multiLine => { mode with multiLine := on }
  | .dotAll => { mode with dotAll := on }
  | .swapGreed => { mode with swapGreed := on }
  | .carriageReturn => { mode with carriageReturn := on }
  | .unicode => { mode with unicode := on }
  | .verbose => mode

def switchAll (mode : Mode) (switches : Switches) : Mode :=
  switches.foldl (fun mode s => mode.switch s.1 s.2) mode

/-- What the members of sets are. -/
def alphabet (mode : Mode) : Alphabet := if mode.unicode then .characters else .bytes

def lastCode (mode : Mode) : Nat := if mode.unicode then 0x10FFFF else 0xFF

end Mode

/-- The letters of ASCII in a set, in upper and in lower case, with all else in it. -/
def foldAsciiCase (set : CodeSet) : CodeSet :=
  let lowered := (set.inter [(0x41, 0x5A)]).map fun (a, b) => (a + 0x20, b + 0x20)
  let raised := (set.inter [(0x61, 0x7A)]).map fun (a, b) => (a - 0x20, b - 0x20)
  .unions [set, lowered, raised]

/-- The members of a set, and where case is ignored those that differ from them in case only.
Without Unicode the letters `A` to `Z` alone have a case. -/
def foldCase (mode : Mode) (set : CodeSet) : CodeSet :=
  if !mode.ignoreCase then set
  else if mode.unicode then set.foldCase
  else foldAsciiCase set

/-- A set, or all that is not in it. Without Unicode only characters of ASCII may be left. -/
def negateIf (mode : Mode) (span : Span) (negated : Bool) (set : CodeSet) : Except Fault CodeSet :=
  let set := if negated then set.complement mode.lastCode else set
  if mode.unicode || set.isAscii then .ok set else .error ⟨.invalidText, span, none⟩

def AsciiClass.set : AsciiClass → CodeSet
  | .alnum => [(0x30, 0x39), (0x41, 0x5A), (0x61, 0x7A)]
  | .alpha => [(0x41, 0x5A), (0x61, 0x7A)]
  | .ascii => [(0, 0x7F)]
  | .blank => [(0x9, 0x9), (0x20, 0x20)]
  | .cntrl => [(0, 0x1F), (0x7F, 0x7F)]
  | .digit => [(0x30, 0x39)]
  | .graph => [(0x21, 0x7E)]
  | .lower => [(0x61, 0x7A)]
  | .print => [(0x20, 0x7E)]
  | .punct => [(0x21, 0x2F), (0x3A, 0x40), (0x5B, 0x60), (0x7B, 0x7E)]
  | .space => [(0x9, 0xD), (0x20, 0x20)]
  | .upper => [(0x41, 0x5A)]
  | .word => [(0x30, 0x39), (0x41, 0x5A), (0x5F, 0x5F), (0x61, 0x7A)]
  | .xdigit => [(0x30, 0x39), (0x41, 0x46), (0x61, 0x66)]

def PerlClass.set (unicode : Bool) (kind : PerlClass) : CodeSet :=
  match kind, unicode with
  | .digit, true => Category.decimalNumber.set
  | .space, true => Text.Property.whiteSpace
  | .word, true => Text.Property.word
  | .digit, false => AsciiClass.digit.set
  | .space, false => AsciiClass.space.set
  | .word, false => AsciiClass.word.set

def SetOp.apply : SetOp → CodeSet → CodeSet → CodeSet
  | .intersection => .inter
  | .difference => .diff
  | .symmetricDifference => .symmDiff

/-- The code point of a character in a class. Without Unicode it has to be of ASCII. -/
def Literal.member (mode : Mode) (literal : Literal) : Except Fault Nat :=
  let code := literal.char.toNat
  if mode.unicode || code < 128 then .ok code
  else .error ⟨if literal.isByte then .invalidText else .unicodeNotAllowed, literal.span, none⟩

namespace ClassItem

mutual

def meaning (mode : Mode) : ClassItem → Except Fault CodeSet
  | .empty _ => .ok []
  | .range low high => do return [(← low.member mode, ← high.member mode)]
  | .perl span kind negated => negateIf mode span negated (kind.set mode.unicode)
  | .ascii span kind negated => negateIf mode span negated (foldCase mode kind.set)
  | .property span query negated =>
    if !mode.unicode then .error ⟨.unicodeNotAllowed, span, none⟩
    else do negateIf mode span negated (foldCase mode (← propertySet span query))
  | .union _ items => anyOf mode items
  | .bracketed span negated set => do
    negateIf mode span negated (foldCase mode (← set.meaning mode))
  | .combined _ op left right => do
    let left ← left.meaning mode
    let right ← right.meaning mode
    return op.apply (foldCase mode left) (foldCase mode right)

def anyOf (mode : Mode) : List ClassItem → Except Fault CodeSet
  | [] => .ok []
  | item :: rest => do
    let first ← item.meaning mode
    let others ← anyOf mode rest
    return first.union others

end

end ClassItem

def Look.anchor (mode : Mode) : Look → Anchor
  | .textStart => .textStart
  | .textEnd => .textEnd
  | .lineStart => if mode.multiLine then .lineStart mode.carriageReturn else .textStart
  | .lineEnd => if mode.multiLine then .lineEnd mode.carriageReturn else .textEnd
  | .wordBoundary => .word .boundary mode.unicode
  | .noWordBoundary => .word .noBoundary mode.unicode
  | .wordStart => .word .start mode.unicode
  | .wordEnd => .word .stop mode.unicode
  | .wordStartHalf => .word .startHalf mode.unicode
  | .wordEndHalf => .word .stopHalf mode.unicode

def dotSet (mode : Mode) : CodeSet :=
  if mode.dotAll then [(0, 0x10FFFF)]
  else if mode.carriageReturn then [(0, 0x9), (0xB, 0xC), (0xE, 0x10FFFF)]
  else [(0, 0x9), (0xB, 0x10FFFF)]

/-- A character by itself, and where case is ignored the set of those that differ from it in case
only. -/
def Literal.meaning (mode : Mode) (literal : Literal) : Except Fault Regex :=
  let c := literal.char
  if !mode.unicode && literal.isByte && 127 < c.toNat then
    .error ⟨.invalidText, literal.span, none⟩
  else if !mode.ignoreCase then .ok (.char c)
  else if mode.unicode then
    match Text.caseVariants c.toNat with
    | [_] => .ok (.char c)
    | variants => .ok (.set .characters (.ofCodes variants))
  else if c.isAlpha then .ok (.set .bytes (foldAsciiCase [(c.toNat, c.toNat)]))
  else .ok (.char c)

namespace Ast

mutual

def meaning (mode : Mode) : Ast → Except Fault (Regex × Mode)
  | .empty => .ok (.empty, mode)
  | .flags _ switches => .ok (.empty, mode.switchAll switches)
  | .literal c => do return (← c.meaning mode, mode)
  | .dot span =>
    if mode.unicode then .ok (.set .characters (dotSet mode), mode)
    else .error ⟨.invalidText, span, none⟩
  | .look _ condition => .ok (.look (condition.anchor mode), mode)
  | .set item => do return (.set mode.alphabet (← item.meaning mode), mode)
  | .group span captured switches inner => do
    let (inner, _) ← inner.meaning (mode.switchAll switches)
    return (.group (if captured then some span.start else none) inner, mode)
  | .repetition _ inner least most greedy => do
    let (inner, mode) ← inner.meaning mode
    return (.repetition inner least most (greedy != mode.swapGreed), mode)
  | .concat _ items => sequence mode items
  | .alternation _ branches => choice mode branches

def sequence (mode : Mode) : List Ast → Except Fault (Regex × Mode)
  | [] => .ok (.empty, mode)
  | item :: rest => do
    let (first, mode) ← item.meaning mode
    let (others, mode) ← sequence mode rest
    return (.seq first others, mode)

def choice (mode : Mode) : List Ast → Except Fault (Regex × Mode)
  | [] => .ok (.set .bytes [], mode)
  | [branch] => branch.meaning mode
  | branch :: rest => do
    let (first, mode) ← branch.meaning mode
    let (others, mode) ← choice mode rest
    return (.alt first others, mode)

end

end Ast

inductive Refusal
  /-- It is no pattern. -/
  | fault (fault : Fault)
  /-- Its automaton would be too large. -/
  | tooLarge
deriving DecidableEq, Repr

def Refusal.message (pattern : String) : Refusal → String
  | .fault f => f.message pattern
  | .tooLarge =>
    "Compiled regex exceeds size limit of " ++ Number.digitText Automaton.sizeLimit ++ " bytes."

def readRegex (pattern : String) : Except Fault Regex := do
  let ast ← Ast.read pattern
  match ast.tooDeep? with
  | some span => .error ⟨.nestingTooDeep, span, none⟩
  | none => return (← ast.meaning {}).1

def compile (pattern : String) : Except Refusal Regex :=
  match readRegex pattern with
  | .error fault => .error (.fault fault)
  | .ok r => if Automaton.isTooLarge r then .error .tooLarge else .ok r

/-- A pattern as text, wrapped so that it has to match a value from end to end. -/
def wrap (pattern : String) : String := "^(?:" ++ pattern ++ ")$"

/-- The regular expression that a value has to match from end to end. -/
def compileAnchored (pattern : String) : Except Refusal Regex := compile (wrap pattern)

end Formulary.Pattern
