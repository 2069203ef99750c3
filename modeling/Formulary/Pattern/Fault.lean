import Formulary.Number.Layout
import Formulary.Pattern.Ast

/-!
# Faults of patterns

Why a text is no pattern, and the message that shows where: the pattern with a line of marks
under the part that is at fault.

A pattern may not nest too deeply. Sequences, alternatives, repetitions, groups, classes, and in
classes the sets of several members and those combined by an operator, each add a level.

## Main definitions

* `FaultKind` : what is wrong;
* `Fault` : what is wrong, and where;
* `Fault.message` : the message, with the pattern;
* `depthLimit` : how deep a pattern may nest;
* `Ast.tooDeep?` : the first part that lies too deep.
-/
namespace Formulary.Pattern

inductive FaultKind
  | classEscapeInvalid | classRangeInvalid | classRangeLiteral | classUnclosed
  | decimalInvalid
  | hexEmpty | hexInvalid | hexInvalidDigit | escapeUnexpectedEnd | escapeUnrecognized
  | flagDanglingNegation | flagDuplicate | flagRepeatedNegation | flagUnexpectedEnd
  | flagUnrecognized
  | groupNameDuplicate | groupNameEmpty | groupNameInvalid | groupNameUnexpectedEnd
  | groupUnclosed | groupUnopened
  | repetitionCountInvalid | repetitionCountEmpty | repetitionCountUnclosed | repetitionMissing
  | wordBoundaryUnclosed | wordBoundaryUnrecognized | wordBoundaryUnexpectedEnd
  | propertyClassInvalid | backreference | lookAround
  | nestingTooDeep
  | unicodeNotAllowed | invalidText | propertyNotFound | propertyValueNotFound
deriving DecidableEq, Repr

def FaultKind.describe : FaultKind → String
  | .classEscapeInvalid => "invalid escape sequence found in character class"
  | .classRangeInvalid => "invalid character class range, the start must be <= the end"
  | .classRangeLiteral => "invalid range boundary, must be a literal"
  | .classUnclosed => "unclosed character class"
  | .decimalInvalid => "decimal literal invalid"
  | .hexEmpty => "hexadecimal literal empty"
  | .hexInvalid => "hexadecimal literal is not a Unicode scalar value"
  | .hexInvalidDigit => "invalid hexadecimal digit"
  | .escapeUnexpectedEnd => "incomplete escape sequence, reached end of pattern prematurely"
  | .escapeUnrecognized => "unrecognized escape sequence"
  | .flagDanglingNegation => "dangling flag negation operator"
  | .flagDuplicate => "duplicate flag"
  | .flagRepeatedNegation => "flag negation operator repeated"
  | .flagUnexpectedEnd => "expected flag but got end of regex"
  | .flagUnrecognized => "unrecognized flag"
  | .groupNameDuplicate => "duplicate capture group name"
  | .groupNameEmpty => "empty capture group name"
  | .groupNameInvalid => "invalid capture group character"
  | .groupNameUnexpectedEnd => "unclosed capture group name"
  | .groupUnclosed => "unclosed group"
  | .groupUnopened => "unopened group"
  | .repetitionCountInvalid =>
    "invalid repetition count range, the start must be <= the end"
  | .repetitionCountEmpty => "repetition quantifier expects a valid decimal"
  | .repetitionCountUnclosed => "unclosed counted repetition"
  | .repetitionMissing => "repetition operator missing expression"
  | .wordBoundaryUnclosed =>
    "special word boundary assertion is either unclosed or contains an invalid character"
  | .wordBoundaryUnrecognized =>
    "unrecognized special word boundary assertion, valid choices are: " ++
      "start, end, start-half or end-half"
  | .wordBoundaryUnexpectedEnd =>
    "found either the beginning of a special word boundary or a bounded repetition on a \\b " ++
      "with an opening brace, but no closing brace"
  | .propertyClassInvalid => "invalid Unicode character class"
  | .backreference => "backreferences are not supported"
  | .lookAround => "look-around, including look-ahead and look-behind, is not supported"
  | .nestingTooDeep => "exceed the maximum number of nested parentheses/brackets (250)"
  | .unicodeNotAllowed => "Unicode not allowed here"
  | .invalidText => "pattern can match invalid UTF-8"
  | .propertyNotFound => "Unicode property not found"
  | .propertyValueNotFound => "Unicode property value not found"

/-- What is wrong, and where; `also` is an earlier part that belongs to it. -/
structure Fault where
  kind : FaultKind
  span : Span
  also : Option Span
deriving DecidableEq, Repr

structure Place where
  line : Nat
  column : Nat
deriving DecidableEq, Repr

def placeOf (pattern : List Char) (index : Nat) : Place :=
  let before := pattern.take index
  ⟨before.count '\n' + 1, (before.reverse.takeWhile (· != '\n')).length + 1⟩

def splitLines (pattern : List Char) : List (List Char) :=
  pattern.foldr
    (fun c lines =>
      if c = '\n' then [] :: lines
      else match lines with
        | line :: rest => (c :: line) :: rest
        | [] => [[c]])
    [[]]

/-- A line without the carriage return in front of its line feed. -/
def withoutReturn (line : List Char) : List Char :=
  if line.getLast? = some '\r' then line.dropLast else line

/-- The lines of a pattern. A line feed ends a line, with or without a carriage return. -/
def linesOf (pattern : List Char) : List (List Char) :=
  let lines := splitLines pattern
  lines.dropLast.map withoutReturn ++ lines.getLast?.toList

/-- Blanks up to the marks of each part in turn, which are in order and on one line. At least
one mark is made for a part; `column` is the column that is reached. -/
def marksFrom (column : Nat) : List (Place × Place) → String
  | [] => ""
  | (start, stop) :: rest =>
    let gap := start.column - column
    let width := max 1 (stop.column - start.column)
    String.ofList (List.replicate gap ' ') ++ String.ofList (List.replicate width '^')
      ++ marksFrom (column + gap + width) rest

def startsBefore (a b : Place × Place) : Bool :=
  a.1.line < b.1.line || (a.1.line == b.1.line && a.1.column ≤ b.1.column)

namespace Fault

/-- The parts that are marked. -/
def places (pattern : List Char) (f : Fault) : List (Place × Place) :=
  let spans := f.span :: f.also.toList
  let places := spans.map fun s => (placeOf pattern s.start, placeOf pattern s.stop)
  match places with
  | [a, b] => if startsBefore b a then [b, a] else [a, b]
  | places => places

/-- The pattern with marks under the parts on one line. A pattern of one line is indented;
several lines are numbered. -/
def notated (pattern : List Char) (f : Fault) : String :=
  let lines := linesOf pattern
  let single := (f.places pattern).filter fun (a, b) => a.line == b.line
  let numberWidth := (Number.digitText lines.length).length
  let padding := if lines.length ≤ 1 then 4 else numberWidth + 2
  String.join <| lines.mapIdx fun i line =>
    let label :=
      if lines.length ≤ 1 then String.ofList (List.replicate 4 ' ')
      else
        let number := Number.digitText (i + 1)
        String.ofList (List.replicate (numberWidth - number.length) ' ') ++ number ++ ": "
    let here := single.filter fun (a, _) => a.line == i + 1
    label ++ String.ofList line ++ "\n" ++
      (if here.isEmpty then ""
       else String.ofList (List.replicate padding ' ') ++ marksFrom 1 here ++ "\n")

def message (pattern : String) (f : Fault) : String :=
  let chars := pattern.toList
  let shown := f.notated chars
  if chars.contains '\n' then
    let divider := String.ofList (List.replicate 79 '~')
    let long := (f.places chars).filter fun (a, b) => a.line != b.line
    let notes := long.map fun (a, b) =>
      "on line " ++ Number.digitText a.line ++ " (column " ++ Number.digitText a.column
        ++ ") through line " ++ Number.digitText b.line ++ " (column "
        ++ Number.digitText (b.column - 1) ++ ")"
    "regex parse error:\n" ++ divider ++ "\n" ++ shown ++ divider ++ "\n"
      ++ (if notes.isEmpty then "" else String.intercalate "\n" notes ++ "\n")
      ++ "error: " ++ f.kind.describe
  else "regex parse error:\n" ++ shown ++ "error: " ++ f.kind.describe

end Fault

/-! ### How deep patterns nest -/

/-- How deep a pattern may nest. -/
def depthLimit : Nat := 250

namespace ClassItem

mutual

/-- The first part of a set that lies too deep, below some levels. -/
def tooDeep? (depth : Nat) : ClassItem → Option Span
  | .bracketed span _ set =>
    if depthLimit ≤ depth then some span else set.tooDeep? (depth + 1)
  | .union span items =>
    if depthLimit ≤ depth then some span else firstTooDeep? (depth + 1) items
  | .combined span _ left right =>
    if depthLimit ≤ depth then some span
    else left.tooDeep? (depth + 1) <|> right.tooDeep? (depth + 1)
  | .empty _ | .range .. | .perl .. | .ascii .. | .property .. => none

def firstTooDeep? (depth : Nat) : List ClassItem → Option Span
  | [] => none
  | item :: rest => item.tooDeep? depth <|> firstTooDeep? depth rest

end

end ClassItem

namespace Ast

mutual

/-- The first part of a pattern that lies too deep, below some levels. -/
def tooDeepBelow? (depth : Nat) : Ast → Option Span
  | .empty | .flags .. | .literal _ | .dot _ | .look .. => none
  | .set item => item.tooDeep? depth
  | .group span _ _ inner | .repetition span inner _ _ _ =>
    if depthLimit ≤ depth then some span else inner.tooDeepBelow? (depth + 1)
  | .concat span items | .alternation span items =>
    if depthLimit ≤ depth then some span else firstTooDeepBelow? (depth + 1) items

def firstTooDeepBelow? (depth : Nat) : List Ast → Option Span
  | [] => none
  | item :: rest => item.tooDeepBelow? depth <|> firstTooDeepBelow? depth rest

end

def tooDeep? (ast : Ast) : Option Span := ast.tooDeepBelow? 0

end Ast

end Formulary.Pattern
