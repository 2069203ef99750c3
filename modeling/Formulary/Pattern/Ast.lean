/-!
# Patterns

The syntax trees of regular expressions as they are written. Places in a pattern are counted in
characters.

## Main definitions

* `Span` : a part of a pattern;
* `ClassItem` : what stands between brackets, and the classes with a name;
* `Ast` : a pattern.
-/
namespace Formulary.Pattern

structure Span where
  start : Nat
  stop : Nat
deriving DecidableEq, Repr, Inhabited

inductive Flag
  | ignoreCase | multiLine | dotAll | swapGreed | unicode | carriageReturn | verbose
deriving DecidableEq, Repr

abbrev Switches := List (Flag × Bool)

inductive PerlClass
  | digit | space | word
deriving DecidableEq, Repr

inductive AsciiClass
  | alnum | alpha | ascii | blank | cntrl | digit | graph | lower | print | punct | space | upper
  | word | xdigit
deriving DecidableEq, Repr

/-- What a property class asks for: a name, or a value of a property. -/
inductive PropertyQuery
  | named (name : String)
  | valued (property value : String)
deriving DecidableEq, Repr

inductive SetOp
  | intersection | difference | symmetricDifference
deriving DecidableEq, Repr

structure Literal where
  span : Span
  char : Char
  /-- Whether it is written as `\x` with two digits, and so may mean a byte. -/
  isByte : Bool
deriving DecidableEq, Repr, Inhabited

/-- A set of characters as it is written. -/
inductive ClassItem
  | empty (span : Span)
  | range (low high : Literal)
  | perl (span : Span) (kind : PerlClass) (negated : Bool)
  | ascii (span : Span) (kind : AsciiClass) (negated : Bool)
  | property (span : Span) (query : PropertyQuery) (negated : Bool)
  | union (span : Span) (items : List ClassItem)
  | bracketed (span : Span) (negated : Bool) (set : ClassItem)
  | combined (span : Span) (op : SetOp) (left right : ClassItem)
deriving Inhabited

def ClassItem.span : ClassItem → Span
  | .range low high => ⟨low.span.start, high.span.stop⟩
  | .empty span | .perl span .. | .ascii span .. | .property span .. | .union span _
  | .bracketed span .. | .combined span .. => span

/-- A condition on a place between characters. -/
inductive Look
  | lineStart | lineEnd | textStart | textEnd
  | wordBoundary | noWordBoundary | wordStart | wordEnd | wordStartHalf | wordEndHalf
deriving DecidableEq, Repr

/-- A pattern as it is written. A group is captured or not. -/
inductive Ast
  | empty
  | flags (span : Span) (switches : Switches)
  | literal (char : Literal)
  | dot (span : Span)
  | look (span : Span) (look : Look)
  | set (item : ClassItem)
  | group (span : Span) (captured : Bool) (switches : Switches) (inner : Ast)
  | repetition (span : Span) (inner : Ast) (least : Nat) (most : Option Nat) (greedy : Bool)
  | concat (span : Span) (items : List Ast)
  | alternation (span : Span) (branches : List Ast)
deriving Inhabited

def Ast.start : Ast → Nat
  | .empty => 0
  | .literal char => char.span.start
  | .set item => item.span.start
  | .flags span _ | .dot span | .look span _ | .group span .. | .repetition span ..
  | .concat span _ | .alternation span _ => span.start

end Formulary.Pattern
