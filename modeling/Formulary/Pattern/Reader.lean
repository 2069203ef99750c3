import Formulary.Pattern.Fault
import Formulary.Text.Alphabetic
import Formulary.Text.Basic
import Formulary.Text.Quoted

/-!
# Reading patterns

The pattern that a text is. Reading goes from left to right and stops at the first fault. In
verbose parts blanks and comments are skipped.

## Main definitions

* `Cursor` : where reading stands;
* `readEscape`, `readClass`, `readGroupHead` : the parts of a pattern;
* `readBody` : the alternatives up to the end of a group;
* `Ast.read` : the pattern of a text.
-/
namespace Formulary.Pattern

/-- Where reading stands. -/
structure Cursor where
  ahead : List Char
  /-- The count of characters behind. -/
  pos : Nat
  /-- Whether blanks and comments are skipped. -/
  verbose : Bool
  /-- The names of the groups so far. -/
  names : List (String × Span)

/-- How many characters of blanks and comments a text begins with. -/
def gapLength : (inComment : Bool) → List Char → Nat
  | _, [] => 0
  | true, c :: s => 1 + gapLength (c != '\n') s
  | false, c :: s =>
    if Text.isBlank c then 1 + gapLength false s
    else if c = '#' then 1 + gapLength true s
    else 0

namespace Cursor

def atEnd (c : Cursor) : Bool := c.ahead.isEmpty

def next? (c : Cursor) : Option Char := c.ahead.head?

def advance (n : Nat) (c : Cursor) : Cursor :=
  { c with ahead := c.ahead.drop n, pos := c.pos + min n c.ahead.length }

def bump (c : Cursor) : Cursor := c.advance 1

/-- Pass what a verbose pattern skips. -/
def skipGap (c : Cursor) : Cursor :=
  if c.verbose then c.advance (gapLength false c.ahead) else c

def bumpSkip (c : Cursor) : Cursor := c.bump.skipGap

def since (start : Nat) (c : Cursor) : Span := ⟨start, c.pos⟩

/-- The part of no characters here. -/
def here (c : Cursor) : Span := ⟨c.pos, c.pos⟩

def charSpan (c : Cursor) : Span := ⟨c.pos, c.pos + 1⟩

/-- The character after the next one. In a verbose pattern blanks and the sign of a comment are
passed over, but what stands in the comment counts. -/
def peekPastGap (c : Cursor) : Option Char :=
  let after := c.bump.ahead
  if c.verbose then
    let text := after.dropWhile Text.isBlank
    match text with
    | '#' :: comment => (comment.dropWhile Text.isBlank).head?
    | _ => text.head?
  else after.head?

end Cursor

/-- A fault at a part. -/
def faultAt {α : Type} (kind : FaultKind) (span : Span) : Except Fault α :=
  .error ⟨kind, span, none⟩

def charOfCode? (n : Nat) : Option Char :=
  if n.isValidChar then some (Char.ofNat n) else none

def readHexDigits (start : Nat) : (count : Nat) → (value : Nat) → Cursor →
    Except Fault (Char × Cursor)
  | 0, value, c =>
    match charOfCode? value with
    | some char => .ok (char, c)
    | none => faultAt .hexInvalid (c.since start)
  | count + 1, value, c =>
    match c.next? with
    | none => faultAt .escapeUnexpectedEnd c.here
    | some d =>
      match Text.hexValue? d with
      | none => faultAt .hexInvalidDigit c.charSpan
      | some v => readHexDigits start count (16 * value + v) c.bumpSkip

def readHexBraced (brace : Nat) : (fuel : Nat) → (digits : List Nat) → Cursor →
    Except Fault (Char × Cursor)
  | 0, _, c => faultAt .escapeUnexpectedEnd (c.since brace)
  | fuel + 1, digits, c =>
    match c.next? with
    | none => faultAt .escapeUnexpectedEnd (c.since brace)
    | some '}' =>
      let after := c.bumpSkip
      if digits.isEmpty then faultAt .hexEmpty (after.since brace)
      else
        match charOfCode? (digits.foldr (fun d n => 16 * n + d) 0) with
        | some char => .ok (char, after)
        | none => faultAt .hexInvalid (c.since (brace + 1))
    | some d =>
      match Text.hexValue? d with
      | none => faultAt .hexInvalidDigit c.charSpan
      | some v => readHexBraced brace fuel (v :: digits) c.bumpSkip

def readHex (start : Nat) (letter : Char) (c : Cursor) : Except Fault (Literal × Cursor) :=
  let after := c.bumpSkip
  match after.next? with
  | none => faultAt .escapeUnexpectedEnd after.here
  | some '{' => do
    let (char, after) ← readHexBraced after.pos (after.ahead.length + 1) [] after.bumpSkip
    return (⟨after.since start, char, false⟩, after)
  | some _ => do
    let digits := if letter = 'x' then 2 else if letter = 'u' then 4 else 8
    let (char, after) ← readHexDigits after.pos digits 0 after
    return (⟨after.since start, char, letter = 'x'⟩, after)

def cutAt? (mark : Char) (s : List Char) : Option (List Char × List Char) :=
  if s.contains mark then
    some (s.takeWhile (· != mark), (s.dropWhile (· != mark)).drop 1)
  else none

def cutAtUnequal? : List Char → Option (List Char × List Char)
  | '!' :: '=' :: s => some ([], s)
  | c :: s => (cutAtUnequal? s).map fun (a, b) => (c :: a, b)
  | [] => none

/-- What the text between the braces of a property class asks for. That a value is unequal is not
told from that it is equal. -/
def propertyQuery (s : List Char) : PropertyQuery :=
  match cutAtUnequal? s with
  | some (name, value) => .valued (String.ofList name) (String.ofList value)
  | none =>
    match cutAt? ':' s <|> cutAt? '=' s with
    | some (name, value) => .valued (String.ofList name) (String.ofList value)
    | none => .named (String.ofList s)

def readPropertyName : (fuel : Nat) → (name : List Char) → Cursor →
    Except Fault (List Char × Cursor)
  | 0, _, c => faultAt .escapeUnexpectedEnd c.here
  | fuel + 1, name, c =>
    match c.next? with
    | none => faultAt .escapeUnexpectedEnd c.here
    | some '}' => .ok (name.reverse, c.bump)
    | some d => readPropertyName fuel (d :: name) c.bumpSkip

def readProperty (start : Nat) (negated : Bool) (c : Cursor) : Except Fault (ClassItem × Cursor) :=
  let after := c.bumpSkip
  match after.next? with
  | none => faultAt .escapeUnexpectedEnd after.here
  | some '{' => do
    let (name, after) ← readPropertyName (after.ahead.length + 1) [] after.bumpSkip
    return (.property (after.since start) (propertyQuery name) negated, after)
  | some '\\' => faultAt .propertyClassInvalid after.charSpan
  | some d =>
    let after := after.bumpSkip
    .ok (.property (after.since start) (.named d.toString) negated, after)

def readBoundaryName : (fuel : Nat) → (name : List Char) → Cursor → List Char × Cursor
  | 0, name, c => (name.reverse, c)
  | fuel + 1, name, c =>
    match c.next? with
    | some d =>
      if d.isAlpha || d == '-' then readBoundaryName fuel (d :: name) c.bumpSkip
      else (name.reverse, c)
    | none => (name.reverse, c)

def boundary? (name : String) : Option Look :=
  match name with
  | "start" => some .wordStart
  | "end" => some .wordEnd
  | "start-half" => some .wordStartHalf
  | "end-half" => some .wordEndHalf
  | _ => none

/-- The end of the name of a word boundary. Its brace opened at `opening`, and the name began at
`begun`. -/
def closeBoundary (opening begun : Nat) (name : List Char) (c : Cursor) :
    Except Fault (Look × Cursor) :=
  if c.next? != some '}' then faultAt .wordBoundaryUnclosed (c.since opening)
  else match boundary? (String.ofList name) with
    | some look => .ok (look, c.bump)
    | none => faultAt .wordBoundaryUnrecognized (c.since begun)

/-- The name of a word boundary in braces after `\b`, which began at `start`. Braces around
anything else are a count. -/
def readBoundary (start : Nat) (c : Cursor) : Except Fault (Look × Cursor) :=
  let inside := c.bumpSkip
  match inside.next? with
  | none => faultAt .wordBoundaryUnexpectedEnd (inside.since start)
  | some d =>
    if !(d.isAlpha || d == '-') then .ok (.wordBoundary, c)
    else
      let (name, after) := readBoundaryName inside.ahead.length [] inside
      closeBoundary c.pos inside.pos name after

/-- A character that has a meaning of its own in patterns. -/
def isMeta (c : Char) : Bool :=
  ['\\', '.', '+', '*', '?', '(', ')', '|', '[', ']', '{', '}', '^', '$', '#', '&', '-',
    '~'].contains c

def isEscapable (c : Char) : Bool :=
  isMeta c || (c.toNat < 128 && !c.isAlphanum && c != '<' && c != '>')

def controlEscape? (c : Char) : Option Char :=
  match c with
  | 'a' => some '\x07'
  | 'f' => some '\x0c'
  | 't' => some '\t'
  | 'n' => some '\n'
  | 'r' => some '\r'
  | 'v' => some '\x0b'
  | _ => none

def lookEscape? (c : Char) : Option Look :=
  match c with
  | 'A' => some .textStart
  | 'z' => some .textEnd
  | 'B' => some .noWordBoundary
  | '<' => some .wordStart
  | '>' => some .wordEnd
  | _ => none

def perlEscape? (c : Char) : Option (PerlClass × Bool) :=
  match c with
  | 'd' => some (.digit, false)
  | 'D' => some (.digit, true)
  | 's' => some (.space, false)
  | 'S' => some (.space, true)
  | 'w' => some (.word, false)
  | 'W' => some (.word, true)
  | _ => none

def readEscape (c : Cursor) : Except Fault (Ast × Cursor) :=
  let start := c.pos
  let after := c.bump
  match after.next? with
  | none => faultAt .escapeUnexpectedEnd (after.since start)
  | some e =>
    if e.isDigit then faultAt .backreference ⟨start, after.pos + 1⟩
    else if e = 'x' ∨ e = 'u' ∨ e = 'U' then do
      let (literal, after) ← readHex start e after
      return (.literal literal, after)
    else if e = 'p' ∨ e = 'P' then do
      let (item, after) ← readProperty start (e = 'P') after
      return (.set item, after)
    else
      let done := after.bump
      let span := done.since start
      match perlEscape? e with
      | some (kind, negated) => .ok (.set (.perl span kind negated), done)
      | none =>
        if isEscapable e && e != '<' && e != '>' then .ok (.literal ⟨span, e, false⟩, done)
        else match controlEscape? e with
          | some char => .ok (.literal ⟨span, char, false⟩, done)
          | none =>
            if e = 'b' then
              if done.next? = some '{' then do
                let (look, done) ← readBoundary start done
                return (.look (done.since start) look, done)
              else .ok (.look span .wordBoundary, done)
            else match lookEscape? e with
              | some look => .ok (.look span look, done)
              | none => faultAt .escapeUnrecognized span

def asciiClass? (name : String) : Option AsciiClass :=
  match name with
  | "alnum" => some .alnum
  | "alpha" => some .alpha
  | "ascii" => some .ascii
  | "blank" => some .blank
  | "cntrl" => some .cntrl
  | "digit" => some .digit
  | "graph" => some .graph
  | "lower" => some .lower
  | "print" => some .print
  | "punct" => some .punct
  | "space" => some .space
  | "upper" => some .upper
  | "word" => some .word
  | "xdigit" => some .xdigit
  | _ => none

/-- The ASCII class at a place, whose name begins the text `rest`; `none` when it is none. -/
def asciiClassAt? (c : Cursor) (negated : Bool) (rest : List Char) : Option (ClassItem × Cursor) :=
  let name := rest.takeWhile (· != ':')
  match rest.dropWhile (· != ':') with
  | ':' :: ']' :: _ =>
    (asciiClass? (String.ofList name)).map fun kind =>
      let after := c.advance (name.length + 4 + if negated then 1 else 0)
      (.ascii (after.since c.pos) kind negated, after)
  | _ => none

def readAsciiClass? (c : Cursor) : Option (ClassItem × Cursor) :=
  match c.ahead with
  | '[' :: ':' :: '^' :: rest => asciiClassAt? c true rest
  | '[' :: ':' :: rest => asciiClassAt? c false rest
  | _ => none

def readClassMember (c : Cursor) : Except Fault ((Ast × Span) × Cursor) :=
  match c.next? with
  | some '\\' => do
    let (item, after) ← readEscape c
    return ((item, after.since c.pos), after)
  | some d => .ok ((.literal ⟨c.charSpan, d, false⟩, c.charSpan), c.bump)
  | none => faultAt .classUnclosed c.here

/-- A member that is a set by itself. -/
def memberSet (member : Ast × Span) : Except Fault ClassItem :=
  match member.1 with
  | .literal c => .ok (.range c c)
  | .set item => .ok item
  | _ => faultAt .classEscapeInvalid member.2

/-- A member that is an end of a range. -/
def memberChar (member : Ast × Span) : Except Fault Literal :=
  match member.1 with
  | .literal c => .ok c
  | _ => faultAt .classRangeLiteral member.2

def rangeBetween (first last : Ast × Span) : Except Fault ClassItem := do
  let low ← memberChar first
  let high ← memberChar last
  if high.char < low.char then faultAt .classRangeInvalid ⟨first.2.start, last.2.stop⟩
  else return .range low high

/-- The member `first` of a class or the range that it begins, from the place after it on. The class
began with the part `head`. -/
def readRangeFrom (head : Span) (first : Ast × Span) (c : Cursor) :
    Except Fault (ClassItem × Cursor) :=
  match c.next? with
  | none => faultAt .classUnclosed head
  | some d =>
    let following := c.peekPastGap
    if d != '-' || following == some ']' || following == some '-' then do
      return (← memberSet first, c)
    else
      let after := c.bumpSkip
      if after.atEnd then faultAt .classUnclosed head
      else do
        let (last, after) ← readClassMember after
        return (← rangeBetween first last, after)

/-- A member of a class or a range of characters. The class began with the part `head`. -/
def readRange (head : Span) (c : Cursor) : Except Fault (ClassItem × Cursor) := do
  let (first, after) ← readClassMember c
  readRangeFrom head first after.skipGap

def readHyphens (start : Nat) : (fuel : Nat) → (items : List ClassItem) → Cursor →
    Except Fault (List ClassItem × Cursor)
  | 0, items, c => .ok (items, c)
  | fuel + 1, items, c =>
    if c.next? = some '-' then
      let hyphen : Literal := ⟨c.charSpan, '-', false⟩
      let item := ClassItem.range hyphen hyphen
      let after := c.bumpSkip
      if after.atEnd then faultAt .classUnclosed ⟨start, start⟩
      else readHyphens start fuel (item :: items) after
    else .ok (items, c)

/-- The head of a class: whether it is negated, where its members begin, and the members that
could not stand elsewhere, the last one first. -/
structure ClassHead where
  negated : Bool
  begun : Nat
  items : List ClassItem

/-- The members that could not stand elsewhere: hyphens, or else a closing bracket. The class began
at `start`. -/
def readFirstMembers (start : Nat) (negated : Bool) (c : Cursor) :
    Except Fault (ClassHead × Cursor) := do
  if c.atEnd then faultAt .classUnclosed (c.since start)
  let (items, after) ← readHyphens start c.ahead.length [] c
  if items.isEmpty && after.next? == some ']' then
    let bracket : Literal := ⟨after.charSpan, ']', false⟩
    let after := after.bumpSkip
    if after.atEnd then faultAt .classUnclosed (after.since start)
    return (⟨negated, c.pos, [.range bracket bracket]⟩, after)
  return (⟨negated, c.pos, items⟩, after)

def readClassHead (c : Cursor) : Except Fault (ClassHead × Cursor) :=
  let after := c.bumpSkip
  if after.atEnd then faultAt .classUnclosed (after.since c.pos)
  else if after.next? = some '^' then readFirstMembers c.pos true after.bumpSkip
  else readFirstMembers c.pos false after

def setOp? : List Char → Option SetOp
  | '&' :: '&' :: _ => some .intersection
  | '-' :: '-' :: _ => some .difference
  | '~' :: '~' :: _ => some .symmetricDifference
  | _ => none

/-- The set of some members, the last one first, which begin at a place. -/
def unionOf (begun : Nat) (items : List ClassItem) : ClassItem :=
  match items with
  | [] => .empty ⟨begun, begun⟩
  | [item] => item
  | last :: _ =>
    let items := items.reverse
    let start := match items with
      | first :: _ => first.span.start
      | [] => begun
    .union ⟨start, last.span.stop⟩ items

/-- The set of the members so far, applied to the set before the last operator. -/
def closeSet (pending : Option (SetOp × ClassItem)) (begun : Nat) (items : List ClassItem) :
    ClassItem :=
  let set := unionOf begun items
  match pending with
  | none => set
  | some (op, left) => .combined ⟨left.span.start, set.span.stop⟩ op left set

/-- The members of a class to its closing bracket, which is passed. The class has the head
`head`; `items` are its members since the place `begun`, the last one first, and `pending` is
what stands before an operator. -/
def readClassBody (head : Span) (negated : Bool) : (fuel : Nat) →
    (pending : Option (SetOp × ClassItem)) → (begun : Nat) → (items : List ClassItem) → Cursor →
    Except Fault (ClassItem × Cursor)
  | 0, _, _, _, _ => faultAt .classUnclosed head
  | fuel + 1, pending, begun, items, c =>
    let c := c.skipGap
    match c.next? with
    | none => faultAt .classUnclosed head
    | some '[' =>
      match readAsciiClass? c with
      | some (item, after) => readClassBody head negated fuel pending begun (item :: items) after
      | none => do
        let (inner, after) ← readClassHead c
        let (inner, after) ←
          readClassBody (after.since c.pos) inner.negated fuel none inner.begun inner.items after
        readClassBody head negated fuel pending begun (inner :: items) after
    | some ']' =>
      let after := c.bump
      .ok (.bracketed ⟨head.start, after.pos⟩ negated (closeSet pending begun items), after)
    | some _ =>
      match setOp? c.ahead with
      | some op =>
        let after := c.advance 2
        readClassBody head negated fuel (some (op, closeSet pending begun items)) after.pos []
          after
      | none => do
        let (item, after) ← readRange head c
        readClassBody head negated fuel pending begun (item :: items) after

def readClass (c : Cursor) : Except Fault (Ast × Cursor) := do
  let (head, after) ← readClassHead c
  let (item, after) ← readClassBody (after.since c.pos) head.negated (after.ahead.length + 1) none
    head.begun head.items after
  return (.set item, after)

def flag? (c : Char) : Option Flag :=
  match c with
  | 'i' => some .ignoreCase
  | 'm' => some .multiLine
  | 's' => some .dotAll
  | 'U' => some .swapGreed
  | 'u' => some .unicode
  | 'R' => some .carriageReturn
  | 'x' => some .verbose
  | _ => none

/-- Letters of flags up to a colon or a closing parenthesis, which is not passed. The flags so
far are in `seen` with their parts, `none` being the sign of negation. -/
def readFlags : (fuel : Nat) → (seen : List (Option Flag × Span)) → Cursor →
    Except Fault (List (Option Flag × Span) × Cursor)
  | 0, seen, c => .ok (seen, c)
  | fuel + 1, seen, c =>
    match c.next? with
    | none => faultAt .flagUnexpectedEnd c.here
    | some d =>
      if d = ':' ∨ d = ')' then
        match seen with
        | (none, span) :: _ => faultAt .flagDanglingNegation span
        | _ => .ok (seen, c)
      else
        let item? : Option (Option Flag) := if d = '-' then some none else (flag? d).map some
        match item? with
        | none => faultAt .flagUnrecognized c.charSpan
        | some item =>
          match seen.lookup item with
          | some earlier =>
            let kind : FaultKind := if item.isNone then .flagRepeatedNegation else .flagDuplicate
            .error ⟨kind, c.charSpan, some earlier⟩
          | none =>
            let after := c.bump
            if after.atEnd then faultAt .flagUnexpectedEnd after.here
            else readFlags fuel ((item, c.charSpan) :: seen) after

/-- The switches of the letters that were read, the last one first: on before the sign of
negation and off after it. -/
def switchesOf (seen : List (Option Flag × Span)) : Switches :=
  let items := seen.reverse.map (·.1)
  let on := (items.takeWhile Option.isSome).reduceOption
  let off := (items.dropWhile Option.isSome).reduceOption
  on.map (·, true) ++ off.map (·, false)

def isNameChar (first : Bool) (c : Char) : Bool :=
  c == '_' || Text.isAlphabetic c || Text.isRecentAlphabetic c
    || (!first && (c == '.' || c == '[' || c == ']'
      || Text.isOneOf Text.Category.numbers c || Text.isRecentNumber c))

/-- The characters of the name of a group up to the closing angle, which is not passed. -/
def readNameChars (start : Nat) : (fuel : Nat) → Cursor → Except Fault Cursor
  | 0, c => .ok c
  | fuel + 1, c =>
    match c.next? with
    | none => .ok c
    | some '>' => .ok c
    | some d =>
      if isNameChar (c.pos == start) d then readNameChars start fuel c.bump
      else faultAt .groupNameInvalid c.charSpan

def closeGroupName (c after : Cursor) : Except Fault Cursor :=
  if after.atEnd then faultAt .groupNameUnexpectedEnd after.here
  else
    let span := after.since c.pos
    let name := String.ofList (c.ahead.take (after.pos - c.pos))
    if name.isEmpty then faultAt .groupNameEmpty ⟨c.pos, c.pos⟩
    else match c.names.lookup name with
      | some earlier => .error ⟨.groupNameDuplicate, span, some earlier⟩
      | none => .ok { after.bump with names := (name, span) :: after.names }

def readGroupName (c : Cursor) : Except Fault Cursor :=
  if c.atEnd then faultAt .groupNameUnexpectedEnd c.here
  else do
    let after ← readNameChars c.pos c.ahead.length c
    closeGroupName c after

/-- What an opening parenthesis begins. -/
inductive GroupHead
  | switch (switches : Switches)
  | group (captured : Bool) (switches : Switches)

def beginsWith (word : List Char) (s : List Char) : Bool := word.isPrefixOf s

/-- The sign of a condition on what stands around that a text begins with. Patterns have none. -/
def lookAround? (s : List Char) : Option (List Char) :=
  [['?', '='], ['?', '!'], ['?', '<', '='], ['?', '<', '!']].find? (beginsWith · s)

/-- The flags after the question mark of a group, or switches in parentheses. Its parenthesis is the
part `opening` and its question mark stands at `mark`. -/
def readSwitches (opening mark : Span) (c : Cursor) : Except Fault (GroupHead × Cursor) :=
  if c.atEnd then faultAt .groupUnclosed opening
  else do
    let (seen, after) ← readFlags (c.ahead.length + 1) [] c
    if after.next? = some ')' then
      if seen.isEmpty then faultAt .repetitionMissing mark
      else return (.switch (switchesOf seen), after.bump)
    else return (.group false (switchesOf seen), after.bump)

/-- The head of a group, from its parenthesis on, or switches in parentheses. -/
def readGroupHead (c : Cursor) : Except Fault (GroupHead × Cursor) :=
  let after := c.bumpSkip
  match lookAround? after.ahead with
  | some word => faultAt .lookAround ⟨c.pos, after.pos + word.length⟩
  | none =>
    if beginsWith ['?', 'P', '<'] after.ahead then do
      return (.group true [], ← readGroupName (after.advance 3))
    else if beginsWith ['?', '<'] after.ahead then do
      return (.group true [], ← readGroupName (after.advance 2))
    else if beginsWith ['?'] after.ahead then readSwitches c.charSpan after.here after.bump
    else .ok (.group true [], after)

/-- Whether verbose reading is switched. -/
def verboseAfter (switches : Switches) (verbose : Bool) : Bool :=
  (switches.lookup .verbose).getD verbose

def readDecimalDigits : (fuel : Nat) → (digits : List Char) → Cursor → List Char × Cursor
  | 0, digits, c => (digits.reverse, c)
  | fuel + 1, digits, c =>
    match c.next? with
    | some d => if d.isDigit then readDecimalDigits fuel (d :: digits) c.bumpSkip
      else (digits.reverse, c)
    | none => (digits.reverse, c)

/-- Skip blanks, and comments between them in a verbose pattern. -/
def skipBlanksBy (step : Cursor → Cursor) : (fuel : Nat) → Cursor → Cursor
  | 0, c => c
  | fuel + 1, c =>
    match c.next? with
    | some d => if Text.isBlank d then skipBlanksBy step fuel (step c) else c
    | none => c

def decimalOf (span : Span) (digits : List Char) : Except Fault Nat :=
  let value := digits.foldl (fun n d => 10 * n + (d.toNat - '0'.toNat)) 0
  if digits.isEmpty then faultAt .repetitionCountEmpty span
  else if Nat.pow 2 32 ≤ value then faultAt .decimalInvalid span
  else .ok value

def readDecimal (c : Cursor) : Except Fault Nat × Cursor :=
  let c := skipBlanksBy Cursor.bump c.ahead.length c
  let (digits, after) := readDecimalDigits c.ahead.length [] c
  (decimalOf (after.since c.pos) digits, skipBlanksBy Cursor.bumpSkip after.ahead.length after)

structure Counts where
  least : Nat
  most : Option Nat
  greedy : Bool

def faultUnclosed {α : Type} (start : Nat) (c : Cursor) : Except Fault α :=
  faultAt .repetitionCountUnclosed (c.since start)

/-- The bounds of a counted repetition after the comma: there is no upper one, or it is another
number. -/
def readUpper (least : Except Fault Nat) (c : Cursor) :
    Except Fault ((Nat × Option Nat) × Cursor) := do
  let least ← least
  if c.next? = some '}' then return ((least, none), c)
  else
    let (most, after) := readDecimal c
    return ((least, some (← most)), after)

/-- The bounds of a counted repetition that began at `start`, after the lower one. Without a comma
the upper bound is the same. -/
def readMost (start : Nat) (least : Except Fault Nat) (c : Cursor) :
    Except Fault ((Nat × Option Nat) × Cursor) :=
  if c.next? = some ',' then
    let after := c.bumpSkip
    if after.atEnd then faultUnclosed start after else readUpper least after
  else do
    let least ← least
    return ((least, some least), c)

def closeCounts (start : Nat) (bounds : Nat × Option Nat) (c : Cursor) :
    Except Fault (Counts × Cursor) :=
  if c.next? != some '}' then faultUnclosed start c
  else
    let after := c.bumpSkip
    let lazy := after.next? == some '?'
    let after := if lazy then after.bump else after
    if (bounds.2.map fun most => decide (most < bounds.1)).getD false then
      faultAt .repetitionCountInvalid (after.since start)
    else .ok (⟨bounds.1, bounds.2, !lazy⟩, after)

def readCounts (c : Cursor) : Except Fault (Counts × Cursor) :=
  let inside := c.bumpSkip
  if inside.atEnd then faultUnclosed c.pos inside
  else
    let (least, after) := readDecimal inside
    if after.atEnd then faultUnclosed c.pos after
    else do
      let (bounds, after) ← readMost c.pos least after
      closeCounts c.pos bounds after

/-- What a repetition operator applies to: the last item, unless it is none that repeats. -/
def repeatable? : List Ast → Option (Ast × List Ast)
  | .flags .. :: _ => none
  | .empty :: _ => none
  | item :: rest => some (item, rest)
  | [] => none

/-- A concatenation of items, the last one first. -/
def concatOf (span : Span) (items : List Ast) : Ast :=
  match items with
  | [] => .empty
  | [item] => item
  | items => .concat span items.reverse

/-- What has been read of the alternatives of a group: where the first one begins, those that are
complete, the last one first, and where the open one begins, with its items, the last one
first. -/
structure Branches where
  begun : Nat
  complete : List Ast
  opened : Nat
  items : List Ast

namespace Branches

def start (begun : Nat) : Branches := ⟨begun, [], begun, []⟩

def push (item : Ast) (b : Branches) : Branches := { b with items := item :: b.items }

/-- The open alternative ends at one place, and the next one begins at another. -/
def split (stop next : Nat) (b : Branches) : Branches :=
  { b with
    complete := concatOf ⟨b.opened, stop⟩ b.items :: b.complete
    opened := next
    items := [] }

def close (stop : Nat) (b : Branches) : Ast :=
  let last := concatOf ⟨b.opened, stop⟩ b.items
  match b.complete with
  | [] => last
  | complete => .alternation ⟨b.begun, stop⟩ (complete.reverse ++ [last])

end Branches

/-- A group or switches, after their head. The parenthesis stands at `c`. The alternatives of the
group, and those around it with what follows, are read by `body`. -/
def readAfterHead (body : Branches → Cursor → Except Fault (Ast × Cursor)) (branches : Branches)
    (c : Cursor) : GroupHead × Cursor → Except Fault (Ast × Cursor)
  | (.switch switches, after) =>
    body (branches.push (.flags (after.since c.pos) switches))
      { after with verbose := verboseAfter switches c.verbose }
  | (.group captured switches, after) => do
    let (inner, after) ← body (.start after.pos)
      { after with verbose := verboseAfter switches c.verbose }
    if after.next? = some ')' then
      let after := after.bump
      body (branches.push (.group (after.since c.pos) captured switches inner))
        { after with verbose := c.verbose }
    else faultAt .groupUnclosed c.charSpan

/-- The last item repeated by the operator at `c`, and what follows it, which is read by `body`. -/
def readOperator (body : Branches → Cursor → Except Fault (Ast × Cursor)) (branches : Branches)
    (operator : Char) (c : Cursor) : Except Fault (Ast × Cursor) :=
  match repeatable? branches.items with
  | none => faultAt .repetitionMissing c.here
  | some (item, rest) =>
    let after := c.bump
    let lazy := after.next? == some '?'
    let after := if lazy then after.bump else after
    let most := if operator = '?' then some 1 else none
    let repetition :=
      Ast.repetition ⟨item.start, after.pos⟩ item (if operator = '+' then 1 else 0) most !lazy
    body { branches with items := repetition :: rest } after

/-- The last item repeated by the counts in braces at `c`, and what follows it, which is read by
`body`. -/
def readRepetition (body : Branches → Cursor → Except Fault (Ast × Cursor)) (branches : Branches)
    (c : Cursor) : Except Fault (Ast × Cursor) :=
  match repeatable? branches.items with
  | none => faultAt .repetitionMissing c.here
  | some (item, rest) => do
    let (counts, after) ← readCounts c
    let repetition :=
      Ast.repetition ⟨item.start, after.pos⟩ item counts.least counts.most counts.greedy
    body { branches with items := repetition :: rest } after

/-- The alternatives up to a closing parenthesis, which is not passed, or up to the end. -/
def readBody : (fuel : Nat) → Branches → Cursor → Except Fault (Ast × Cursor)
  | 0, branches, c => .ok (branches.close c.pos, c)
  | fuel + 1, branches, c =>
    let c := c.skipGap
    match c.next? with
    | none => .ok (branches.close c.pos, c)
    | some ')' => .ok (branches.close c.pos, c)
    | some '(' => do readAfterHead (readBody fuel) branches c (← readGroupHead c)
    | some '|' =>
      let after := c.bump
      readBody fuel (branches.split c.pos after.pos) after
    | some '[' => do
      let (item, after) ← readClass c
      readBody fuel (branches.push item) after
    | some '\\' => do
      let (item, after) ← readEscape c
      readBody fuel (branches.push item) after
    | some '.' => readBody fuel (branches.push (.dot c.charSpan)) c.bump
    | some '^' => readBody fuel (branches.push (.look c.charSpan .lineStart)) c.bump
    | some '$' => readBody fuel (branches.push (.look c.charSpan .lineEnd)) c.bump
    | some d =>
      if d = '?' ∨ d = '*' ∨ d = '+' then readOperator (readBody fuel) branches d c
      else if d = '{' then readRepetition (readBody fuel) branches c
      else readBody fuel (branches.push (.literal ⟨c.charSpan, d, false⟩)) c.bump

def Ast.read (pattern : String) : Except Fault Ast := do
  let start : Cursor := ⟨pattern.toList, 0, false, []⟩
  let (ast, after) ← readBody (pattern.length + 1) (.start 0) start
  if after.atEnd then return ast else faultAt .groupUnopened after.charSpan

end Formulary.Pattern
