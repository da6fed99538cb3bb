import RuleCap.Pattern.Cursor

/-!
# Patterns as they are written

The tree of a pattern, with the span of every part of which a flaw may be reported. Parts next to each other are chained
in pairs (`sequence`, `either`) below one node that knows the span of all of them. Whether a repetition prefers few or
many is left out, since it has no part in whether a text is matched.
-/

namespace RuleCap.Pattern

/-- A character of a pattern; `isByte` if it is written as two hexadecimal digits. -/
structure Literal where
  span : Span
  char : Char
  isByte : Bool
deriving DecidableEq, Repr

/-- What holds at a place between characters. -/
inductive Assertion
  | lineStart
  | lineEnd
  | textStart
  | textEnd
  | wordBoundary
  | noWordBoundary
  | wordStart
  | wordEnd
  | wordStartHalf
  | wordEndHalf
deriving DecidableEq, Repr

/-- The sets of characters with a letter of their own. -/
inductive Shorthand
  | digit
  | space
  | word
deriving DecidableEq, Repr

/-- The sets of ASCII characters with a name. -/
inductive AsciiName
  | alnum
  | alpha
  | ascii
  | blank
  | cntrl
  | digit
  | graph
  | lower
  | printable
  | punct
  | space
  | upper
  | word
  | xdigit
deriving DecidableEq, Repr

/-- The named sets of ASCII characters. -/
def AsciiName.all : List (Text × AsciiName) :=
  [("alnum".toList, .alnum), ("alpha".toList, .alpha), ("ascii".toList, .ascii), ("blank".toList, .blank),
    ("cntrl".toList, .cntrl), ("digit".toList, .digit), ("graph".toList, .graph), ("lower".toList, .lower),
    ("print".toList, .printable), ("punct".toList, .punct), ("space".toList, .space), ("upper".toList, .upper),
    ("word".toList, .word), ("xdigit".toList, .xdigit)]

/-- How two sets are combined. -/
inductive SetOperation
  | intersection
  | difference
  | symmetricDifference
deriving DecidableEq, Repr

/-- What is between brackets. -/
inductive ClassTree
  | nothing (span : Span)
  | range (span : Span) (first last : Literal)
  | named (span : Span) (name : AsciiName) (negated : Bool)
  | shorthand (span : Span) (kind : Shorthand) (negated : Bool)
  | property (span : Span) (name : Text)
  | bracketed (span : Span) (negated : Bool) (inner : ClassTree)
  | union (span : Span) (items : ClassTree)
  | both (a b : ClassTree)
  | combined (span : Span) (operation : SetOperation) (a b : ClassTree)
deriving Repr

/-- The span of what is between brackets. -/
def ClassTree.span : ClassTree → Span
  | nothing span => span
  | range span .. => span
  | named span .. => span
  | shorthand span .. => span
  | property span _ => span
  | bracketed span .. => span
  | union span _ => span
  | both a b => ⟨a.span.first, b.span.last⟩
  | combined span .. => span

/-- A change of the flags of a pattern: what it says of each. -/
structure FlagChange where
  caseless : Option Bool
  multiline : Option Bool
  dotAll : Option Bool
  unicode : Option Bool
  carriage : Option Bool
  loose : Option Bool
deriving DecidableEq, Repr

/-- A pattern. -/
inductive Tree
  | empty (span : Span)
  | flags (span : Span) (change : FlagChange)
  | literal (l : Literal)
  | dot (span : Span)
  | assertion (span : Span) (kind : Assertion)
  | shorthand (span : Span) (kind : Shorthand) (negated : Bool)
  | property (span : Span) (name : Text)
  | set (items : ClassTree)
  | repetition (span : Span) (inner : Tree) (least : Nat) (most : Option Nat)
  /-- A group that is captured. -/
  | capture (span : Span) (inner : Tree)
  /-- A group that is not, with the flags inside it. -/
  | group (span : Span) (change : FlagChange) (inner : Tree)
  | concat (span : Span) (parts : Tree)
  | alternation (span : Span) (branches : Tree)
  | sequence (a b : Tree)
  | either (a b : Tree)
deriving Repr

namespace Tree

/-- The span of a pattern. -/
def span : Tree → Span
  | empty span => span
  | flags span _ => span
  | literal l => l.span
  | dot span => span
  | assertion span _ => span
  | shorthand span .. => span
  | property span _ => span
  | set items => items.span
  | repetition span .. => span
  | capture span _ => span
  | group span .. => span
  | concat span _ => span
  | alternation span _ => span
  | sequence a b => ⟨a.span.first, b.span.last⟩
  | either a b => ⟨a.span.first, b.span.last⟩

/-- Whether a pattern can not be repeated. -/
def isFlags : Tree → Bool
  | flags .. => true
  | _ => false

end Tree

/-! ## Depth -/

/-- Refuses what is between brackets if it is nested too deep. -/
def ClassTree.checkDepth : Nat → ClassTree → Except Fault Unit
  | depth, bracketed span _ inner =>
    if depth < greatestDepth then inner.checkDepth (depth + 1) else fault .tooDeep span
  | depth, union span items => if depth < greatestDepth then items.checkDepth (depth + 1) else fault .tooDeep span
  | depth, both a b => do
    a.checkDepth depth
    b.checkDepth depth
  | depth, combined span _ a b =>
    if depth < greatestDepth then do
      a.checkDepth (depth + 1)
      b.checkDepth (depth + 1)
    else fault .tooDeep span
  | _, _ => .ok ()

/-- Refuses a pattern that is nested too deep. -/
def Tree.checkDepth : Nat → Tree → Except Fault Unit
  | depth, set items => items.checkDepth depth
  | depth, repetition span inner _ _ =>
    if depth < greatestDepth then inner.checkDepth (depth + 1) else fault .tooDeep span
  | depth, capture span inner => if depth < greatestDepth then inner.checkDepth (depth + 1) else fault .tooDeep span
  | depth, group span _ inner => if depth < greatestDepth then inner.checkDepth (depth + 1) else fault .tooDeep span
  | depth, concat span parts => if depth < greatestDepth then parts.checkDepth (depth + 1) else fault .tooDeep span
  | depth, alternation span branches =>
    if depth < greatestDepth then branches.checkDepth (depth + 1) else fault .tooDeep span
  | depth, sequence a b => do
    a.checkDepth depth
    b.checkDepth depth
  | depth, either a b => do
    a.checkDepth depth
    b.checkDepth depth
  | _, _ => .ok ()

end RuleCap.Pattern
