import RuleCap.Pattern.CharSet
import RuleCap.Pattern.Reading

/-!
# What a pattern means

A `Pattern` is a pattern without spans and flags: what its tree means under the flags that hold at each part
(`Tree.meaning`). Flags hold from where they stand to the end of the group around them. Without Unicode a pattern knows
the characters of ASCII alone; with it the sets of letters and digits are those of ASCII when they have a name, and
those with a letter or by a property are not to be had, nor is the equality of small and capital letters.
-/

namespace RuleCap

/-- What must hold at a place between characters. -/
inductive Pattern.Look
  | textStart
  | textEnd
  | lineStart
  | lineEnd
  /-- A line may also be ended by a carriage return. -/
  | carriageLineStart
  | carriageLineEnd
  | wordBoundary
  | noWordBoundary
  | wordStart
  | wordEnd
  | wordStartHalf
  | wordEndHalf
deriving DecidableEq, Repr

/-- What a pattern means. -/
inductive Pattern
  | empty
  | one (set : Pattern.CharSet)
  | look (l : Pattern.Look)
  /-- What holds of words by Unicode, which can not be told. -/
  | unicodeWord
  | capture (p : Pattern)
  | sequence (a b : Pattern)
  | either (a b : Pattern)
  | repetition (p : Pattern) (least : Nat) (most : Option Nat)
deriving Repr

namespace Pattern

/-- Whether a pattern can match nothing but the empty text. -/
def hasNoWidth : Pattern → Bool
  | empty => true
  | one _ => false
  | look _ => true
  | unicodeWord => true
  | capture p => p.hasNoWidth
  | sequence a b => a.hasNoWidth && b.hasNoWidth
  | either a b => a.hasNoWidth && b.hasNoWidth
  | repetition p _ _ => p.hasNoWidth

/-- A repetition, less what does nothing: no times, one time, and more than one time of what has no width. -/
def repeated (p : Pattern) (least : Nat) (most : Option Nat) : Pattern :=
  let (least, most) := if p.hasNoWidth then (min least 1, some ((most.map (min · 1)).getD 1)) else (least, most)
  if least = 0 ∧ most = some 0 then empty
  else if least = 1 ∧ most = some 1 then p
  else repetition p least most

/-- One of two patterns; of two sets of characters what is in one of them. -/
def choice : Pattern → Pattern → Pattern
  | one s, one t => one (s.union t)
  | p, q => either p q

/-! ## Flags -/

/-- The flags of a pattern. -/
structure Flags where
  caseless : Bool
  multiline : Bool
  dotAll : Bool
  unicode : Bool
  carriage : Bool
deriving DecidableEq, Repr

namespace Flags

/-- The flags at the begin of a pattern. -/
def start : Flags := ⟨false, false, false, true, false⟩

/-- Flags after a change. -/
def change (f : Flags) (c : FlagChange) : Flags :=
  ⟨c.caseless.getD f.caseless, c.multiline.getD f.multiline, c.dotAll.getD f.dotAll, c.unicode.getD f.unicode,
    c.carriage.getD f.carriage⟩

end Flags

/-! ## Sets of characters -/

/-- The characters of a text, as a set. -/
def setOf (t : Text) : CharSet := t.foldl (fun s c => s.union (.between c c)) []

/-- The named sets of ASCII characters. -/
def AsciiName.set : AsciiName → CharSet
  | .alnum => CharSet.union (.between '0' '9') (.union (.between 'A' 'Z') (.between 'a' 'z'))
  | .alpha => CharSet.union (.between 'A' 'Z') (.between 'a' 'z')
  | .ascii => .between '\x00' '\x7F'
  | .blank => setOf ['\t', ' ']
  | .cntrl => CharSet.union (.between '\x00' '\x1F') (.between '\x7F' '\x7F')
  | .digit => .between '0' '9'
  | .graph => .between '!' '~'
  | .lower => .between 'a' 'z'
  | .printable => .between ' ' '~'
  | .punct =>
    CharSet.union (.between '!' '/') (.union (.between ':' '@') (.union (.between '[' '\x60') (.between '\x7B' '~')))
  | .space => CharSet.union (.between '\t' '\r') (.between ' ' ' ')
  | .upper => .between 'A' 'Z'
  | .word =>
    CharSet.union (.between '0' '9') (.union (.between 'A' 'Z') (.union (.between '_' '_') (.between 'a' 'z')))
  | .xdigit => CharSet.union (.between '0' '9') (.union (.between 'A' 'F') (.between 'a' 'f'))

/-- The sets of ASCII characters with a letter. -/
def Shorthand.set : Shorthand → CharSet
  | .digit => AsciiName.digit.set
  | .space => AsciiName.space.set
  | .word => AsciiName.word.set

/-- A set, its letters made equal to those that differ in case and then negated, as flags and signs ask for. -/
def adjust (f : Flags) (span : Span) (negated : Bool) (s : CharSet) : Except Fault CharSet :=
  if f.unicode then
    if f.caseless ∧ !s.isEmpty then fault .foldingMissing span else .ok (if negated then s.complement else s)
  else if negated then fault .notUtf8 span
  else .ok (if f.caseless then s.foldAscii else s)

/-- A set with a letter. -/
def shorthandSet (f : Flags) (span : Span) (kind : Shorthand) (negated : Bool) : Except Fault CharSet :=
  if f.unicode then fault .shorthandMissing span
  else if negated then fault .notUtf8 span
  else .ok kind.set

/-- The name of a property without what does not matter in it: capitals, spaces, dashes and a first "is". -/
def plainName (name : Text) : Text :=
  let lower := name.map Char.toLower
  let rest := if lower.take 2 = ['i', 's'] then lower.drop 2 else lower
  let plain := rest.filter fun c => c.toNat < 0x80 && c != ' ' && c != '_' && c != '-'
  if lower.take 2 = ['i', 's'] ∧ plain = ['c'] then ['i', 's', 'c'] else plain

/-- The properties whose name is taken for a value of the general category. -/
def categoryNames : List Text := [['c', 'f'], ['s', 'c'], ['l', 'c']]

/-- What is wrong with a set by a property. -/
def propertyFlaw (f : Flags) (name : Text) : Flaw :=
  if !f.unicode then .unicodeHere
  else if categoryNames.contains (plainName name) then .propertyValueUnknown
  else .propertyUnknown

/-- The character of a literal. Without Unicode one that is written as a byte has to be of ASCII. -/
def literalChar (f : Flags) (l : Literal) : Except Fault Char :=
  if !f.unicode ∧ l.isByte ∧ 0x80 ≤ l.char.toNat then fault .notUtf8 l.span else .ok l.char

/-- The character of a literal between brackets. Without Unicode it has to be of ASCII. -/
def setChar (f : Flags) (l : Literal) : Except Fault Char := do
  let c ← literalChar f l
  if !f.unicode ∧ 0x80 ≤ c.toNat then fault .unicodeHere l.span else .ok c

/-- Two sets combined. -/
def SetOperation.apply : SetOperation → CharSet → CharSet → CharSet
  | .intersection => CharSet.intersection
  | .difference => CharSet.difference
  | .symmetricDifference => CharSet.symmetricDifference

/-- The set that stands between brackets. -/
def ClassTree.set (f : Flags) : ClassTree → Except Fault CharSet
  | nothing _ => .ok []
  | range _ first last => do return .between (← setChar f first) (← setChar f last)
  | named span name negated => adjust f span negated name.set
  | shorthand span kind negated => shorthandSet f span kind negated
  | property span name => fault (propertyFlaw f name) span
  | bracketed span negated inner => do adjust f span negated (← inner.set f)
  | union _ items => items.set f
  | both a b => do
    let x ← a.set f
    return x.union (← b.set f)
  | combined _ operation a b => do
    let x ← a.set f
    let y ← b.set f
    let y ← adjust f b.span false y
    let x ← adjust f a.span false x
    return operation.apply x y

/-! ## Parts -/

/-- A literal. -/
def literal (f : Flags) (l : Literal) : Except Fault Pattern := do
  let c ← literalChar f l
  let set := CharSet.between c c
  if !f.caseless then return one set
  else if f.unicode then fault .foldingMissing l.span
  else if c.toNat < 0x80 then return one set.foldAscii
  else return one set

/-- A dot. -/
def dot (f : Flags) (span : Span) : Except Fault Pattern :=
  if !f.unicode then fault .notUtf8 span
  else if f.dotAll then .ok (one .full)
  else if f.carriage then .ok (one (setOf ['\n', '\r']).complement)
  else .ok (one (setOf ['\n']).complement)

/-- An assertion. -/
def assertion (f : Flags) (kind : Assertion) : Pattern :=
  let word (l : Look) := if f.unicode then unicodeWord else look l
  match kind with
  | .lineStart =>
    look (if !f.multiline then .textStart else if f.carriage then .carriageLineStart else .lineStart)
  | .lineEnd => look (if !f.multiline then .textEnd else if f.carriage then .carriageLineEnd else .lineEnd)
  | .textStart => look .textStart
  | .textEnd => look .textEnd
  | .wordBoundary => word .wordBoundary
  | .noWordBoundary => word .noWordBoundary
  | .wordStart => word .wordStart
  | .wordEnd => word .wordEnd
  | .wordStartHalf => word .wordStartHalf
  | .wordEndHalf => word .wordEndHalf

/-- **What a tree means** under the flags at its begin, and the flags behind it. -/
def Tree.meaning : Tree → Flags → Except Fault (Pattern × Flags)
  | empty _, f => .ok (.empty, f)
  | flags _ change, f => .ok (.empty, f.change change)
  | literal l, f => do return (← Pattern.literal f l, f)
  | dot span, f => do return (← Pattern.dot f span, f)
  | assertion _ kind, f => .ok (Pattern.assertion f kind, f)
  | shorthand span kind negated, f => do return (.one (← shorthandSet f span kind negated), f)
  | property span name, f => fault (propertyFlaw f name) span
  | set items, f => do return (.one (← items.set f), f)
  | repetition _ inner least most, f => do
    let (p, f) ← inner.meaning f
    return (p.repeated least most, f)
  | capture _ inner, f => do
    let (p, _) ← inner.meaning f
    return (.capture p, f)
  | group _ change inner, f => do
    let (p, _) ← inner.meaning (f.change change)
    return (p, f)
  | concat _ parts, f => parts.meaning f
  | alternation _ branches, f => branches.meaning f
  | sequence a b, f => do
    let (p, f) ← a.meaning f
    let (q, f) ← b.meaning f
    return (.sequence p q, f)
  | either a b, f => do
    let (p, f) ← a.meaning f
    let (q, f) ← b.meaning f
    return (p.choice q, f)

end Pattern

end RuleCap
