import RuleCap.Text.Utf8

/-!
# What a terminal would show

A text that goes to a terminal may hold control characters, and sequences behind an escape character that move the
cursor or set a colour. `shown` keeps the characters that a terminal would show, white space among them. It is a machine
over bytes (`Sequence.next`); a sequence that never ends hides all that comes behind it.

White space inside some sequences is shown although the sequence is not at its end. What comes then depends on the
`Medium`: in both of them the characters that follow are shown until one comes that can not be; in a message the
sequence is over with that, and in a stream it goes on there.
-/

namespace RuleCap.Terminal

/-- Where a text is put: all of it at once, or as it comes. -/
inductive Medium
  | message
  | stream
deriving DecidableEq, Repr

/-- The part of a sequence that has been read, by the kind of the sequence. -/
inductive Sequence
  /-- No sequence. -/
  | none
  /-- The escape character alone. -/
  | escape
  | escapeMore
  /-- A sequence behind an escape and `[`. -/
  | control
  | controlNumbers
  | controlMore
  | controlIgnored
  /-- A sequence behind an escape and `P`. -/
  | device
  | deviceNumbers
  | deviceMore
  | deviceText
  /-- A sequence behind an escape and `]`. -/
  | systemText
  /-- A sequence behind an escape and `X`, `^` or `_`. -/
  | otherText
deriving DecidableEq, Repr

/-- Whether a byte is in a range. -/
def within (low high : UInt8) (b : UInt8) : Bool := low ≤ b && b ≤ high

/-- Bytes of white space. -/
def isWhite (b : UInt8) : Bool := [0x09, 0x0A, 0x0C, 0x0D, 0x20].contains b

namespace Sequence

/-- The kind of sequence that the byte behind an escape begins. -/
def afterEscape (b : UInt8) : Sequence :=
  if b = 0x5B then control
  else if b = 0x5D then systemText
  else if b = 0x50 then device
  else if b = 0x58 ∨ b = 0x5E ∨ b = 0x5F then otherText
  else if within 0x20 0x2F b then escapeMore
  else if within 0x30 0x7E b then none
  else escape

/-- **The sequence with one more byte.** An escape begins a new one anywhere, and two controls end any. -/
def next (s : Sequence) (b : UInt8) : Sequence :=
  if b = 0x18 ∨ b = 0x1A then none
  else if b = 0x1B then escape
  else
    match s with
    | none => none
    | escape => afterEscape b
    | escapeMore => if within 0x30 0x7E b then none else s
    | control =>
      if within 0x20 0x2F b then controlMore
      else if within 0x30 0x3F b then controlNumbers
      else if within 0x40 0x7E b then none
      else s
    | controlNumbers =>
      if within 0x20 0x2F b then controlMore
      else if within 0x3C 0x3F b then controlIgnored
      else if within 0x40 0x7E b then none
      else s
    | controlMore =>
      if within 0x30 0x3F b then controlIgnored
      else if within 0x40 0x7E b then none
      else s
    | controlIgnored => if within 0x40 0x7E b then none else s
    | device =>
      if within 0x20 0x2F b then deviceMore
      else if within 0x30 0x3F b then deviceNumbers
      else if within 0x40 0x7E b then deviceText
      else s
    | deviceNumbers =>
      if within 0x20 0x2F b then deviceMore
      else if within 0x3C 0x3F b then otherText
      else if within 0x40 0x7E b then deviceText
      else s
    | deviceMore =>
      if within 0x30 0x3F b then otherText
      else if within 0x40 0x7E b then deviceText
      else s
    | deviceText => if b = 0x9C then none else s
    | systemText => if b = 0x07 then none else s
    | otherText => if b = 0x9C then none else s

/-- Whether controls are obeyed inside a sequence, so that white space is shown there. -/
def obeysControls : Sequence → Bool
  | none => true
  | escape => true
  | escapeMore => true
  | control => true
  | controlNumbers => true
  | controlMore => true
  | controlIgnored => true
  | _ => false

/-- Whether a byte is shown inside a sequence: outside of all of them what can be seen, white space, and the begin of
a character of several bytes; inside of them at most white space that is a control. -/
def shows (s : Sequence) (b : UInt8) : Bool :=
  (s == none && (within 0x20 0x7E b || within 0xC2 0xF4 b)) || (s.obeysControls && isWhite b && b != 0x20)

end Sequence

/-- The bytes that are shown. While characters are shown (`showing`) the sequence that has not come to its end is kept
in mind; a character of several bytes ends it. -/
def shownBytes (medium : Medium) : Bool → Sequence → Bytes → Bytes
  | _, _, [] => []
  | showing, s, b :: rest =>
    if showing && (0x80 ≤ b || Sequence.none.shows b) then
      b :: shownBytes medium true (if 0x80 ≤ b then .none else s) rest
    else
      let s := if showing ∧ medium = .message then .none else s
      if s.shows b then b :: shownBytes medium true s rest else shownBytes medium false (s.next b) rest

/-- **What a terminal would show of a text.** -/
def shown (medium : Medium) (t : Text) : Text :=
  Utf8.decode (shownBytes medium false .none (Utf8.encode t))

example : shown .message "a\x1B[1;31mb\x1B]0;title\x07c\x1B(Bd".toList = "abcd".toList := by decide +kernel

example : shown .stream "\x1B[1\nm\x07mé".toList = "\nmé".toList := by decide +kernel

example : shown .message "\x1B[1\nm\x07mé".toList = "\nmmé".toList := by decide +kernel

end RuleCap.Terminal
