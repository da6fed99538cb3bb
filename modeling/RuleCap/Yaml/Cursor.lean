import RuleCap.Text

/-!
# Positions in a YAML stream

A stream is read character by character. `Yaml.readable?` refuses a stream with a control character and writes every
line break but U+2028 and U+2029 as a newline, which is how the content of a document shows them. A `Mark` is a position,
and a `Cursor` the rest of the stream with the position at which it begins.
-/

namespace RuleCap.Yaml

/-! ## Characters -/

/-- The characters that may stand in a stream. -/
def isReadable (c : Char) : Bool :=
  let n := c.toNat
  n == 0x09 || n == 0x0A || n == 0x0D || (0x20 ≤ n && n ≤ 0x7E) || n == 0x85 || (0xA0 ≤ n && n ≤ 0xD7FF) ||
    (0xE000 ≤ n && n ≤ 0xFFFD) || 0x10000 ≤ n

/-- The text with a newline for a carriage return, for one with the newline after it, and for U+0085. -/
def unifyBreaks : Text → Text
  | [] => []
  | '\r' :: '\n' :: rest => '\n' :: unifyBreaks rest
  | c :: rest => (if c = '\r' ∨ c = '\u0085' then '\n' else c) :: unifyBreaks rest

/-- A stream without control characters, with its breaks unified. -/
def readable? (t : Text) : Option Text :=
  if t.all isReadable then some (unifyBreaks t) else none

/-- A space or a tab. -/
def isGap (c : Char) : Bool := c == ' ' || c == '\t'

/-- The end of a line, in a stream with unified breaks. -/
def endsLine (c : Char) : Bool := c == '\n' || c == '\u2028' || c == '\u2029'

/-- Whether a text begins with a space, a tab or the end of a line, or is empty. -/
def startsBlank : Text → Bool
  | [] => true
  | c :: _ => isGap c || endsLine c

/-- Whether a text begins with the end of a line, or is empty. -/
def startsBreak : Text → Bool
  | [] => true
  | c :: _ => endsLine c

/-- The characters of the names of anchors, tags and directives. -/
def isWord (c : Char) : Bool := c.isAlphanum || c == '_' || c == '-'

/-- Whether a line that begins with this text begins with one of the two marks between documents. -/
def startsDocumentMark (t : Text) : Bool :=
  (t.take 3 == ['-', '-', '-'] || t.take 3 == ['.', '.', '.']) && startsBlank (t.drop 3)

/-! ## Positions -/

/-- A position: the lines before it, and the characters and the bytes before it on its line. -/
structure Mark where
  line : Nat
  column : Nat
  offset : Nat
deriving DecidableEq, Repr

namespace Mark

/-- The begin of the stream. -/
def start : Mark := ⟨0, 0, 0⟩

/-- The position after a character of the line. -/
def right (m : Mark) (c : Char) : Mark := ⟨m.line, m.column + 1, m.offset + c.utf8Size⟩

/-- The position after some characters of the line. -/
def past (m : Mark) (t : Text) : Mark := t.foldl right m

/-- The position after a line break. -/
def nextLine (m : Mark) : Mark := ⟨m.line + 1, 0, 0⟩

end Mark

/-- The rest of a stream and where it begins. -/
structure Cursor where
  rest : Text
  mark : Mark
deriving DecidableEq, Repr

namespace Cursor

/-- The cursor after a number of characters of the line. -/
def right (c : Cursor) (n : Nat) : Cursor := ⟨c.rest.drop n, c.mark.past (c.rest.take n)⟩

/-- The cursor at a later place of the same line, given by what is left there. -/
def upTo (c : Cursor) (rest : Text) : Cursor := c.right (c.rest.length - rest.length)

/-- The cursor after the characters of the line that satisfy a test. -/
def skipWhile (c : Cursor) (p : Char → Bool) : Cursor := c.upTo (c.rest.dropWhile p)

/-- The cursor on the next line, if the line ends here. -/
def skipBreak (c : Cursor) : Cursor :=
  match c.rest with
  | d :: rest => if endsLine d then ⟨rest, c.mark.nextLine⟩ else c
  | [] => c

/-- The cursor at the end of the line, if a comment begins here. -/
def skipComment (c : Cursor) : Cursor :=
  match c.rest with
  | '#' :: _ => c.skipWhile fun d => !endsLine d
  | _ => c

end Cursor

end RuleCap.Yaml
