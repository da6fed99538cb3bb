import RuleCap.Text

/-!
# Texts as bytes

UTF-8. `encode` writes a text; `decode` reads any bytes, putting U+FFFD for every part that is no character, one for
each longest part that could have begun one. The reader is a machine that takes a byte at a time (`step`), so what it
says of a file can be put together from what it says of the pieces. `decode?` reads only what `encode` writes.
-/

namespace RuleCap.Utf8

/-- The byte with the given value. -/
def byte (n : Nat) : UInt8 := UInt8.ofNat n

/-- The bytes of a character: one to four of them. -/
def encodeChar (c : Char) : Bytes :=
  let n := c.toNat
  if n < 0x80 then [byte n]
  else if n < 0x800 then [byte (0xC0 + n / 0x40), byte (0x80 + n % 0x40)]
  else if n < 0x10000 then
    [byte (0xE0 + n / 0x1000), byte (0x80 + n / 0x40 % 0x40), byte (0x80 + n % 0x40)]
  else
    [byte (0xF0 + n / 0x40000), byte (0x80 + n / 0x1000 % 0x40), byte (0x80 + n / 0x40 % 0x40),
      byte (0x80 + n % 0x40)]

/-- The bytes of a text. -/
def encode (t : Text) : Bytes :=
  t.flatMap encodeChar

/-- A character begun: the value so far, the bytes owed after the next one, and the range the next one must be in. -/
structure Begun where
  value : Nat
  owed : Nat
  low : Nat
  high : Nat
deriving DecidableEq, Repr

/-- The mark that stands for bytes that are no character. -/
def replacement : Char := '\uFFFD'

/-- What a first byte says: a whole character, the begin of one, or nothing that UTF-8 allows. -/
def first (b : Nat) : Text × Option Begun :=
  if b < 0x80 then ([Char.ofNat b], none)
  else if b < 0xC2 then ([replacement], none)
  else if b < 0xE0 then ([], some ⟨b - 0xC0, 0, 0x80, 0xBF⟩)
  else if b < 0xF0 then
    ([], some ⟨b - 0xE0, 1, if b = 0xE0 then 0xA0 else 0x80, if b = 0xED then 0x9F else 0xBF⟩)
  else if b < 0xF5 then
    ([], some ⟨b - 0xF0, 2, if b = 0xF0 then 0x90 else 0x80, if b = 0xF4 then 0x8F else 0xBF⟩)
  else ([replacement], none)

/-- One byte: what can be written at once, and the character left open. A byte that cannot go on with the open
character closes it as a failed part and is read anew. -/
def step : Option Begun → UInt8 → Text × Option Begun
  | none, b => first b.toNat
  | some p, b =>
    if p.low ≤ b.toNat ∧ b.toNat ≤ p.high then
      let value := p.value * 0x40 + (b.toNat - 0x80)
      match p.owed with
      | 0 => ([Char.ofNat value], none)
      | owed + 1 => ([], some ⟨value, owed, 0x80, 0xBF⟩)
    else
      let again := first b.toNat
      (replacement :: again.1, again.2)

/-- Reads bytes from a given state; a character left open at the end is a failed part. -/
def decodeFrom : Option Begun → Bytes → Text
  | none, [] => []
  | some _, [] => [replacement]
  | state, b :: rest => (step state b).1 ++ decodeFrom (step state b).2 rest

/-- **The text of any bytes**, with U+FFFD for each part that is no character. -/
def decode (bytes : Bytes) : Text := decodeFrom none bytes

/-- The text of bytes that are UTF-8 throughout. -/
def decode? (bytes : Bytes) : Option Text :=
  if encode (decode bytes) = bytes then some (decode bytes) else none

/-- The number of bytes that a text takes. -/
def size (t : Text) : Nat := (encode t).length

example : decode [0x61, 0xE2, 0x82, 0x0A, 0xF0, 0x9F, 0x98, 0x80] = ['a', '\uFFFD', '\n', '😀'] := by decide

example : decode [0xED, 0xA0, 0x80, 0xC3] = ['\uFFFD', '\uFFFD', '\uFFFD', '\uFFFD'] := by decide

example : encode "é€😀".toList = [0xC3, 0xA9, 0xE2, 0x82, 0xAC, 0xF0, 0x9F, 0x98, 0x80] := by decide

end RuleCap.Utf8
