import RuleCap.Pattern.Matching

/-!
# The size of a pattern

A pattern is put to use as a machine over bytes, whose states take memory. A pattern with a machine that is too large is
refused. `Pattern.size` counts the memory: a part for every state, and a part for every way out of a state with more than
one. A repetition counts as often as its parts are repeated.
-/

namespace RuleCap.Pattern

/-- The memory of a state. -/
def stateSize : Nat := 32

/-- The memory that a way out of a state takes by a range of bytes. -/
def rangeSize : Nat := 8

/-- The memory that a way out of a state takes without a byte. -/
def branchSize : Nat := 4

/-- The limit of the memory. -/
def sizeLimit : Nat := 10 * Nat.pow 2 20

/-- The memory of a fork with two ways. -/
def forkSize : Nat := stateSize + 2 * branchSize

/-- The ordinals at which the number of bytes of a character grows, or at which a byte behind the first gets other
values, with the number of bytes from there on. -/
def byteRanges : List (Nat × Nat × Nat) :=
  [(0, 0x7F, 1), (0x80, 0x7FF, 2), (0x800, 0xFFF, 3), (0x1000, 0xCFFF, 3), (0xD000, 0xD7FF, 3), (0xD800, 0xF7FF, 3),
    (0xF800, 0x3F7FF, 4), (0x3F800, 0xFF7FF, 4), (0xFF800, lastOrdinal, 4)]

/-- The memory of a set: one state for ASCII, a chain of states for every length of bytes else. -/
def setSize (set : CharSet) : Nat :=
  match CharSet.single? set with
  | some c => c.utf8Size * stateSize
  | none =>
    if List.all set fun r => r.2 < 0x80 then 2 * stateSize + set.length * rangeSize
    else
      let lengths := byteRanges.flatMap fun b => (set.filter fun r => r.1 ≤ b.2.1 ∧ b.1 ≤ r.2).map fun _ => b.2.2
      2 * stateSize + (lengths.foldl (· + ·) 0) * stateSize + lengths.length * branchSize

/-- Whether a pattern can match the empty text. -/
def canBeEmpty : Pattern → Bool
  | empty => true
  | one _ => false
  | look _ => true
  | unicodeWord => true
  | capture p => p.canBeEmpty
  | sequence a b => a.canBeEmpty && b.canBeEmpty
  | either a b => a.canBeEmpty || b.canBeEmpty
  | repetition p least _ => least == 0 || p.canBeEmpty

/-- Whether a pattern is one of two others. -/
def isEither : Pattern → Bool
  | either .. => true
  | _ => false

/-- **The memory of a pattern.** -/
def size : Pattern → Nat
  | empty => stateSize
  | one set => setSize set
  | look _ => stateSize
  | unicodeWord => stateSize
  | capture p => 2 * stateSize + p.size
  | sequence a b => a.size + b.size
  | either a b => a.size + b.size + (if a.isEither || b.isEither then branchSize else stateSize + forkSize)
  | repetition p least most =>
    match most with
    | some most =>
      if least = most then least * p.size else least * p.size + (most - least) * (p.size + forkSize) + stateSize
    | none =>
      if least = 0 ∧ p.canBeEmpty then p.size + 2 * forkSize + stateSize else max least 1 * p.size + forkSize

/-- The memory of what every machine has besides its pattern: a search from all places, a capture and an end. -/
def frameSize : Nat := 6 * stateSize + rangeSize + 2 * branchSize

/-- Whether a pattern is small enough to be used. -/
def fits (p : Pattern) : Bool := p.size + frameSize ≤ sizeLimit

/-- Whether a pattern asks for what holds of words by Unicode. -/
def needsUnicodeWords : Pattern → Bool
  | unicodeWord => true
  | capture p => p.needsUnicodeWords
  | sequence a b => a.needsUnicodeWords || b.needsUnicodeWords
  | either a b => a.needsUnicodeWords || b.needsUnicodeWords
  | repetition p _ _ => p.needsUnicodeWords
  | _ => false

end RuleCap.Pattern
