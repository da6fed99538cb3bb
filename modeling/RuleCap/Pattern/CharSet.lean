import RuleCap.Text

/-!
# Sets of characters

A set of characters is a list of ranges in order, with a gap between any two. The ranges are of ordinals, that is code
points without the gap that no character has (`ordinal`), so that all characters make one range (`CharSet.full`) and the
complement of a set is made of the gaps between its ranges.
-/

namespace RuleCap.Pattern

/-- The place of a character among all characters. -/
def ordinal (c : Char) : Nat := if c.toNat < 0xD800 then c.toNat else c.toNat - 0x800

/-- The place of the last character. -/
def lastOrdinal : Nat := 0x10F7FF

/-- A set of characters, by ranges of their places. -/
abbrev CharSet := List (Nat × Nat)

namespace CharSet

/-- The characters from one to another. -/
def between (first last : Char) : CharSet := [(ordinal first, ordinal last)]

/-- All characters. -/
def full : CharSet := [(0, lastOrdinal)]

/-- Whether a character is in a set. -/
def contains (s : CharSet) (c : Char) : Bool := s.any fun r => r.1 ≤ ordinal c && ordinal c ≤ r.2

/-- A set with one more range. -/
def insert (low high : Nat) : CharSet → CharSet
  | [] => [(low, high)]
  | r :: rest =>
    if high + 1 < r.1 then (low, high) :: r :: rest
    else if r.2 + 1 < low then r :: insert low high rest
    else insert (min low r.1) (max high r.2) rest

/-- What is in one of two sets. -/
def union (a b : CharSet) : CharSet := a.foldl (fun s r => insert r.1 r.2 s) b

/-- The gaps between ranges, from a place on. -/
def gapsFrom : Nat → CharSet → CharSet
  | low, [] => if low ≤ lastOrdinal then [(low, lastOrdinal)] else []
  | low, r :: rest => if low < r.1 then (low, r.1 - 1) :: gapsFrom (r.2 + 1) rest else gapsFrom (r.2 + 1) rest

/-- What is not in a set. -/
def complement (s : CharSet) : CharSet := gapsFrom 0 s

/-- What is in both of two sets. -/
def intersection (a b : CharSet) : CharSet := complement (union (complement a) (complement b))

/-- What is in the first of two sets alone. -/
def difference (a b : CharSet) : CharSet := intersection a (complement b)

/-- What is in one of two sets and not in both. -/
def symmetricDifference (a b : CharSet) : CharSet := difference (union a b) (intersection a b)

/-- A set of ASCII characters with the small and the capital letter of each letter in it. -/
def foldAscii (s : CharSet) : CharSet :=
  let capitals := (intersection s (between 'a' 'z')).map fun r => (r.1 - 32, r.2 - 32)
  let small := (intersection s (between 'A' 'Z')).map fun r => (r.1 + 32, r.2 + 32)
  union capitals (union small s)

/-- The one character of a set, if it has no other. -/
def single? : CharSet → Option Char
  | [(low, high)] => if low = high then some (Char.ofNat (if low < 0xD800 then low else low + 0x800)) else none
  | _ => none

example : complement (union (between 'b' 'c') (between 'd' 'd')) = [(0, 0x61), (0x65, lastOrdinal)] := by decide

example : difference (between 'a' 'z') (between 'c' 'y') = [(0x61, 0x62), (0x7A, 0x7A)] := by decide

end CharSet

end RuleCap.Pattern
