import RuleCap.Text

/-!
# Blank characters

The characters that count as white space. `isSpace` is the Unicode property White_Space; `isBlank` adds the four
information separators U+001C to U+001F. A line is blank when all its characters are, and blanks around a number are
dropped (`trimBlank`).
-/

namespace RuleCap

/-- The ranges of the Unicode property White_Space. -/
def spaceRanges : List (Nat × Nat) :=
  [(0x09, 0x0D), (0x20, 0x20), (0x85, 0x85), (0xA0, 0xA0), (0x1680, 0x1680), (0x2000, 0x200A), (0x2028, 0x2029),
    (0x202F, 0x202F), (0x205F, 0x205F), (0x3000, 0x3000)]

/-- White space by the Unicode property White_Space. -/
def isSpace (c : Char) : Bool :=
  spaceRanges.any fun r => r.1 ≤ c.toNat && c.toNat ≤ r.2

/-- A blank character: white space or an information separator. -/
def isBlank (c : Char) : Bool :=
  isSpace c || (0x1C ≤ c.toNat && c.toNat ≤ 0x1F)

/-- The text without the characters at its two ends that satisfy a test. -/
def trimWith (p : Char → Bool) (t : Text) : Text :=
  ((t.dropWhile p).reverse.dropWhile p).reverse

/-- The text without the blanks at its two ends. -/
def trimBlank (t : Text) : Text := trimWith isBlank t

example : isBlank '\u3000' ∧ isBlank '\x1F' ∧ isSpace '\x1F' = false ∧ isBlank '\u200B' = false := by decide

example : trimBlank " \t-5 \x1C".toList = "-5".toList := by decide

end RuleCap
