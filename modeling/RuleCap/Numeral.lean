import RuleCap.Text.Blank

/-!
# Numerals

A limit is kept as a numeral, a sign and the decimal digits of a number, so that no limit is too large to be kept.
Numerals come from counts (`keepFirst`), from integers (`ofInt`) and from texts (`ofText?`), which may have blanks
around the number, a sign, leading zeros, and single underscores between digits.

Counting is done in words of 64 bits (`keptCount`): digits that no word holds stand for the greatest word.
-/

namespace RuleCap

/-- A sign and decimal digits. -/
structure Numeral where
  negative : Bool
  digits : Text
deriving DecidableEq, Repr

namespace Numeral

/-- The numeral of a count of rules to keep. -/
def keepFirst (n : Nat) : Numeral := ⟨false, Nat.toDigits 10 n⟩

/-- The numeral of an integer. -/
def ofInt (n : Int) : Numeral := ⟨n < 0, Nat.toDigits 10 n.natAbs⟩

/-- The number of rules to keep that nothing else sets. -/
def defaultCount : Nat := 800

/-- The numeral that nothing else sets. -/
def default : Numeral := keepFirst defaultCount

/-- Whether the numeral has a minus sign. -/
def isNegative (n : Numeral) : Bool := n.negative

/-- The integer that a numeral denotes. -/
def value (n : Numeral) : Int :=
  if n.negative then -(Nat.ofDigitChars 10 n.digits 0 : Int) else Nat.ofDigitChars 10 n.digits 0

/-! ## Text -/

/-- The digits, behind a minus sign if there is one. -/
def toText (n : Numeral) : Text := if n.negative then '-' :: n.digits else n.digits

/-- Whether the text begins with a minus sign, and what follows the sign if there is one. -/
def splitSign : Text → Bool × Text
  | '-' :: rest => (true, rest)
  | '+' :: rest => (false, rest)
  | t => (false, t)

/-- Whether two underscores stand side by side. -/
def hasTwoUnderscores : Text → Bool
  | '_' :: '_' :: _ => true
  | _ :: rest => hasTwoUnderscores rest
  | [] => false

/-- Whether a text is made of digits, with single underscores between digits only. -/
def isGrouped (t : Text) : Bool :=
  !t.isEmpty && t.head? != some '_' && t.getLast? != some '_' && !hasTwoUnderscores t &&
    t.all fun c => c.isDigit || c == '_'

/-- Digits without the zeros in front; if nothing is left, one zero. -/
def significant (digits : Text) : Text :=
  match digits.dropWhile (· == '0') with
  | [] => ['0']
  | rest => rest

/-- The numeral of a sign and digits: without the zeros in front, and zero without a minus sign. -/
def signed (negative : Bool) (digits : Text) : Numeral :=
  ⟨negative && significant digits != ['0'], significant digits⟩

/-- **Reads a numeral**: blanks around it, one sign at most, then digits in groups. -/
def ofText? (t : Text) : Option Numeral :=
  let (negative, grouped) := splitSign (trimBlank t)
  if isGrouped grouped then some (signed negative (grouped.filter (· != '_'))) else none

example : ofText? " -1_000 ".toList = some ⟨true, "1000".toList⟩ ∧ ofText? "-00".toList = some ⟨false, ['0']⟩ := by
  decide

example : ["", "-", "_1", "1_", "1__0", "1 0", "--1"].all fun s => ofText? s.toList == none := by decide

/-! ## Counting -/

/-- The greatest word of 64 bits. -/
def greatestWord : Nat := Nat.pow 2 64 - 1

/-- One digit more at the end of a number, if a word holds the result. -/
def pushDigit? (n : Nat) (c : Char) : Option Nat :=
  if c.isDigit ∧ 10 * n + (c.toNat - '0'.toNat) ≤ greatestWord then some (10 * n + (c.toNat - '0'.toNat)) else none

/-- The word that digits denote, if a word holds it; a plus sign may stand in front. -/
def readWord? : Text → Option Nat
  | [] => none
  | ['+'] => none
  | '+' :: rest => rest.foldlM pushDigit? 0
  | digits => digits.foldlM pushDigit? 0

/-- The number of rules kept out of `total`. -/
def keptCount (n : Numeral) (total : Nat) : Nat :=
  let magnitude := (readWord? n.digits).getD greatestWord
  if n.negative then total - magnitude else min total magnitude

end Numeral

end RuleCap
