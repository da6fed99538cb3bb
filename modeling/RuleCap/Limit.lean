import RuleCap.Numeral

/-!
# Limits

A limit says how many rules to keep: an integer of any size. One that is not negative keeps that many rules from the
front; a negative one keeps all but that many from the end. `keptCount` counts what is kept of a number of rules, and
`slice` takes it of a list.

A limit that comes from outside is kept as a numeral; `ofNumeral` is the limit that it denotes. A trim that counts and
writes by the numeral itself is the trim by this limit (`trimText_eq_trimByNumeral`). The text of a limit is its
decimal form (`toText`). `ofText?` also reads the other spellings of a numeral.
-/

namespace RuleCap

/-- How many rules to keep. -/
structure Limit where
  value : Int
deriving DecidableEq, Repr

namespace Limit

/-- The limit that keeps the first `n` rules. -/
def keepFirst (n : Nat) : Limit := ⟨n⟩

/-- The limit that nothing else sets. -/
def default : Limit := keepFirst Numeral.defaultCount

instance : Inhabited Limit := ⟨default⟩

/-- The limit that a numeral denotes. -/
def ofNumeral (n : Numeral) : Limit := ⟨n.value⟩

@[simp]
theorem value_ofNumeral (n : Numeral) : (ofNumeral n).value = n.value := rfl

/-- Whether the limit counts from the end. -/
def isNegative (l : Limit) : Bool := l.value < 0

/-! ## Counting -/

/-- The number of rules kept out of `total`. -/
def keptCount (l : Limit) (total : Nat) : Nat :=
  if l.isNegative then total - l.value.natAbs else min total l.value.natAbs

/-- The rules that a limit keeps. -/
def slice {α : Type} (l : Limit) (rules : List α) : List α :=
  match l.value with
  | .ofNat n => rules.take n
  | .negSucc n => (rules.reverse.drop (n + 1)).reverse

/-! ## Text -/

/-- The decimal form: a minus sign if negative, then digits without leading zeros. -/
def toText (l : Limit) : Text :=
  if l.isNegative then '-' :: Nat.toDigits 10 l.value.natAbs else Nat.toDigits 10 l.value.natAbs

/-- **Reads a limit**: a numeral in any spelling. -/
def ofText? (t : Text) : Option Limit := (Numeral.ofText? t).map ofNumeral

example : ofText? " -1_000 ".toList = some ⟨-1000⟩ ∧ ofText? "+007".toList = some ⟨7⟩ := by decide

/-! ## Written form -/

/-- A limit as a document holds it: a number, or a text where the number is too large for one. -/
inductive Form
  | integer (n : Int)
  | text (t : Text)
deriving DecidableEq, Repr

/-- The numeral that a document holds. -/
def Form.numeral? : Form → Option Numeral
  | .integer n => some (.ofInt n)
  | .text t => Numeral.ofText? t

/-- Whether an integer fits 64 bits with a sign. -/
def fits (n : Int) : Bool := -Nat.pow 2 63 ≤ n && n < Nat.pow 2 63

/-- One digit more at the end of an integer, counted away from zero on the side of its sign, if 64 bits hold the
result. -/
def pushDigit? (negative : Bool) (n : Int) (c : Char) : Option Int :=
  let digit : Int := (c.toNat - '0'.toNat : Nat)
  let next := if negative then 10 * n - digit else 10 * n + digit
  if c.isDigit ∧ fits next then some next else none

/-- The integer that a text denotes, a sign or none and digits, if 64 bits hold it. -/
def readInteger? : Text → Option Int
  | [] => none
  | ['+'] => none
  | ['-'] => none
  | '+' :: rest => rest.foldlM (pushDigit? false) 0
  | '-' :: rest => rest.foldlM (pushDigit? true) 0
  | digits => digits.foldlM (pushDigit? false) 0

/-- The form in which a numeral is written: an integer if its text is read as one of 64 bits, and otherwise that
text. -/
def Form.ofNumeral (n : Numeral) : Form :=
  match readInteger? n.toText with
  | some v => .integer v
  | none => .text n.toText

/-- The form in which a limit is written. -/
def form (l : Limit) : Form := .ofNumeral (.ofInt l.value)

end Limit

end RuleCap
