import RuleCap.Text

/-!
# Numbers of 64 binary digits

A number with a fraction is kept as the nearest number of the binary format with 53 digits and exponents from -1074 to
971: `ofDecimal` rounds, a tie going to the even significand. `toText` writes a number with the fewest decimal digits
that still round to it, and of those the nearest, always in positional notation and with a point. All of it is exact
arithmetic on natural numbers.
-/

namespace RuleCap

/-- A number of the format: `significand * 2 ^ exponent` with a sign, or one of the values that are no numbers. -/
inductive Binary64
  | finite (negative : Bool) (significand : Nat) (exponent : Int)
  | infinite (negative : Bool)
  | notANumber
deriving DecidableEq, Repr

namespace Binary64

/-- One more than the largest significand. -/
def bound : Nat := Nat.pow 2 53

/-- The least exponent. -/
def leastExponent : Int := -1074

/-- The largest exponent. -/
def greatestExponent : Int := 971

/-- A quotient rounded to the nearest natural number, a tie to the even one. -/
def roundQuotient (num den : Nat) : Nat :=
  let q := num / den
  let twice := 2 * (num % den)
  if twice < den ∨ (twice = den ∧ q % 2 = 0) then q else q + 1

/-- A fraction `num / den` over a power of two, as a fraction. -/
def overPower (num den : Nat) (exponent : Int) : Nat × Nat :=
  if 0 ≤ exponent then (num, den * Nat.pow 2 exponent.toNat) else (num * Nat.pow 2 (-exponent).toNat, den)

/-- The nearest number of the format to a positive fraction. -/
def ofFraction (negative : Bool) (num den : Nat) : Binary64 :=
  let guess : Int := max leastExponent ((num.log2 : Int) - den.log2 - 52)
  let scaled := overPower num den guess
  let exponent := if scaled.1 / scaled.2 < bound / 2 then max leastExponent (guess - 1) else guess
  let scaled := overPower num den exponent
  let rounded := roundQuotient scaled.1 scaled.2
  let (significand, exponent) := if rounded = bound then (bound / 2, exponent + 1) else (rounded, exponent)
  if greatestExponent < exponent then .infinite negative else .finite negative significand exponent

/-- **The nearest number of the format to `digits * 10 ^ scale`.** Beyond four hundred places on either side of the
point nothing is computed: such a number is infinite or zero. -/
def ofDecimal (negative : Bool) (digits : Nat) (scale : Int) : Binary64 :=
  let places := ((Nat.toDigits 10 digits).length : Int) + scale
  if digits = 0 ∨ places < -400 then .finite negative 0 leastExponent
  else if 400 < places then .infinite negative
  else if 0 ≤ scale then ofFraction negative (digits * Nat.pow 10 scale.toNat) 1
  else ofFraction negative digits (Nat.pow 10 (-scale).toNat)

/-- The magnitude of a number, as a fraction. -/
def magnitude : Binary64 → Nat × Nat
  | .finite _ significand exponent => (significand * Nat.pow 2 exponent.toNat, Nat.pow 2 (-exponent).toNat)
  | _ => (0, 1)

/-- The sum of two magnitudes, rounded. -/
def sum (a b : Binary64) : Binary64 :=
  let (p, q) := (a.magnitude, b.magnitude)
  ofFraction false (p.1 * q.2 + q.1 * p.2) (p.2 * q.2)

/-- The third part of a magnitude, rounded. -/
def third (a : Binary64) : Binary64 := ofFraction false a.magnitude.1 (3 * a.magnitude.2)

/-- Whether one magnitude is not above another. -/
def notAbove (a b : Binary64) : Bool := a.magnitude.1 * b.magnitude.2 ≤ b.magnitude.1 * a.magnitude.2

/-- Whether a number is neither infinite nor undefined. -/
def isFinite : Binary64 → Bool
  | .finite .. => true
  | _ => false

/-! ## Shortest digits -/

/-- The fractions that round to a number lie between `low / den` and `high / den`; `value / den` is the number itself,
and the two ends count if `closed`. -/
structure Interval where
  low : Nat
  value : Nat
  high : Nat
  den : Nat
  closed : Bool

/-- What rounds to `significand * 2 ^ exponent`. Just above a power of two the numbers below are twice as near. -/
def interval (significand : Nat) (exponent : Int) : Interval :=
  let below := if significand = bound / 2 ∧ leastExponent < exponent then 1 else 2
  let up := Nat.pow 2 exponent.toNat
  let down := Nat.pow 2 (-exponent).toNat
  ⟨(4 * significand - below) * up, 4 * significand * up, (4 * significand + 2) * up, 4 * down, significand % 2 = 0⟩

/-- Whether `digits * 10 ^ scale` lies in the interval. -/
def Interval.contains (i : Interval) (digits : Nat) (scale : Int) : Bool :=
  let point := digits * Nat.pow 10 scale.toNat * i.den
  let unit := Nat.pow 10 (-scale).toNat
  if i.closed then i.low * unit ≤ point && point ≤ i.high * unit else i.low * unit < point && point < i.high * unit

/-- The decimal place of the first digit of `num / den`, searched for from a guess downwards. -/
def firstPlace (num den : Nat) : Nat → Int → Int
  | 0, place => place
  | tries + 1, place =>
    if den * Nat.pow 10 place.toNat ≤ num * Nat.pow 10 (-place).toNat then place
    else firstPlace num den tries (place - 1)

/-- The neighbour of the number on the grid of step `10 ^ scale` that lies in the interval, the nearer of two. -/
def neighbour? (i : Interval) (scale : Int) : Option Nat :=
  let num := i.value * Nat.pow 10 (-scale).toNat
  let den := i.den * Nat.pow 10 scale.toNat
  let below := num / den
  match i.contains below scale, i.contains (below + 1) scale with
  | true, true => some (if 2 * (num % den) < den then below else below + 1)
  | true, false => some below
  | false, true => some (below + 1)
  | false, false => none

/-- Tries grids from coarse to fine. -/
def search (i : Interval) : Nat → Int → Nat × Int
  | 0, scale => (i.value * Nat.pow 10 (-scale).toNat / (i.den * Nat.pow 10 scale.toNat), scale)
  | tries + 1, scale =>
    match neighbour? i scale with
    | some digits => (digits, scale)
    | none => search i tries (scale - 1)

/-- The fewest digits that round to a positive number of the format, with the place of the last one. The search begins
one place above the first digit, since a number just below a power of ten may round up to it. -/
def shortest (significand : Nat) (exponent : Int) : Nat × Int :=
  let i := interval significand exponent
  search i 18 (firstPlace i.value i.den 640 309 + 1)

/-- Digits and the place of the last one in positional notation, with a point and a digit on both sides of it. -/
def positional (digits : Nat) (scale : Int) : Text :=
  let ds := Nat.toDigits 10 digits
  if 0 ≤ scale then ds ++ List.replicate scale.toNat '0' ++ ['.', '0']
  else
    let places := (-scale).toNat
    let ds := ds.leftpad (places + 1) '0'
    ds.take (ds.length - places) ++ '.' :: ds.drop (ds.length - places)

/-- **A number as text.** -/
def toText : Binary64 → Text
  | .finite negative significand exponent =>
    let t := if significand = 0 then ['0', '.', '0'] else
      let (digits, scale) := shortest significand exponent
      positional digits scale
    if negative then '-' :: t else t
  | .infinite negative => if negative then "-inf".toList else "inf".toList
  | .notANumber => "NaN".toList

example : toText (ofDecimal false 1 (-1)) = "0.1".toList := by decide +kernel

example : toText (ofDecimal true 15 (-1)) = "-1.5".toList := by decide +kernel

example : toText (ofDecimal false 1 25) = "10000000000000000000000000.0".toList := by decide +kernel

example : ofDecimal false 1 309 = .infinite false ∧ toText (ofDecimal false 5 (-1)) = "0.5".toList := by decide +kernel

end Binary64

end RuleCap
