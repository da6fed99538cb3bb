import RuleCap.Text
import RuleCap.Instant

/-!
# Date and time of day as text

`dateTime` writes an instant down to the second, as `2024-03-09T07:05:01`. A year from 0 to 9999 has four digits; any
other has a sign and at least four.
-/

namespace RuleCap

/-- A number in decimal digits, with zeros in front up to a width. -/
def padded (width n : Nat) : Text :=
  (Nat.toDigits 10 n).leftpad width '0'

/-- A year: four digits, or a sign and at least four digits. -/
def yearText (year : Int) : Text :=
  if 0 ≤ year ∧ year ≤ 9999 then padded 4 year.toNat
  else (if year < 0 then '-' else '+') :: padded 4 year.natAbs

/-- A date, as `2024-03-09`. -/
def Date.toText (d : Date) : Text :=
  yearText d.year ++ '-' :: padded 2 d.month ++ '-' :: padded 2 d.day

/-- **An instant down to the second**, as `2024-03-09T07:05:01`. -/
def Instant.dateTime (i : Instant) : Text :=
  i.date.toText ++ 'T' :: padded 2 i.hour ++ ':' :: padded 2 i.minute ++ ':' :: padded 2 i.second

end RuleCap
