/-!
# Calendar

Days and dates of the proleptic Gregorian calendar. Days are counted from 1 January 1970, before it with negative
numbers, and year 0 is a year. Inside, years begin in March, so that the leap day is the last day of its year, and
time is cut into cycles of 400, 100, 4 and one years.
-/

namespace RuleCap

/-- A day of the calendar, by year, month and day of the month. -/
structure Date where
  year : Int
  month : Nat
  day : Nat
deriving DecidableEq, Repr

namespace Date

/-- Whether a year has a 29 February. -/
def isLeap (year : Int) : Bool :=
  year % 4 == 0 && (year % 100 != 0 || year % 400 == 0)

/-- The number of days of a month. -/
def monthLength (year : Int) (month : Nat) : Nat :=
  if month = 2 then (if isLeap year then 29 else 28)
  else if month = 4 ∨ month = 6 ∨ month = 9 ∨ month = 11 then 30
  else 31

/-- Whether the calendar has such a date. -/
def Valid (d : Date) : Prop :=
  1 ≤ d.month ∧ d.month ≤ 12 ∧ 1 ≤ d.day ∧ d.day ≤ monthLength d.year d.month

instance (d : Date) : Decidable d.Valid := inferInstanceAs (Decidable (_ ∧ _))

/-- The days of 400 years. -/
def cycleDays : Nat := 146097

/-- The day 1 March of year 0, counted back from 1 January 1970. -/
def epochOffset : Int := 719468

/-- The days of a year, from 1 March on, before its `m`th month. -/
def daysBefore (m : Nat) : Nat := (153 * m + 2) / 5

/-- **The date of a day.** -/
def ofDayNumber (n : Int) : Date :=
  let cycle := (n + epochOffset) / cycleDays
  let inCycle := ((n + epochOffset) % cycleDays).toNat
  let century := min 3 (inCycle / 36524)
  let inCentury := inCycle - 36524 * century
  let four := inCentury / 1461
  let inFour := inCentury % 1461
  let one := min 3 (inFour / 365)
  let inYear := inFour - 365 * one
  let m := (5 * inYear + 2) / 153
  { year := 400 * cycle + (100 * century + 4 * four + one) + (if m < 10 then 0 else 1)
    month := if m < 10 then m + 3 else m - 9
    day := inYear - daysBefore m + 1 }

/-- **The day of a date.** -/
def dayNumber (d : Date) : Int :=
  let year := if d.month ≤ 2 then d.year - 1 else d.year
  let m := if d.month ≤ 2 then d.month + 9 else d.month - 3
  let inCycle := (year % 400).toNat
  year / 400 * cycleDays + (365 * inCycle + inCycle / 4 - inCycle / 100 + daysBefore m + (d.day - 1)) - epochOffset

example : ofDayNumber 0 = ⟨1970, 1, 1⟩ ∧ ofDayNumber (-719468) = ⟨0, 3, 1⟩ := by decide

example : ofDayNumber 11016 = ⟨2000, 2, 29⟩ := by decide

example : dayNumber ⟨2001, 2, 3⟩ = 11356 ∧ ofDayNumber 11356 = ⟨2001, 2, 3⟩ := by decide

end Date

end RuleCap
