import RuleCap.Calendar

/-!
# Instants

A moment of Universal Time: seconds since 1970 began and nanoseconds within the second. The year lies between -262143
and 262142. A leap second is the second 60 of a minute; its instant has the seconds of the second before it and a
thousand million nanoseconds or more. `Instant.ofTimestamp?` refuses everything else, so an `Instant` always has a date
and a time of day.

Left out are moments with a thousand million nanoseconds or more in another second of the minute. No clock shows them,
and neither a timestamp nor a text is read as one; one comes by them only by setting the nanoseconds of a moment alone.
-/

namespace RuleCap

/-- The nanoseconds of a second. -/
def secondNanos : Nat := 1000000000

/-- The seconds of a day. -/
def daySeconds : Nat := 86400

/-- Whether seconds and nanoseconds name an instant. A thousand million nanoseconds and more are those of a leap second,
for which there is room in the last second of a minute only; such nanoseconds in another second name none here. -/
def ValidTimestamp (seconds : Int) (nanos : Nat) : Prop :=
  -8334601228800 ≤ seconds ∧ seconds ≤ 8210266876799 ∧ nanos < 2 * secondNanos ∧
    (secondNanos ≤ nanos → seconds % 60 = 59)

instance (seconds : Int) (nanos : Nat) : Decidable (ValidTimestamp seconds nanos) :=
  inferInstanceAs (Decidable (_ ∧ _))

/-- A moment of Universal Time. -/
structure Instant where
  seconds : Int
  nanos : Nat
  valid : ValidTimestamp seconds nanos
deriving DecidableEq

namespace Instant

/-- The instant of seconds since 1970 and nanoseconds, if there is one. -/
def ofTimestamp? (seconds : Int) (nanos : Nat) : Option Instant :=
  if valid : ValidTimestamp seconds nanos then some ⟨seconds, nanos, valid⟩ else none

/-- The date of an instant. -/
def date (i : Instant) : Date := Date.ofDayNumber (i.seconds / daySeconds)

/-- The seconds since midnight, a leap second counted as the second before it. -/
def secondOfDay (i : Instant) : Nat := (i.seconds % daySeconds).toNat

/-- The hour, 0 to 23. -/
def hour (i : Instant) : Nat := i.secondOfDay / 3600

/-- The minute, 0 to 59. -/
def minute (i : Instant) : Nat := i.secondOfDay / 60 % 60

/-- The second, 0 to 60. -/
def second (i : Instant) : Nat := i.secondOfDay % 60 + i.nanos / secondNanos

/-- The first instant of a date whose year is in range has the seconds of its day number. -/
example : Date.dayNumber ⟨-262143, 1, 1⟩ * daySeconds = -8334601228800 ∧
    Date.dayNumber ⟨262142, 12, 31⟩ * daySeconds + 86399 = 8210266876799 := by decide

end Instant

end RuleCap
