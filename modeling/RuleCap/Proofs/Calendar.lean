import Mathlib.Tactic.IntervalCases
import RuleCap.Instant

/-!
# Days and dates

A day lies in a cycle of 400 years, in one of its four centuries, in one of the spans of four years of that, in one of
their years, and so many days after 1 March (`Parts`). The last century, span and year may be a day longer than the
others, and only there a year has 366 days. Every day has such parts, and its date is the one that is read off them
(`exists_parts`). That is a date of the calendar (`valid_date`), and it leads back to the day (`dayNumber_date`).

Main statements: `dayNumber_ofDayNumber`, `valid_ofDayNumber`.
-/

namespace RuleCap.Date

/-- Where a day lies in its cycle of 400 years. -/
structure Parts where
  cycle : Int
  century : Nat
  four : Nat
  one : Nat
  /-- The days since 1 March. -/
  inYear : Nat
  century_le : century ≤ 3
  four_le : four ≤ 24
  one_le : one ≤ 3
  inYear_le : inYear ≤ 365
  /-- The last day of a year of 366. -/
  leap : inYear = 365 → one = 3 ∧ (four = 24 → century = 3)

namespace Parts

variable (p : Parts)

/-- The years since the begin of the cycle. -/
def yearOfCycle : Nat := 100 * p.century + 4 * p.four + p.one

/-- The days since the begin of the cycle. -/
def dayOfCycle : Nat := 36524 * p.century + 1461 * p.four + 365 * p.one + p.inYear

/-- The day. -/
def number : Int := p.cycle * cycleDays + p.dayOfCycle - epochOffset

/-- The month, counted from March. -/
def month : Nat := (5 * p.inYear + 2) / 153

/-- The date of the day. -/
def date : Date where
  year := 400 * p.cycle + p.yearOfCycle + (if p.month < 10 then 0 else 1)
  month := if p.month < 10 then p.month + 3 else p.month - 9
  day := p.inYear - daysBefore p.month + 1

theorem yearOfCycle_lt : p.yearOfCycle < 400 := by
  have := p.century_le
  have := p.four_le
  have := p.one_le
  unfold yearOfCycle
  omega

theorem month_lt : p.month < 12 := by
  have := p.inYear_le
  unfold month
  omega

theorem daysBefore_month_le : daysBefore p.month ≤ p.inYear := by
  unfold daysBefore month
  omega

end Parts

/-- **Every day has parts.** -/
theorem exists_parts (n : Int) : ∃ p : Parts, p.number = n ∧ ofDayNumber n = p.date := by
  obtain ⟨inCycle, hin⟩ : ∃ inCycle : Nat, inCycle = ((n + epochOffset) % (146097 : Nat)).toNat := ⟨_, rfl⟩
  have hlt : inCycle < 146097 := by omega
  refine ⟨{
    cycle := (n + epochOffset) / cycleDays
    century := min 3 (inCycle / 36524)
    four := (inCycle - 36524 * min 3 (inCycle / 36524)) / 1461
    one := min 3 ((inCycle - 36524 * min 3 (inCycle / 36524)) % 1461 / 365)
    inYear := (inCycle - 36524 * min 3 (inCycle / 36524)) % 1461 -
      365 * min 3 ((inCycle - 36524 * min 3 (inCycle / 36524)) % 1461 / 365)
    century_le := by omega
    four_le := by omega
    one_le := by omega
    inYear_le := by omega
    leap := by omega }, ?_, ?_⟩
  · unfold Parts.number Parts.dayOfCycle cycleDays
    dsimp only
    omega
  · subst hin
    rfl

namespace Parts

variable (p : Parts)

/-- The date leads back to the parts: the year of March and the days in it. -/
theorem dayNumber_date : p.date.dayNumber = p.number := by
  have hmonth := p.month_lt
  have hdays := p.daysBefore_month_le
  have hyear := p.yearOfCycle_lt
  have hcentury := p.century_le
  have hfour := p.four_le
  have hone := p.one_le
  have hmarch : (if p.date.month ≤ 2 then p.date.year - 1 else p.date.year) = 400 * p.cycle + p.yearOfCycle := by
    unfold date
    dsimp only
    split <;> split <;> omega
  have hback : (if p.date.month ≤ 2 then p.date.month + 9 else p.date.month - 3) = p.month := by
    unfold date
    dsimp only
    split <;> split <;> omega
  have hday : (p.date.day : Int) - 1 = p.inYear - daysBefore p.month := by
    unfold date
    dsimp only
    omega
  unfold dayNumber
  rw [hmarch, hback, hday]
  have hcycle : (400 * p.cycle + p.yearOfCycle) / 400 = p.cycle := by omega
  have hmod : ((400 * p.cycle + p.yearOfCycle) % 400).toNat = p.yearOfCycle := by omega
  dsimp only
  rw [hcycle, hmod]
  unfold number dayOfCycle
  have hfours : (p.yearOfCycle : Int) / 4 = 25 * p.century + p.four := by
    unfold yearOfCycle
    omega
  have hcenturies : (p.yearOfCycle : Int) / 100 = p.century := by
    unfold yearOfCycle
    omega
  rw [hfours, hcenturies]
  unfold yearOfCycle
  omega

/-- A year of 366 days from 1 March on ends with the leap day of the next year. -/
theorem isLeap_of_inYear (h : p.inYear = 365) : isLeap (400 * p.cycle + p.yearOfCycle + 1) = true := by
  obtain ⟨hone, hlast⟩ := p.leap h
  have hcentury := p.century_le
  have hfour := p.four_le
  have hyear : p.yearOfCycle = 100 * p.century + 4 * p.four + 3 := by rw [yearOfCycle, hone]
  simp only [isLeap, Bool.and_eq_true, Bool.or_eq_true, beq_iff_eq, bne_iff_ne]
  omega

/-- Up to January, the days before the next month say how long a month is. -/
theorem monthLength_eq {m : Nat} (h : m < 11) (year : Int) :
    monthLength year (if m < 10 then m + 3 else m - 9) = daysBefore (m + 1) - daysBefore m := by
  interval_cases m <;> rfl

/-- **The calendar has the date of every day.** -/
theorem valid_date : p.date.Valid := by
  have hinYear := p.inYear_le
  have hmonth := p.month_lt
  have hlow := p.daysBefore_month_le
  have hyear : 1 ≤ p.date.month ∧ p.date.month ≤ 12 := by
    unfold date
    dsimp only
    split <;> omega
  refine ⟨hyear.1, hyear.2, Nat.le_add_left 1 _, ?_⟩
  by_cases hjanuary : p.month < 11
  · have hhigh : p.inYear < daysBefore (p.month + 1) := by
      unfold daysBefore month
      omega
    unfold date
    dsimp only
    rw [monthLength_eq hjanuary]
    omega
  · have hfebruary : p.month = 11 := by omega
    have hbefore : daysBefore 11 = 337 := rfl
    unfold date
    dsimp only
    rw [hfebruary, if_neg (by decide), if_neg (by decide), hbefore, monthLength, if_pos (by decide)]
    by_cases hlast : p.inYear = 365
    · rw [if_pos (p.isLeap_of_inYear hlast)]
      omega
    · split <;> omega

end Parts

/-- **The date of a day leads back to the day.** -/
theorem dayNumber_ofDayNumber (n : Int) : (ofDayNumber n).dayNumber = n := by
  obtain ⟨p, hnumber, hdate⟩ := exists_parts n
  rw [hdate, p.dayNumber_date, hnumber]

/-- No month has more than 31 days. -/
theorem Valid.day_le {d : Date} (h : d.Valid) : d.day ≤ 31 := by
  obtain ⟨-, -, -, hlast⟩ := h
  unfold monthLength at hlast
  split at hlast
  · split at hlast <;> omega
  · split at hlast <;> omega

/-- **Every day has a date of the calendar.** -/
theorem valid_ofDayNumber (n : Int) : (ofDayNumber n).Valid := by
  obtain ⟨p, -, hdate⟩ := exists_parts n
  rw [hdate]
  exact p.valid_date

/-- The days of the years that an instant may have. -/
theorem year_ofDayNumber {n : Int} (hlow : -96465292 ≤ n) (hhigh : n ≤ 95026236) :
    -262143 ≤ (ofDayNumber n).year ∧ (ofDayNumber n).year ≤ 262142 := by
  obtain ⟨p, hnumber, hdate⟩ := exists_parts n
  have hcentury := p.century_le
  have hfour := p.four_le
  have hone := p.one_le
  have hinYear := p.inYear_le
  have hmonth : p.month < 10 ↔ p.inYear < 306 := by
    unfold Parts.month
    omega
  have hleap := p.leap
  rw [hdate]
  unfold Parts.number Parts.dayOfCycle cycleDays epochOffset at hnumber
  unfold Parts.date Parts.yearOfCycle
  dsimp only
  simp only [hmonth]
  constructor
  · split <;> omega
  · by_contra hlate
    -- a later year has to lie in the cycle, the century and the span of the last day
    have hcycle : p.cycle = 655 := by split at hlate <;> omega
    have hlast : p.century = 1 ∧ p.four = 10 := by split at hlate <;> omega
    split at hlate <;> omega

end RuleCap.Date
