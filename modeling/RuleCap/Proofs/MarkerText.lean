import RuleCap.Proofs.InstantText
import RuleCap.Proofs.MarkerLine
import RuleCap.Proofs.Obtainable

/-!
# What the text of a marker tells

The parts of a marker differ in width: a limit has any number of digits, a year four or more, a fraction none, six or
seven. But each part shows where it ends, so equal texts have equal parts, one behind the other. A limit ends at the
space behind it (`Limit.toText_append_inj`), a date where a reader of dates stops, and the numbers of the time of day
have two digits each (`Instant.dateTime_append_inj`). Date and time of day name the second, a leap second by its second
60 (`Instant.sameClock_iff`), and what is left is the fraction (`microsText_inj`).

Main statement: `Marker.toText_eq_toText_iff`.
-/

namespace RuleCap

/-! ## Parts that show where they end -/

/-- Two texts with the same mark behind them, which they do not hold themselves. -/
theorem append_mark_inj {c : Char} {s t : Text} :
    ∀ {a b : Text}, c ∉ a → c ∉ b → a ++ c :: s = b ++ c :: t → a = b ∧ s = t
  | [], [], _, _, h => ⟨rfl, (List.cons.inj h).2⟩
  | [], d :: b, _, hb, h => absurd (List.mem_cons.mpr (Or.inl (List.cons.inj h).1)) hb
  | d :: a, [], ha, _, h => absurd (List.mem_cons.mpr (Or.inl (List.cons.inj h).1.symm)) ha
  | d :: a, e :: b, ha, hb, h => by
    obtain ⟨hhead, htail⟩ := List.cons.inj h
    obtain ⟨hfront, hrest⟩ := append_mark_inj (fun hc => ha (List.mem_cons_of_mem d hc))
      (fun hc => hb (List.mem_cons_of_mem e hc)) htail
    exact ⟨by rw [hhead, hfront], hrest⟩

theorem padded_inj {width m n : Nat} (h : padded width m = padded width n) : m = n := by
  have hvalue := congrArg Rfc3339.digitsValue h
  rwa [digitsValue_padded, digitsValue_padded] at hvalue

/-- Two numbers that have room in the same width. -/
theorem padded_append_inj {width m n : Nat} {s t : Text} (hwidth : 0 < width) (hm : m < 10 ^ width)
    (hn : n < 10 ^ width) (h : padded width m ++ s = padded width n ++ t) : m = n ∧ s = t := by
  have hlength : (padded width m).length = (padded width n).length := by
    rw [length_padded hwidth hm, length_padded hwidth hn]
  obtain ⟨hdigits, hrest⟩ := List.append_inj h hlength
  exact ⟨padded_inj hdigits, hrest⟩

/-! ## The limit -/

namespace Limit

/-- A limit is written as the numeral of its integer. -/
theorem toText_eq (l : Limit) : l.toText = (Numeral.ofInt l.value).toText := rfl

theorem space_not_mem (l : Limit) : ' ' ∉ l.toText := by
  have hdigits : ' ' ∉ Nat.toDigits 10 l.value.natAbs := fun h =>
    absurd (Nat.isDigit_of_mem_toDigits (by decide) (by decide) h) (by decide)
  rw [toText]
  split
  · simpa using hdigits
  · exact hdigits

theorem toText_inj {k l : Limit} (h : k.toText = l.toText) : k.value = l.value := by
  have hk := Numeral.canonical_ofInt k.value
  have hl := Numeral.canonical_ofInt l.value
  rw [toText_eq, toText_eq, hk.toText_eq_iff hl] at h
  rw [← Numeral.value_ofInt k.value, h, Numeral.value_ofInt]

/-- **A limit ends at the space behind it.** -/
theorem toText_append_inj {k l : Limit} {s t : Text} (h : k.toText ++ ' ' :: s = l.toText ++ ' ' :: t) :
    k.value = l.value ∧ s = t := by
  obtain ⟨hlimit, hrest⟩ := append_mark_inj k.space_not_mem l.space_not_mem h
  exact ⟨toText_inj hlimit, hrest⟩

end Limit

/-! ## Date and time of day -/

namespace Instant

/-- **Clock and calendar show the same.** -/
structure SameClock (i j : Instant) : Prop where
  date : i.date = j.date
  hour : i.hour = j.hour
  minute : i.minute = j.minute
  second : i.second = j.second

variable {i j : Instant} {s t : Text}

theorem date_append_inj (h : i.date.toText ++ s = j.date.toText ++ t) : i.date = j.date ∧ s = t := by
  have hread := congrArg Rfc3339.date h
  rw [Rfc3339.date_toText_of_instant, Rfc3339.date_toText_of_instant, Except.ok.injEq, Prod.mk.injEq] at hread
  exact hread

/-- **Date and time of day are read off their text**, whatever is behind it. -/
theorem dateTime_append_inj (h : i.dateTime ++ s = j.dateTime ++ t) : SameClock i j ∧ s = t := by
  have hparts : ∀ (k : Instant) (rest : Text), k.dateTime ++ rest = k.date.toText ++ 'T' :: (padded 2 k.hour ++
      ':' :: (padded 2 k.minute ++ ':' :: (padded 2 k.second ++ rest))) := by
    intro k rest
    simp [dateTime]
  have hroom : ∀ k : Instant, k.hour < 10 ^ 2 ∧ k.minute < 10 ^ 2 ∧ k.second < 10 ^ 2 := by
    intro k
    have hhour := Rfc3339.hour_le k
    have hminute := Rfc3339.minute_le k
    have hsecond := Rfc3339.second_le k
    omega
  rw [hparts, hparts] at h
  obtain ⟨hdate, h⟩ := date_append_inj h
  obtain ⟨hhour, h⟩ := padded_append_inj (by decide) (hroom i).1 (hroom j).1 (List.cons.inj h).2
  obtain ⟨hminute, h⟩ := padded_append_inj (by decide) (hroom i).2.1 (hroom j).2.1 (List.cons.inj h).2
  obtain ⟨hsecond, h⟩ := padded_append_inj (by decide) (hroom i).2.2 (hroom j).2.2 (List.cons.inj h).2
  exact ⟨⟨hdate, hhour, hminute, hsecond⟩, h⟩

theorem SameClock.dateTime_eq (h : SameClock i j) : i.dateTime = j.dateTime := by
  rw [dateTime, dateTime, h.date, h.hour, h.minute, h.second]

/-- The second 60 is that of a leap second, which counts as the second before it. -/
theorem SameClock.leap_eq (h : SameClock i j) :
    i.nanos / secondNanos = j.nanos / secondNanos ∧ i.secondOfDay % 60 = j.secondOfDay % 60 := by
  have hsecond := h.second
  have hnanos := i.valid.2.2.1
  have hnanos' := j.valid.2.2.1
  have hcases := Rfc3339.second_eq i
  have hcases' := Rfc3339.second_eq j
  unfold secondNanos at *
  omega

theorem SameClock.secondOfDay_eq (h : SameClock i j) : i.secondOfDay = j.secondOfDay := by
  rw [← Rfc3339.timeOfDay_eq i, ← Rfc3339.timeOfDay_eq j, h.hour, h.minute, h.leap_eq.2]

theorem SameClock.seconds_eq (h : SameClock i j) : i.seconds = j.seconds := by
  have hday : i.seconds / daySeconds = j.seconds / daySeconds :=
    calc i.seconds / daySeconds = i.date.dayNumber := (Date.dayNumber_ofDayNumber _).symm
      _ = j.date.dayNumber := by rw [h.date]
      _ = j.seconds / daySeconds := Date.dayNumber_ofDayNumber _
  have hofDay : i.seconds % daySeconds = j.seconds % daySeconds := by
    have hsame := h.secondOfDay_eq
    unfold secondOfDay daySeconds at hsame
    unfold daySeconds
    omega
  rw [← Int.ediv_mul_add_emod i.seconds daySeconds, hday, hofDay, Int.ediv_mul_add_emod]

/-- **Clock and calendar tell the second**, and whether it is a leap second. -/
theorem sameClock_iff : SameClock i j ↔ i.seconds = j.seconds ∧ i.nanos / secondNanos = j.nanos / secondNanos := by
  constructor
  · intro h
    exact ⟨h.seconds_eq, h.leap_eq.1⟩
  · rintro ⟨hseconds, hleap⟩
    have hofDay : i.secondOfDay = j.secondOfDay := by rw [secondOfDay, secondOfDay, hseconds]
    refine ⟨?_, ?_, ?_, ?_⟩
    · rw [date, date, hseconds]
    · rw [hour, hour, hofDay]
    · rw [minute, minute, hofDay]
    · rw [second, second, hofDay, hleap]

end Instant

/-! ## The microseconds -/

/-- Microseconds behind the seconds: nothing if there are none, otherwise a point and at least six digits. -/
def microsText (n : Nat) : Text := if n = 0 then [] else '.' :: padded 6 n

theorem microsText_inj {m n : Nat} (h : microsText m = microsText n) : m = n := by
  unfold microsText at h
  split at h
  · split at h
    · omega
    · cases h
  · split at h
    · cases h
    · exact padded_inj (List.cons.inj h).2

/-! ## The marker -/

namespace Marker

theorem timestamp_eq (m : Marker) : m.timestamp = m.trimmedAt.dateTime ++ microsText (micros m.trimmedAt) := rfl

/-- The parts of a marker, one behind the other. -/
theorem toText_parts (m : Marker) : m.toText = markerLead ++ (m.limit.toText ++ ' ' :: ("rules on ".toList ++
    (m.trimmedAt.dateTime ++ (microsText (micros m.trimmedAt) ++ ['Z'])))) := by
  have hmid : " rules on ".toList = ' ' :: "rules on ".toList := rfl
  simp only [toText_eq, timestamp_eq, hmid, List.append_assoc, List.cons_append]

/-- **A marker tells its limit, its second and its microsecond**, and nothing more: two markers have the same text
exactly if their limits are the same integer and their instants are the same down to the microsecond, a leap second told
from the second before it. -/
theorem toText_eq_toText_iff (m n : Marker) :
    m.toText = n.toText ↔ m.limit.value = n.limit.value ∧ m.trimmedAt.seconds = n.trimmedAt.seconds ∧
      m.trimmedAt.nanos / 1000 = n.trimmedAt.nanos / 1000 := by
  constructor
  · intro h
    rw [toText_parts, toText_parts] at h
    obtain ⟨hlimit, h⟩ := Limit.toText_append_inj (List.append_cancel_left h)
    obtain ⟨hclock, h⟩ := Instant.dateTime_append_inj (List.append_cancel_left h)
    have hmicros := microsText_inj (List.append_cancel_right h)
    exact ⟨hlimit, (Instant.sameClock_iff.mp hclock).1, hmicros⟩
  · rintro ⟨hvalue, hseconds, hnanos⟩
    have hlimit : m.limit.toText = n.limit.toText := by rw [Limit.toText_eq, Limit.toText_eq, hvalue]
    have hmicros : micros m.trimmedAt = micros n.trimmedAt := hnanos
    have hleap : m.trimmedAt.nanos / secondNanos = n.trimmedAt.nanos / secondNanos := by
      unfold secondNanos
      omega
    have hclock : Instant.SameClock m.trimmedAt n.trimmedAt := Instant.sameClock_iff.mpr ⟨hseconds, hleap⟩
    rw [toText_parts, toText_parts, hlimit, hclock.dateTime_eq, hmicros]

end Marker

end RuleCap
