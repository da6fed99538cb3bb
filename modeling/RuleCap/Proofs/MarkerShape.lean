import RuleCap.Proofs.MarkerText

/-!
# The shape of a marker

A marker of a year from 0 to 9999 is documented to have four digits for the year, two for each other number of its date
and its time of day, and six digits of microseconds if there are any (`Shaped`, `Documented`). Date and time of day
have a fixed width, so a line is of this shape with one fraction only (`Shaped.fraction_unique`), and every marker is
of this shape with some fraction (`shaped_toText`). In a leap second the microseconds go on being counted, from a
million on, and six digits do not hold them: from a thousand million nanoseconds on a fraction has seven digits
(`figures_microsText`).

Main statement: `documented_unless_leap`.
-/

namespace RuleCap

/-! ## Digits in a fixed width -/

/-- So many digits, and the number that they denote. -/
structure Figures (width n : Nat) (t : Text) : Prop where
  length_eq : t.length = width
  isDigit : ∀ c ∈ t, c.isDigit = true
  value_eq : Nat.ofDigitChars 10 t 0 = n

section Figures

variable {width n : Nat}

theorem figures_padded (hwidth : 0 < width) (h : n < 10 ^ width) : Figures width n (padded width n) where
  length_eq := length_padded hwidth h
  isDigit _ := isDigit_of_mem_padded
  value_eq := digitsValue_padded

/-- A number that has no room in the width takes one place more. -/
theorem figures_padded_succ (hwidth : 0 < width) (hlow : 10 ^ width ≤ n) (hhigh : n < 10 ^ (width + 1)) :
    Figures (width + 1) n (padded width n) where
  length_eq := by
    have hmore : ¬(Nat.toDigits 10 n).length ≤ width := by
      rw [Nat.length_toDigits_le_iff (by decide) hwidth]
      omega
    have hless : (Nat.toDigits 10 n).length ≤ width + 1 :=
      (Nat.length_toDigits_le_iff (by decide) (Nat.succ_pos width)).mpr hhigh
    rw [padded, List.length_leftpad]
    omega
  isDigit _ := isDigit_of_mem_padded
  value_eq := digitsValue_padded

/-- Digits that are all zero denote zero. -/
theorem Figures.exists_ne_zero {t : Text} (h : Figures width n t) (hn : n ≠ 0) : ∃ c ∈ t, c ≠ '0' := by
  by_contra hzero
  have hall : t = List.replicate t.length '0' := by
    rw [List.eq_replicate_iff]
    exact ⟨rfl, fun c hc => not_not.mp fun hne => hzero ⟨c, hc, hne⟩⟩
  have hvalue := h.value_eq
  rw [hall, ofDigitChars_replicate_zero, Nat.mul_zero] at hvalue
  exact hn hvalue.symm

end Figures

/-! ## The documented form -/

namespace Marker

/-- **A line of the documented shape**, with any fraction between the seconds and the `Z`. -/
def Shaped (m : Marker) (fraction line : Text) : Prop :=
  ∃ year month day hour minute second : Text,
    (Figures 4 m.trimmedAt.date.year.toNat year ∧ Figures 2 m.trimmedAt.date.month month ∧
        Figures 2 m.trimmedAt.date.day day) ∧
      (Figures 2 m.trimmedAt.hour hour ∧ Figures 2 m.trimmedAt.minute minute ∧ Figures 2 m.trimmedAt.second second) ∧
      line = "! Trimmed to ".toList ++ (toString m.limit.value).toList ++ " rules on ".toList ++
        (year ++ '-' :: month ++ '-' :: day ++ 'T' :: hour ++ ':' :: minute ++ ':' :: second ++ fraction) ++ ['Z']

/-- The documented fraction: nothing without microseconds, otherwise a point and six digits that are not all zero. -/
inductive DocumentedFraction : Nat → Text → Prop
  | none : DocumentedFraction 0 []
  | digits {n : Nat} {ds : Text} (hn : n ≠ 0) (hds : Figures 6 n ds) (hne : ∃ c ∈ ds, c ≠ '0') :
    DocumentedFraction n ('.' :: ds)

/-- **The marker is written as documented**, with so many microseconds. -/
def Documented (m : Marker) (micros : Nat) : Prop :=
  ∃ fraction, DocumentedFraction micros fraction ∧ Shaped m fraction m.toText

/-- Date and time of day take nineteen characters. -/
theorem Shaped.exists_dateTime {m : Marker} {fraction line : Text} (h : Shaped m fraction line) :
    ∃ dateTime : Text, dateTime.length = 19 ∧ line = "! Trimmed to ".toList ++ (toString m.limit.value).toList ++
      " rules on ".toList ++ (dateTime ++ fraction) ++ ['Z'] := by
  obtain ⟨year, month, day, hour, minute, second, ⟨hyear, hmonth, hday⟩, ⟨hhour, hminute, hsecond⟩, hline⟩ := h
  refine ⟨_, ?_, hline⟩
  simp [hyear.length_eq, hmonth.length_eq, hday.length_eq, hhour.length_eq, hminute.length_eq, hsecond.length_eq]

/-- The fraction is what is left between parts of fixed width. -/
theorem Shaped.fraction_unique {m : Marker} {f g line : Text} (h : Shaped m f line) (h' : Shaped m g line) : f = g := by
  obtain ⟨dateTime, hlength, hline⟩ := h.exists_dateTime
  obtain ⟨dateTime', hlength', hline'⟩ := h'.exists_dateTime
  have hsame : dateTime ++ f = dateTime' ++ g :=
    List.append_cancel_left (List.append_cancel_right (hline.symm.trans hline'))
  exact (List.append_inj hsame (hlength.trans hlength'.symm)).2

/-- **Every marker of a year of four digits has the shape**, with its own fraction. -/
theorem shaped_toText (m : Marker) (hyear : 0 ≤ m.trimmedAt.date.year ∧ m.trimmedAt.date.year ≤ 9999) :
    Shaped m (microsText (micros m.trimmedAt)) m.toText := by
  obtain ⟨hmonth, hmonth', hday, -⟩ := Rfc3339.valid_date m.trimmedAt
  have hday' := (Rfc3339.valid_date m.trimmedAt).day_le
  have hhour := Rfc3339.hour_le m.trimmedAt
  have hminute := Rfc3339.minute_le m.trimmedAt
  have hsecond := Rfc3339.second_le m.trimmedAt
  have hfour : ∀ n, n ≤ 9999 → Figures 4 n (padded 4 n) := fun n h => figures_padded (by decide) (by omega)
  have htwo : ∀ n, n ≤ 99 → Figures 2 n (padded 2 n) := fun n h => figures_padded (by decide) (by omega)
  refine ⟨_, _, _, _, _, _, ⟨hfour _ (by omega), htwo _ (by omega), htwo _ (by omega)⟩,
    ⟨htwo _ (by omega), htwo _ (by omega), htwo _ (by omega)⟩, ?_⟩
  have hlimit : m.limit.toText = (toString m.limit.value).toList := by rw [Limit.toText_eq, Numeral.toText_ofInt]
  have hyearText : yearText m.trimmedAt.date.year = padded 4 m.trimmedAt.date.year.toNat := if_pos hyear
  unfold toText
  rw [hlimit, timestamp_eq, Instant.dateTime, Date.toText, hyearText]

/-- The microseconds of an instant outside leap seconds are written as documented. -/
theorem documentedFraction_microsText {n : Nat} (h : n < 10 ^ 6) : DocumentedFraction n (microsText n) := by
  unfold microsText
  split
  · rename_i hzero
    rw [hzero]
    exact .none
  · rename_i hne
    have hdigits : Figures 6 n (padded 6 n) := figures_padded (by decide) h
    exact .digits hne hdigits (hdigits.exists_ne_zero hne)

/-- **From a thousand million nanoseconds on the fraction has seven digits.** Only the nanoseconds count: which second
they are counted in does not matter, so it is not asked to be the last of a minute. -/
theorem figures_microsText {nanos : Nat} (hlow : secondNanos ≤ nanos) (hhigh : nanos < 2 * secondNanos) :
    ∃ ds, microsText (nanos / 1000) = '.' :: ds ∧ Figures 7 (nanos / 1000) ds := by
  have hsix : 10 ^ 6 ≤ nanos / 1000 := by
    unfold secondNanos at hlow
    omega
  have hseven : nanos / 1000 < 10 ^ (6 + 1) := by
    unfold secondNanos at hhigh
    omega
  exact ⟨padded 6 (nanos / 1000), if_neg (by omega), figures_padded_succ (by decide) hsix hseven⟩

theorem DocumentedFraction.length_le {n : Nat} {t : Text} (h : DocumentedFraction n t) : t.length ≤ 7 := by
  cases h with
  | none => exact Nat.zero_le 7
  | digits _ hds _ => rw [List.length_cons, hds.length_eq]

/-- **Markers are written as documented, except in leap seconds.** In a year from 0 to 9999 a marker has the documented
shape, with its microseconds in six digits or none, if its instant is not a leap second. In a leap second it has the
shape but for the fraction, which has seven digits: no number of microseconds is documented to be written so. -/
theorem documented_unless_leap (m : Marker)
    (hyear : 0 ≤ m.trimmedAt.date.year ∧ m.trimmedAt.date.year ≤ 9999) :
    (m.trimmedAt.nanos < secondNanos → Documented m (m.trimmedAt.nanos / 1000)) ∧
      (secondNanos ≤ m.trimmedAt.nanos →
        (∃ ds, Figures 7 (m.trimmedAt.nanos / 1000) ds ∧ Shaped m ('.' :: ds) m.toText) ∧ ∀ n, ¬Documented m n) := by
  have hshaped := m.shaped_toText hyear
  constructor
  · intro hnanos
    have hmicros : m.trimmedAt.nanos / 1000 < 10 ^ 6 := by
      unfold secondNanos at hnanos
      omega
    exact ⟨_, documentedFraction_microsText hmicros, hshaped⟩
  · intro hnanos
    obtain ⟨ds, hfraction, hdigits⟩ := figures_microsText hnanos m.trimmedAt.valid.2.2.1
    rw [micros, hfraction] at hshaped
    refine ⟨⟨_, hdigits, hshaped⟩, ?_⟩
    rintro n ⟨fraction, hdocumented, hshaped'⟩
    have hlength := hdocumented.length_le
    rw [hshaped'.fraction_unique hshaped, List.length_cons, hdigits.length_eq] at hlength
    omega

/-- In the leap second at the end of 2016 a marker has seven digits behind the point; a second before, it has six. -/
theorem leap_second_has_seven_digits :
    let m : Marker := ⟨⟨800⟩, ⟨1483228799, 1500000000, by decide⟩⟩
    let before : Marker := ⟨⟨800⟩, ⟨1483228799, 500000000, by decide⟩⟩
    (0 ≤ m.trimmedAt.date.year ∧ m.trimmedAt.date.year ≤ 9999) ∧ secondNanos ≤ m.trimmedAt.nanos ∧
      m.toText = "! Trimmed to 800 rules on 2016-12-31T23:59:60.1500000Z".toList ∧ (∀ n, ¬Documented m n) ∧
      before.toText = "! Trimmed to 800 rules on 2016-12-31T23:59:59.500000Z".toList ∧ Documented before 500000 := by
  intro m before
  have hyear : 0 ≤ m.trimmedAt.date.year ∧ m.trimmedAt.date.year ≤ 9999 := by decide
  have hleap : secondNanos ≤ m.trimmedAt.nanos := by decide
  refine ⟨hyear, hleap, by decide, ?_, by decide, ?_⟩
  · exact ((documented_unless_leap m hyear).2 hleap).2
  · have hmicros : before.trimmedAt.nanos / 1000 = 500000 := by decide
    rw [← hmicros]
    exact (documented_unless_leap before hyear).1 (by decide)

end Marker

end RuleCap
