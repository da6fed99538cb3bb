import RuleCap.Instant.Rfc3339
import RuleCap.Proofs.Calendar
import RuleCap.Proofs.Decimal
import RuleCap.Proofs.Fallible

/-!
# Instants as text

The text of an instant is made of padded numbers and marks. A padded number is read up to its width, or up to the mark
behind it, and gives the number (`number_padded`); a year with a sign has any number of digits
(`year_yearText`), and a fraction has as many as it needs (`nanoseconds_fractionText`). The numbers name the instant
again (`assemble_parts`), by way of the calendar and with the second 60 for a leap second.

Main statement: `read?_write`.
-/

namespace RuleCap

/-! ## Padded numbers -/

section Padded

variable {width n : Nat}

theorem isDigit_of_mem_padded {c : Char} (h : c ∈ padded width n) : c.isDigit = true := by
  rw [padded, List.leftpad, List.mem_append] at h
  rcases h with h | h
  · rw [List.eq_of_mem_replicate h]
    rfl
  · exact Nat.isDigit_of_mem_toDigits (by decide) (by decide) h

theorem padded_ne_nil : padded width n ≠ [] := by
  rw [padded, List.leftpad]
  exact List.append_ne_nil_of_right_ne_nil _ Nat.toDigits_ne_nil

/-- The width is kept by what it has room for. -/
theorem length_padded (hwidth : 0 < width) (h : n < 10 ^ width) : (padded width n).length = width := by
  rw [padded, List.length_leftpad]
  exact max_eq_left ((Nat.length_toDigits_le_iff (by decide) hwidth).mpr h)

/-- The zeros in front do not count. -/
theorem digitsValue_padded : Rfc3339.digitsValue (padded width n) = n := by
  rw [Rfc3339.digitsValue, padded, List.leftpad, Nat.ofDigitChars_append, ofDigitChars_replicate_zero, Nat.mul_zero]
  exact Nat.ofDigitChars_ten_toDigits

end Padded

namespace Rfc3339

/-! ## Characters -/

theorem isDigit_eq (c : Char) : isDigit c = c.isDigit := by
  simp [isDigit, Char.isDigit, Char.le_def]

theorem isSpace_of_isDigit {c : Char} (h : c.isDigit = true) : isSpace c = false := by
  have hc := isDigit_iff_toNat.mp h
  simp [isSpace, spaceRanges]
  omega

/-! ## Numbers -/

section Numbers

variable {width : Nat} {digits rest : Text}

/-- **Digits are read as a number**, up to the width or to something else. -/
theorem number_append (hne : digits ≠ []) (hdigits : ∀ c ∈ digits, c.isDigit = true) (hlen : digits.length ≤ width)
    (hstop : digits.length = width ∨ ∀ c ∈ rest.head?, c.isDigit = false) :
    number width (digits ++ rest) = .ok (digitsValue digits, rest) := by
  have hall : ∀ c ∈ digits, isDigit c = true := fun c hc => isDigit_eq c ▸ hdigits c hc
  have hrest : (rest.take (width - digits.length)).takeWhile isDigit = [] := by
    rcases hstop with hstop | hstop
    · simp [hstop]
    · cases rest with
      | nil => simp
      | cons c rest =>
        have hc : isDigit c = false := isDigit_eq c ▸ hstop c rfl
        cases width - digits.length with
        | zero => rfl
        | succ k => simp [hc]
  have hrun : ((digits ++ rest).take width).takeWhile isDigit = digits := by
    rw [List.take_append, List.take_of_length_le hlen, List.takeWhile_append_of_pos hall, hrest, List.append_nil]
  unfold number
  dsimp only
  rw [hrun, List.drop_left]
  obtain ⟨c, more, rfl⟩ := List.exists_cons_of_ne_nil hne
  rfl

/-- A padded number is read as the number. -/
theorem number_padded {least n : Nat} (hlen : (padded least n).length ≤ width)
    (hstop : (padded least n).length = width ∨ ∀ c ∈ rest.head?, c.isDigit = false) :
    number width (padded least n ++ rest) = .ok (n, rest) := by
  rw [number_append padded_ne_nil (fun _ => isDigit_of_mem_padded) hlen hstop, digitsValue_padded]

/-- No white space is passed over in front of digits. -/
theorem dropWhile_isSpace_append (hne : digits ≠ []) (hdigits : ∀ c ∈ digits, c.isDigit = true) :
    (digits ++ rest).dropWhile isSpace = digits ++ rest := by
  obtain ⟨c, more, rfl⟩ := List.exists_cons_of_ne_nil hne
  have hc := isSpace_of_isDigit (hdigits c List.mem_cons_self)
  rw [List.cons_append, List.dropWhile_cons_of_neg (by simp [hc])]

variable {low high n : Nat}

/-- A field with room for a number is read as the number. -/
theorem field_padded (hwidth : 0 < width) (hn : n < 10 ^ width) (hrange : low ≤ n ∧ n ≤ high) :
    field width low high (padded width n ++ rest) = .ok (n, rest) := by
  have hlen := length_padded hwidth hn
  have hnumber : number width (padded width n ++ rest) = .ok (n, rest) := number_padded hlen.le (Or.inl hlen)
  rw [field, dropWhile_isSpace_append padded_ne_nil fun _ => isDigit_of_mem_padded, hnumber]
  exact if_pos hrange

theorem separator_T : separator ('T' :: rest) = .ok rest := by
  simp [separator]

theorem mark_cons {c : Char} (hc : isSpace c = false) : mark c (c :: rest) = .ok rest := by
  rw [mark, List.dropWhile_cons_of_neg (by simp [hc])]
  exact if_pos rfl

end Numbers

/-! ## The date -/

section Year

variable {y : Int} {rest : Text}

/-- Behind a sign, digits are read up to the mark behind the year. -/
theorem number_year (n : Nat) (rest : Text) :
    number (padded 4 n ++ '-' :: rest).length (padded 4 n ++ '-' :: rest) = .ok (n, '-' :: rest) := by
  have hlen : (padded 4 n).length ≤ (padded 4 n ++ '-' :: rest).length := by
    rw [List.length_append]
    exact Nat.le_add_right _ _
  have hstop : ∀ c ∈ ('-' :: rest).head?, c.isDigit = false := by
    rintro c ⟨⟩
    rfl
  exact number_padded hlen (Or.inr hstop)

/-- A year of four digits is read without a sign. -/
theorem year_padded {n : Nat} (h : n < 10 ^ 4) : year (padded 4 n ++ '-' :: rest) = .ok (n, '-' :: rest) := by
  have hlen := length_padded (by decide) h
  have hnumber : number 4 (padded 4 n ++ '-' :: rest) = .ok (n, '-' :: rest) := number_padded hlen.le (Or.inl hlen)
  have hne : padded 4 n ≠ [] := padded_ne_nil
  obtain ⟨d, more, hcons⟩ := List.exists_cons_of_ne_nil hne
  have hd : d.isDigit = true := isDigit_of_mem_padded (hcons ▸ List.mem_cons_self)
  rw [year, dropWhile_isSpace_append padded_ne_nil fun _ => isDigit_of_mem_padded]
  split
  · rename_i heq
    rw [hcons, List.cons_append, List.cons.injEq] at heq
    exact absurd (heq.1 ▸ hd) (by decide)
  · rename_i heq
    rw [hcons, List.cons_append, List.cons.injEq] at heq
    exact absurd (heq.1 ▸ hd) (by decide)
  · exact bind_eq_ok_iff.mpr ⟨_, hnumber, rfl⟩

/-- **A year is read back**, with a sign and without. -/
theorem year_yearText (hlow : -Nat.pow 2 31 ≤ y) (hhigh : y < Nat.pow 2 31) :
    year (yearText y ++ '-' :: rest) = .ok (y, '-' :: rest) := by
  unfold yearText
  split
  · rw [year_padded (by omega)]
    have hy : (y.toNat : Int) = y := by omega
    rw [hy]
  · split
    · have hn : y.natAbs ≤ Nat.pow 2 31 := by omega
      have hy : -(y.natAbs : Int) = y := by omega
      refine bind_eq_ok_iff.mpr ⟨_, number_year y.natAbs rest, ?_⟩
      exact (if_pos hn).trans (by rw [hy])
    · have hn : y.natAbs < Nat.pow 2 31 := by omega
      have hy : (y.natAbs : Int) = y := by omega
      refine bind_eq_ok_iff.mpr ⟨_, number_year y.natAbs rest, ?_⟩
      exact (if_pos hn).trans (by rw [hy])

end Year

/-- The date of an instant is read back as three numbers. -/
theorem date_toText {d : Date} (hvalid : d.Valid) (hlow : -Nat.pow 2 31 ≤ d.year) (hhigh : d.year < Nat.pow 2 31)
    (rest : Text) : date (d.toText ++ rest) = .ok (d, rest) := by
  have hday' := hvalid.day_le
  obtain ⟨hmonth, hmonth', hday, -⟩ := hvalid
  have htext : d.toText ++ rest =
      yearText d.year ++ '-' :: (padded 2 d.month ++ '-' :: (padded 2 d.day ++ rest)) := by
    simp [Date.toText, List.append_assoc]
  rw [htext]
  exact bind_eq_ok_iff.mpr ⟨_, year_yearText hlow hhigh, bind_eq_ok_iff.mpr ⟨_, mark_cons rfl,
    bind_eq_ok_iff.mpr ⟨_, field_padded (by decide) (by omega) ⟨hmonth, hmonth'⟩, bind_eq_ok_iff.mpr ⟨_, mark_cons rfl,
      bind_eq_ok_iff.mpr ⟨_, field_padded (by decide) (by omega) ⟨hday, hday'⟩, rfl⟩⟩⟩⟩⟩

/-! ## The fraction -/

/-- A run of digits behind the point counts by its places. -/
theorem nanoseconds_padded {width m n : Nat} (hwidth : 0 < width) (hnine : width ≤ 9) (hm : m < 10 ^ width)
    (hn : m * 10 ^ (9 - width) = n) : nanoseconds ('.' :: (padded width m ++ ['Z'])) = .ok (n, ['Z']) := by
  have hlen := length_padded hwidth hm
  have hstop : ∀ c ∈ ['Z'].head?, c.isDigit = false := by
    rintro c ⟨⟩
    rfl
  have hnumber : number 9 (padded width m ++ ['Z']) = .ok (m, ['Z']) :=
    number_padded (hlen.le.trans hnine) (Or.inr hstop)
  refine bind_eq_ok_iff.mpr ⟨_, hnumber, ?_⟩
  have hplaces : (padded width m ++ ['Z']).length - ['Z'].length = width := by
    rw [List.length_append, hlen, Nat.add_sub_cancel]
  dsimp only
  rw [hplaces, ← hn]
  rfl

/-- **The nanoseconds of a fraction are read back**, in however many digits they are written. -/
theorem nanoseconds_fractionText {n : Nat} (h : n < secondNanos) :
    nanoseconds (fractionText n ++ ['Z']) = .ok (n, ['Z']) := by
  unfold secondNanos at h
  unfold fractionText
  split
  · rename_i hzero
    rw [hzero]
    rfl
  · split
    · exact nanoseconds_padded (by decide) (by decide) (by omega) (by omega)
    · split
      · exact nanoseconds_padded (by decide) (by decide) (by omega) (by omega)
      · exact nanoseconds_padded (by decide) (by decide) (by omega) (by omega)

/-! ## The instant -/

variable (i : Instant)

theorem secondOfDay_lt : i.secondOfDay < 86400 := by
  unfold Instant.secondOfDay daySeconds
  omega

/-- A leap second is the second 60 of its minute. -/
theorem second_eq : (i.nanos < secondNanos ∧ i.second = i.secondOfDay % 60) ∨
    (secondNanos ≤ i.nanos ∧ i.second = 60 ∧ i.secondOfDay % 60 = 59) := by
  obtain ⟨-, -, htwice, hleap⟩ := i.valid
  unfold secondNanos at htwice hleap
  unfold Instant.second Instant.secondOfDay daySeconds secondNanos
  by_cases h : i.nanos < 1000000000
  · exact Or.inl ⟨h, by omega⟩
  · have hlast := hleap (by omega)
    exact Or.inr ⟨by omega, by omega, by omega⟩

theorem hour_le : i.hour ≤ 23 := by
  have hofDay := secondOfDay_lt i
  unfold Instant.hour
  omega

theorem minute_le : i.minute ≤ 59 := by
  unfold Instant.minute
  omega

theorem second_le : i.second ≤ 60 := by
  rcases second_eq i with ⟨-, h⟩ | ⟨-, h, -⟩ <;> omega

/-- The year of an instant is one that is read. -/
theorem year_date : -262143 ≤ i.date.year ∧ i.date.year ≤ 262142 := by
  obtain ⟨hlow, hhigh, -, -⟩ := i.valid
  refine Date.year_ofDayNumber ?_ ?_
  · unfold daySeconds
    omega
  · unfold daySeconds
    omega

theorem valid_date : i.date.Valid := Date.valid_ofDayNumber _

theorem ofTimestamp?_eq : Instant.ofTimestamp? i.seconds i.nanos = some i := dif_pos i.valid

/-- The numbers of the time of day add up to the seconds since midnight. -/
theorem timeOfDay_eq : i.hour * 3600 + i.minute * 60 + i.secondOfDay % 60 = i.secondOfDay := by
  unfold Instant.hour Instant.minute
  omega

/-- **The numbers of an instant name it**: the second 60 stands for a leap second. -/
theorem assemble_parts : assemble i.date i.hour i.minute i.second (fraction i) 0 = .ok i := by
  have hgood : i.date.Valid ∧ -262143 ≤ i.date.year ∧ i.date.year ≤ 262142 ∧ (0 : Int).natAbs < daySeconds :=
    ⟨valid_date i, (year_date i).1, (year_date i).2, by decide⟩
  have hday : i.date.dayNumber = i.seconds / daySeconds := Date.dayNumber_ofDayNumber _
  have htime := timeOfDay_eq i
  have hofDay : (i.secondOfDay : Int) = i.seconds % daySeconds := by
    unfold Instant.secondOfDay daySeconds
    omega
  have hseconds : i.seconds / daySeconds * daySeconds + i.seconds % daySeconds = i.seconds :=
    Int.ediv_mul_add_emod _ _
  unfold assemble
  rw [if_neg (not_not.mpr hgood), hday]
  rcases second_eq i with ⟨hnanos, hsecond⟩ | ⟨hnanos, hsecond, hlast⟩
  · have hleap : i.second ≠ 60 := by omega
    have hfraction : fraction i + 0 * secondNanos = i.nanos := by
      rw [Nat.zero_mul, Nat.add_zero]
      exact Nat.mod_eq_of_lt hnanos
    have htotal : i.seconds / daySeconds * daySeconds +
        ((i.hour : Int) * 3600 + i.minute * 60 + (i.second - (0 : Nat))) - 0 = i.seconds := by omega
    rw [if_neg hleap]
    dsimp only
    rw [hfraction, htotal, ofTimestamp?_eq]
  · have hfraction : fraction i + 1 * secondNanos = i.nanos := by
      have htwice := i.valid.2.2.1
      unfold fraction
      unfold secondNanos at *
      omega
    have htotal : i.seconds / daySeconds * daySeconds +
        ((i.hour : Int) * 3600 + i.minute * 60 + (i.second - (1 : Nat))) - 0 = i.seconds := by omega
    rw [if_pos hsecond]
    dsimp only
    rw [hfraction, htotal, ofTimestamp?_eq]

/-- The date of an instant is read back. -/
theorem date_toText_of_instant (rest : Text) : date (i.date.toText ++ rest) = .ok (i.date, rest) := by
  have hpow : Nat.pow 2 31 = 2147483648 := rfl
  have hyear := year_date i
  exact date_toText (valid_date i) (by omega) (by omega) rest

/-- **A written instant is read back.** -/
theorem read?_write : read? (write i) = .ok i := by
  have hhour := hour_le i
  have hminute := minute_le i
  have hsecond := second_le i
  have hfraction : fraction i < secondNanos := Nat.mod_lt _ (by decide)
  have htext : write i = i.date.toText ++ 'T' :: (padded 2 i.hour ++ ':' :: (padded 2 i.minute ++ ':' ::
      (padded 2 i.second ++ (fractionText (fraction i) ++ ['Z'])))) := by
    simp [write, Instant.dateTime, List.append_assoc]
  rw [htext]
  refine bind_eq_ok_iff.mpr ⟨_, date_toText_of_instant i _, ?_⟩
  refine bind_eq_ok_iff.mpr ⟨_, separator_T, ?_⟩
  refine bind_eq_ok_iff.mpr ⟨_, field_padded (by decide) (by omega) ⟨Nat.zero_le _, hhour⟩, ?_⟩
  refine bind_eq_ok_iff.mpr ⟨_, mark_cons rfl, ?_⟩
  refine bind_eq_ok_iff.mpr ⟨_, field_padded (by decide) (by omega) ⟨Nat.zero_le _, hminute⟩, ?_⟩
  refine bind_eq_ok_iff.mpr ⟨_, mark_cons rfl, ?_⟩
  refine bind_eq_ok_iff.mpr ⟨_, field_padded (by decide) (by omega) ⟨Nat.zero_le _, hsecond⟩, ?_⟩
  refine bind_eq_ok_iff.mpr ⟨_, nanoseconds_fractionText hfraction, ?_⟩
  refine bind_eq_ok_iff.mpr ⟨(0, []), by decide, ?_⟩
  exact assemble_parts i

end Rfc3339

end RuleCap
