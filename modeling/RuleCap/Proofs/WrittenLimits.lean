import RuleCap.Proofs.PlainLimits

/-!
# Written limits

A limit is written in the form that its own text has when it is read as an integer of 64 bits. That reading goes digit
by digit away from zero (`pushDigit?_eq`), so both ends of the range count (`foldlM_pushDigit?`): an integer is written
for the limits of 64 bits and no others (`form_ofNumeral`). In YAML the text is put in quotes where it would be a number
without them (`writeText_toText`).

Main statement: `written_limit_reads_back`.
-/

namespace RuleCap

namespace Limit

/-! ## The form of a limit -/

/-- A number on one side of zero. -/
def onSide (negative : Bool) (n : Nat) : Int := if negative then -n else n

variable {negative : Bool}

/-- What is nearer to zero than an integer of 64 bits is one too. -/
theorem fits_onSide_of_le {m n : Nat} (h : m ≤ n) (hn : fits (onSide negative n) = true) :
    fits (onSide negative m) = true := by
  rw [fits_iff] at hn ⊢
  cases negative with
  | false =>
    change -(Nat.pow 2 63 : Int) ≤ (n : Int) ∧ (n : Int) < Nat.pow 2 63 at hn
    change -(Nat.pow 2 63 : Int) ≤ (m : Int) ∧ (m : Int) < Nat.pow 2 63
    omega
  | true =>
    change -(Nat.pow 2 63 : Int) ≤ -(n : Int) ∧ -(n : Int) < Nat.pow 2 63 at hn
    change -(Nat.pow 2 63 : Int) ≤ -(m : Int) ∧ -(m : Int) < Nat.pow 2 63
    have hpos : 0 < Nat.pow 2 63 := by decide
    omega

/-- One digit more. -/
theorem pushDigit?_eq {c : Char} (hc : c.isDigit = true) (n : Nat) : pushDigit? negative (onSide negative n) c =
    if fits (onSide negative (Nat.ofDigitChars 10 [c] n)) then some (onSide negative (Nat.ofDigitChars 10 [c] n))
    else none := by
  have hnext : (if negative then 10 * onSide negative n - (c.toNat - '0'.toNat : Nat)
      else 10 * onSide negative n + (c.toNat - '0'.toNat : Nat)) = onSide negative (Nat.ofDigitChars 10 [c] n) := by
    rw [Nat.ofDigitChars_cons, Nat.ofDigitChars_nil]
    cases negative
    · simp [onSide]
    · simp [onSide]
      omega
  unfold pushDigit?
  dsimp only
  rw [hnext]
  simp [hc]

/-- **A run of digits** gives their number on its side of zero, unless that leaves the integers of 64 bits. -/
theorem foldlM_pushDigit? {ds : Text} (h : ∀ c ∈ ds, c.isDigit = true) {n : Nat}
    (hn : fits (onSide negative n) = true) : ds.foldlM (pushDigit? negative) (onSide negative n) =
      if fits (onSide negative (Nat.ofDigitChars 10 ds n)) then some (onSide negative (Nat.ofDigitChars 10 ds n))
      else none :=
  foldlM_digits (onSide negative) (fun n => fits (onSide negative n) = true) (fun _ _ => fits_onSide_of_le)
    (fun _ hc => pushDigit?_eq hc) h hn

/-- The text of a canonical numeral is read as its integer, if that has 64 bits. -/
theorem readInteger?_toText {n : Numeral} (h : n.Canonical) :
    readInteger? n.toText = if fits n.value then some n.value else none := by
  have hvalue : n.value = onSide n.negative (Nat.ofDigitChars 10 n.digits 0) := rfl
  have hzero : fits (onSide n.negative 0) = true := by cases n.negative <;> decide
  rw [hvalue, ← foldlM_pushDigit? h.digits.isDigit hzero]
  have hstart : onSide n.negative 0 = 0 := by cases n.negative <;> rfl
  rw [hstart, Numeral.toText]
  cases hn : n.negative with
  | false =>
    rw [if_neg Bool.false_ne_true]
    unfold readInteger?
    split
    · exact absurd ‹n.digits = []› h.digits.ne_nil
    · exact absurd (h.digits.isDigit '+' (by simp [*])) (by decide)
    · exact absurd (h.digits.isDigit '-' (by simp [*])) (by decide)
    · exact absurd (h.digits.isDigit '+' (by simp [*])) (by decide)
    · exact absurd (h.digits.isDigit '-' (by simp [*])) (by decide)
    · rfl
  | true =>
    rw [if_pos rfl]
    obtain ⟨d, ds, hds⟩ := List.exists_cons_of_ne_nil h.digits.ne_nil
    rw [hds]
    rfl

/-- **The form of a limit** goes by its size alone. -/
theorem form_ofNumeral {n : Numeral} (h : n.Canonical) :
    Form.ofNumeral n = if fits n.value then .integer n.value else .text n.toText := by
  rw [Form.ofNumeral, readInteger?_toText h]
  by_cases hfits : fits n.value = true
  · rw [if_pos hfits, if_pos hfits]
  · rw [if_neg hfits, if_neg hfits]

end Limit

namespace Numeral

variable {n : Numeral}

/-! ## JSON -/

theorem toJson_eq (h : n.Canonical) :
    n.toJson = if Limit.fits n.value then .int n.value else .string n.toText := by
  rw [toJson, Limit.form_ofNumeral h]
  split <;> rfl

theorem ofJson_toJson (h : n.Canonical) : ofJson n.toJson = .ok n := by
  rw [toJson_eq h]
  by_cases hfits : Limit.fits n.value = true
  · rw [if_pos hfits, ofJson, Limit.Form.ofJson, if_pos hfits]
    exact congrArg _ h.eq_ofInt.symm
  · have hform : (Limit.Form.text n.toText).numeral? = some n := h.ofText?_toText
    have hread : Limit.Form.ofJson (.string n.toText) = pure (.text n.toText) := rfl
    rw [if_neg hfits, ofJson, hread, pure_bind, hform]

/-! ## YAML -/

/-- **A text is put in quotes** where it would be an integer or a number with a fraction without them. -/
theorem writeText_toText (h : n.Canonical) :
    Yaml.writeText n.toText =
      if Binary64.leastInfinite ≤ n.value.natAbs then n.toText else '\'' :: (n.toText ++ ['\'']) := by
  have hplain := Spelling.ofPlain_bare h.canonicalDigits_spelling
  rw [h.bare_spelling, h.value_spelling] at hplain
  rw [Yaml.writeText, hplain]
  by_cases hlarge : Binary64.leastInfinite ≤ n.value.natAbs
  · have hwide : ¬Yaml.Value.isWide n.value = true := fun hwide =>
      Nat.not_lt.mpr hlarge (Spelling.lt_leastInfinite_of_isWide hwide)
    simp [hlarge, hwide, Nat.not_lt.mpr hlarge]
  · by_cases hwide : Yaml.Value.isWide n.value = true
    · simp [hlarge, hwide]
    · simp [hlarge, hwide, Nat.lt_of_not_le hlarge]

/-- The way in which a limit is written. -/
def style (n : Numeral) : Yaml.Style :=
  if Limit.fits n.value = true ∨ Binary64.leastInfinite ≤ n.value.natAbs then .plain else .single

theorem toYaml_eq (h : n.Canonical) : n.toYaml = n.style.write n.toText ++ ['\n'] := by
  rw [toYaml, Limit.form_ofNumeral h, style]
  by_cases hfits : Limit.fits n.value = true
  · rw [if_pos hfits, if_pos (Or.inl hfits), Limit.Form.toYaml, ← h.eq_ofInt]
    rfl
  · rw [if_neg hfits, Limit.Form.toYaml, writeText_toText h]
    by_cases hlarge : Binary64.leastInfinite ≤ n.value.natAbs
    · rw [if_pos hlarge, if_pos (Or.inr hlarge)]
      rfl
    · rw [if_neg hlarge, if_neg (not_or.mpr ⟨hfits, hlarge⟩)]
      rfl

/-- An oversized integer is written in quotes, so it is read. -/
theorem ofYaml_toYaml (h : n.Canonical) : ofYaml n.toYaml = .ok n := by
  have hread : ¬(n.style = .plain ∧ h.spelling.Oversized) := by
    rintro ⟨hstyle, hover⟩
    obtain ⟨hfits, hfinite⟩ := h.oversized_iff.mp hover
    have hsingle : n.style = .single :=
      if_neg (not_or.mpr ⟨Bool.eq_false_iff.mp hfits, Nat.not_le.mpr hfinite⟩)
    exact absurd (hstyle.symm.trans hsingle) (by decide)
  have hn : ofText? h.spelling.bare = some n := h.bare_spelling ▸ h.ofText?_toText
  rw [toYaml_eq h, ← h.bare_spelling]
  exact (Yaml.ofYaml_scalar_eq_ok_iff n.style h.spelling.word_bare (Or.inr rfl)).mpr
    ((h.spelling.numeral?_value n.style).mpr ⟨hread, hn⟩)

/-! ## Both formats -/

/-- **A written limit is read back**, in both formats and for every size. It is written as an integer exactly if 64 bits
hold it, and as its decimal text otherwise; in YAML that text stands between single quotes, unless the integer is beyond
the numbers with a fraction and means a text without them. -/
theorem written_limit_reads_back (h : Obtainable n) :
    n.toJson = (if Limit.fits n.value then .int n.value else .string (toString n.value).toList) ∧
      ofJson n.toJson = .ok n ∧
      n.toYaml = (if Limit.fits n.value ∨ Binary64.leastInfinite ≤ n.value.natAbs then (toString n.value).toList
        else '\'' :: ((toString n.value).toList ++ ['\''])) ++ ['\n'] ∧
      ofYaml n.toYaml = .ok n := by
  have hcanonical := h.canonical
  have htext : (toString n.value).toList = n.toText := by rw [← toText_ofInt, ← hcanonical.eq_ofInt]
  refine ⟨htext ▸ toJson_eq hcanonical, ofJson_toJson hcanonical, ?_, ofYaml_toYaml hcanonical⟩
  rw [htext, toYaml_eq hcanonical, style]
  split <;> rfl

/-- The integer behind the greatest of 64 bits is the first to be written as a text. -/
theorem first_limit_written_as_text :
    (ofInt 9223372036854775808).toJson = .string "9223372036854775808".toList ∧
      (ofInt 9223372036854775808).toYaml = "'9223372036854775808'\n".toList ∧
      ofYaml "'9223372036854775808'\n".toList = .ok (ofInt 9223372036854775808) := by
  have hvalue : (ofInt 9223372036854775808).value = 9223372036854775808 := by decide
  have hfits : ¬Limit.fits 9223372036854775808 = true := by decide
  have hfinite : ¬Binary64.leastInfinite ≤ (9223372036854775808 : Int).natAbs :=
    Nat.not_le.mpr (Spelling.lt_leastInfinite_of_isWide (by decide))
  have htext : (toString (9223372036854775808 : Int)).toList = "9223372036854775808".toList := by decide
  obtain ⟨hjson, -, hyaml, hread⟩ := written_limit_reads_back (.ofInt 9223372036854775808)
  rw [hvalue, if_neg hfits, htext] at hjson
  rw [hvalue, if_neg (not_or.mpr ⟨hfits, hfinite⟩), htext] at hyaml
  rw [hyaml] at hread
  exact ⟨hjson, hyaml, hread⟩

/-- **Beyond the numbers with a fraction no quotes are written**, although 64 bits do not hold the integer: here a one
with 309 zeros. -/
theorem power_of_ten_written_without_quotes :
    Limit.fits (powerOfTen 309).value = false ∧ (powerOfTen 309).toJson = .string (powerOfTen 309).digits ∧
      (powerOfTen 309).toYaml = (powerOfTen 309).digits ++ ['\n'] := by
  have hcanonical := canonical_powerOfTen 309
  have hlarge := leastInfinite_le_powerOfTen
  have hfits := Spelling.fits_eq_false hlarge
  have htext : (powerOfTen 309).toText = (powerOfTen 309).digits := if_neg Bool.false_ne_true
  have hstyle : (powerOfTen 309).style = .plain := if_pos (Or.inr hlarge)
  refine ⟨hfits, ?_, ?_⟩
  · rw [toJson_eq hcanonical, if_neg (Bool.eq_false_iff.mp hfits), htext]
  · rw [toYaml_eq hcanonical, hstyle, htext, Yaml.Style.write]

end Numeral

end RuleCap
