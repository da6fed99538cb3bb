import Mathlib.Data.List.Induction
import RuleCap.Numeral

/-!
# Decimal digits

Digits are canonical when there is at least one and no zero stands in front of others. Canonical digits are the decimal
form of the number that they denote (`CanonicalDigits.toDigits_ofDigitChars`), and every number has canonical digits
(`canonicalDigits_toDigits`), so the number and its digits determine each other. Dropping the zeros in front makes any
digits canonical (`canonicalDigits_significant`) and leaves the number as it is (`ofDigitChars_significant`). Readers that
hold numbers up to a bound find the number of the digits if it is within the bound, and nothing otherwise
(`foldlM_digits`).

A numeral is canonical when its digits are and zero has no minus sign. There is one canonical numeral for every integer
(`Numeral.Canonical.eq_ofInt`), and its text is the decimal text of the integer (`Numeral.toText_ofInt`).
-/

namespace RuleCap

/-- At least one digit, and no zero in front of others. -/
structure CanonicalDigits (ds : Text) : Prop where
  ne_nil : ds ≠ []
  isDigit : ∀ c ∈ ds, c.isDigit = true
  zero_alone : ∀ rest, ds = '0' :: rest → rest = []

/-! ## One digit -/

theorem isDigit_iff_toNat {c : Char} : c.isDigit = true ↔ 48 ≤ c.toNat ∧ c.toNat ≤ 57 :=
  Char.isDigit_iff_toNat

/-- The first character behind the digits in front of a text is none. -/
theorem of_dropWhile_isDigit {t rest : Text} {c : Char} (h : t.dropWhile Char.isDigit = c :: rest) :
    c ∈ t ∧ c.isDigit = false := by
  have hhead := List.head?_dropWhile_not Char.isDigit t
  exact ⟨List.dropWhile_subset _ (h ▸ List.mem_cons_self), by simpa [h] using hhead⟩

/-- A digit is the one that is written for its value. -/
theorem digitChar_of_isDigit {c : Char} (h : c.isDigit = true) : (c.toNat - 48).digitChar = c := by
  have hc := isDigit_iff_toNat.mp h
  apply Char.toNat_inj.mp
  rw [Nat.toNat_digitChar_of_lt_ten (by omega)]
  omega

theorem toDigits_of_isDigit {c : Char} (h : c.isDigit = true) : Nat.toDigits 10 (c.toNat - 48) = [c] := by
  have hlt : c.toNat - 48 < 10 := by
    have := isDigit_iff_toNat.mp h
    omega
  rw [Nat.toDigits_of_lt_base hlt, digitChar_of_isDigit h]

/-- More digits never make a number less. -/
theorem le_ofDigitChars (ds : Text) (n : Nat) : n ≤ Nat.ofDigitChars 10 ds n := by
  induction ds generalizing n with
  | nil => exact Nat.le_refl n
  | cons c ds ih =>
    rw [Nat.ofDigitChars_cons]
    exact Nat.le_trans (by omega) (ih _)

/-- **Digits are read within a range.** If one digit more gives the number of what has been read, unless that is out of
the range, then a run of digits gives its number, unless that is. The range holds what is below a number that it holds, so
nothing that is out of it comes back. -/
theorem foldlM_digits {α : Type} {push : α → Char → Option α} (value : Nat → α) (InRange : Nat → Prop)
    [DecidablePred InRange] (hdown : ∀ m n, m ≤ n → InRange n → InRange m)
    (hpush : ∀ c : Char, c.isDigit = true → ∀ n, push (value n) c =
      if InRange (Nat.ofDigitChars 10 [c] n) then some (value (Nat.ofDigitChars 10 [c] n)) else none)
    {ds : Text} (h : ∀ c ∈ ds, c.isDigit = true) {n : Nat} (hn : InRange n) :
    ds.foldlM push (value n) =
      if InRange (Nat.ofDigitChars 10 ds n) then some (value (Nat.ofDigitChars 10 ds n)) else none := by
  induction ds generalizing n with
  | nil => exact (if_pos hn).symm
  | cons c ds ih =>
    rw [List.forall_mem_cons] at h
    have hsplit : Nat.ofDigitChars 10 (c :: ds) n = Nat.ofDigitChars 10 ds (Nat.ofDigitChars 10 [c] n) :=
      Nat.ofDigitChars_append (l := [c]) n
    rw [List.foldlM_cons, hpush c h.1, hsplit]
    by_cases hfits : InRange (Nat.ofDigitChars 10 [c] n)
    · rw [if_pos hfits]
      exact ih h.2 hfits
    · have hleft : ¬InRange (Nat.ofDigitChars 10 ds (Nat.ofDigitChars 10 [c] n)) := fun hin =>
        hfits (hdown _ _ (le_ofDigitChars ds _) hin)
      rw [if_neg hfits, if_neg hleft]
      rfl

/-! ## Digits and their number -/

theorem canonicalDigits_zero : CanonicalDigits ['0'] where
  ne_nil := List.cons_ne_nil _ _
  isDigit := List.forall_mem_singleton.mpr rfl
  zero_alone rest h := by simpa using h.symm

theorem CanonicalDigits.not_mem_underscore {ds : Text} (h : CanonicalDigits ds) : '_' ∉ ds := fun hmem =>
  absurd (h.isDigit '_' hmem) (by decide)

/-- **Canonical digits are the decimal form of their number.** -/
theorem CanonicalDigits.toDigits_ofDigitChars {ds : Text} (h : CanonicalDigits ds) :
    Nat.toDigits 10 (Nat.ofDigitChars 10 ds 0) = ds := by
  induction ds using List.reverseRecOn with
  | nil => exact absurd rfl h.ne_nil
  | append_singleton front c ih =>
    have hc : c.isDigit = true := h.isDigit c (by simp)
    have hvalue : Nat.ofDigitChars 10 (front ++ [c]) 0 = 10 * Nat.ofDigitChars 10 front 0 + (c.toNat - 48) := by
      rw [Nat.ofDigitChars_append, Nat.ofDigitChars_cons, Nat.ofDigitChars_nil]
      rfl
    rw [hvalue]
    by_cases hfront : front = []
    · subst hfront
      simpa using toDigits_of_isDigit hc
    · have hcanonical : CanonicalDigits front := by
        refine ⟨hfront, fun d hd => h.isDigit d (by simp [hd]), ?_⟩
        rintro rest rfl
        exact absurd (h.zero_alone (rest ++ [c]) rfl) (by simp)
      have ih := ih hcanonical
      -- a front with the value zero would be one zero, and that does not stand in front of `c`
      have hpos : 0 < Nat.ofDigitChars 10 front 0 := by
        rw [Nat.pos_iff_ne_zero]
        intro hzero
        rw [hzero, Nat.toDigits_zero] at ih
        subst ih
        exact absurd (h.zero_alone [c] rfl) (by simp)
      have hlt : c.toNat - 48 < 10 := by
        have := isDigit_iff_toNat.mp hc
        omega
      rw [← Nat.toDigits_append_toDigits (by decide) hpos hlt, ih, toDigits_of_isDigit hc]

/-- **The decimal form of a number is canonical.** -/
theorem canonicalDigits_toDigits (n : Nat) : CanonicalDigits (Nat.toDigits 10 n) where
  ne_nil := Nat.toDigits_ne_nil
  isDigit _ hc := Nat.isDigit_of_mem_toDigits (by decide) (by decide) hc
  zero_alone := by
    induction n using Nat.strongRecOn with
    | ind n ih =>
      intro rest h
      rw [Nat.toDigits_eq_if (by decide)] at h
      split at h
      · simp_all
      · rename_i hn
        cases hfront : Nat.toDigits 10 (n / 10) with
        | nil => exact absurd hfront Nat.toDigits_ne_nil
        | cons first more =>
          -- the front of the digits begins with the zero as well, so it is zero, although `n` has two digits
          rw [hfront, List.cons_append, List.cons.injEq] at h
          obtain ⟨rfl, -⟩ := h
          have hmore := ih (n / 10) (by omega) more hfront
          have hvalue : Nat.ofDigitChars 10 (Nat.toDigits 10 (n / 10)) 0 = n / 10 := Nat.ofDigitChars_ten_toDigits
          rw [hfront, hmore] at hvalue
          have hzero : Nat.ofDigitChars 10 ['0'] 0 = 0 := rfl
          omega

/-- The canonical digits of zero are one zero. -/
theorem CanonicalDigits.eq_zero_iff {ds : Text} (h : CanonicalDigits ds) :
    ds = ['0'] ↔ Nat.ofDigitChars 10 ds 0 = 0 := by
  constructor
  · rintro rfl
    rfl
  · intro hzero
    rw [← h.toDigits_ofDigitChars, hzero, Nat.toDigits_zero]

/-! ## Zeros -/

/-- Zeros behind a number multiply it. -/
theorem ofDigitChars_replicate_zero (k n : Nat) : Nat.ofDigitChars 10 (List.replicate k '0') n = Nat.pow 10 k * n := by
  induction k generalizing n with
  | zero => simp
  | succ k ih =>
    have hpow : Nat.pow 10 (k + 1) = Nat.pow 10 k * 10 := Nat.pow_succ 10 k
    rw [List.replicate_succ, Nat.ofDigitChars_cons, ih, hpow, Nat.mul_assoc]
    rfl

theorem ofDigitChars_dropWhile_zero (ds : Text) :
    Nat.ofDigitChars 10 (ds.dropWhile (· == '0')) 0 = Nat.ofDigitChars 10 ds 0 := by
  induction ds with
  | nil => rfl
  | cons c ds ih =>
    by_cases hc : c = '0'
    · subst hc
      rw [List.dropWhile_cons_of_pos (by decide), ih, Nat.ofDigitChars_cons]
      rfl
    · rw [List.dropWhile_cons_of_neg (by simpa using hc)]

/-- Without the zeros in front, digits are canonical. -/
theorem canonicalDigits_significant {ds : Text} (h : ∀ c ∈ ds, c.isDigit = true) :
    CanonicalDigits (Numeral.significant ds) := by
  unfold Numeral.significant
  split
  · exact canonicalDigits_zero
  · rename_i hne
    refine ⟨hne, fun c hc => h c (List.dropWhile_subset _ hc), ?_⟩
    intro rest hrest
    have hhead := List.head?_dropWhile_not (· == '0') ds
    simp [hrest] at hhead

/-- The zeros in front do not count. -/
theorem ofDigitChars_significant (ds : Text) :
    Nat.ofDigitChars 10 (Numeral.significant ds) 0 = Nat.ofDigitChars 10 ds 0 := by
  rw [← ofDigitChars_dropWhile_zero ds]
  unfold Numeral.significant
  split
  · rename_i hnil
    rw [hnil]
    rfl
  · rfl

/-! ## Numerals -/

namespace Numeral

/-- Canonical digits, and no minus sign in front of zero. -/
structure Canonical (n : Numeral) : Prop where
  digits : CanonicalDigits n.digits
  sign : n.negative = true → n.digits ≠ ['0']

variable {n : Numeral}

theorem natAbs_value (n : Numeral) : n.value.natAbs = Nat.ofDigitChars 10 n.digits 0 := by
  unfold value
  split <;> simp

/-- The sign of a canonical numeral is that of its integer. -/
theorem Canonical.negative_iff (h : n.Canonical) : n.negative = true ↔ n.value < 0 := by
  have hzero := h.digits.eq_zero_iff
  cases hn : n.negative with
  | false =>
    simp only [value, hn, Bool.false_eq_true, if_false, false_iff]
    omega
  | true =>
    have hne : Nat.ofDigitChars 10 n.digits 0 ≠ 0 := fun h0 => h.sign hn (hzero.mpr h0)
    simp only [value, hn, if_true, true_iff]
    omega

/-- **A canonical numeral is the one of its integer**, so there is one for every integer. -/
theorem Canonical.eq_ofInt (h : n.Canonical) : n = ofInt n.value := by
  have hsign : n.negative = decide (n.value < 0) := by
    rw [Bool.eq_iff_iff, h.negative_iff, decide_eq_true_iff]
  have hdigits : n.digits = Nat.toDigits 10 n.value.natAbs := by
    rw [natAbs_value, h.digits.toDigits_ofDigitChars]
  rw [ofInt, ← hsign, ← hdigits]

@[simp]
theorem value_ofInt (v : Int) : (ofInt v).value = v := by
  simp only [value, ofInt, Nat.ofDigitChars_ten_toDigits, decide_eq_true_iff]
  split <;> omega

theorem canonical_ofInt (v : Int) : (ofInt v).Canonical where
  digits := canonicalDigits_toDigits _
  sign hneg := by
    have hv : v < 0 := of_decide_eq_true hneg
    intro hzero
    have habs : v.natAbs = 0 := by
      rw [← Nat.ofDigitChars_ten_toDigits (n := v.natAbs)]
      exact (canonicalDigits_toDigits _).eq_zero_iff.mp hzero
    omega

theorem keepFirst_eq_ofInt (count : Nat) : keepFirst count = ofInt count := by
  simp [keepFirst, ofInt]

/-- The text of the numeral of an integer is the decimal text of the integer. -/
theorem toText_ofInt (v : Int) : (ofInt v).toText = (toString v).toList := by
  have hrepr : toString v = v.repr := rfl
  rw [hrepr, Int.repr_eq_if]
  by_cases hv : 0 ≤ v
  · have habs : v.natAbs = v.toNat := by omega
    simp [toText, ofInt, hv, habs, Nat.repr_eq_ofList_toDigits]
  · have habs : v.natAbs = (-v).toNat := by omega
    simp [toText, ofInt, hv, habs, Nat.repr_eq_ofList_toDigits]

end Numeral

end RuleCap
