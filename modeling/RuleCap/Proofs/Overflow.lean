import Mathlib.Data.Nat.Log
import RuleCap.Binary64

/-!
# Natural numbers that are too large

The greatest numbers of the format stand a step apart (`greatestStep`), and the next step leads to a power of two that
the format does not hold. A natural number halfway to that power or beyond is infinite (`leastInfinite`), any less one
is not: for numbers with the same binary length as the greatest ones rounding decides
(`roundQuotient_eq_bound_iff`), for all others their length (`isFinite_ofFraction`).

Main statement: `isFinite_ofDecimal`.
-/

namespace RuleCap.Binary64

/-- The distance of the greatest numbers of the format from each other. -/
def greatestStep : Nat := Nat.pow 2 greatestExponent.toNat

/-- The least natural number that is infinite in the format: halfway from its greatest number to the next step. -/
def leastInfinite : Nat := bound * greatestStep - greatestStep / 2

theorem pow_two_succ (k : Nat) : Nat.pow 2 (k + 1) = 2 * Nat.pow 2 k := Nat.pow_succ'

theorem greatestStep_eq : ∃ half, 0 < half ∧ greatestStep = 2 * half := by
  have hexponent : greatestExponent.toNat ≠ 0 := by decide
  unfold greatestStep
  obtain ⟨k, hk⟩ := Nat.exists_eq_succ_of_ne_zero hexponent
  rw [hk]
  exact ⟨Nat.pow 2 k, Nat.pow_pos (by decide), pow_two_succ k⟩

/-- A number of the greatest length rounds up to the bound exactly if it is halfway to it or beyond. -/
theorem roundQuotient_eq_bound_iff {n : Nat} (h : n < bound * greatestStep) :
    roundQuotient n greatestStep = bound ↔ leastInfinite ≤ n := by
  obtain ⟨half, hpos, hstep⟩ := greatestStep_eq
  have hbound : bound = 9007199254740992 := rfl
  unfold leastInfinite roundQuotient
  rw [hstep] at h ⊢
  have hdiv : 2 * half * (n / (2 * half)) + n % (2 * half) = n := Nat.div_add_mod n _
  have hmod : n % (2 * half) < 2 * half := Nat.mod_lt _ (by omega)
  have hquot : n / (2 * half) < bound := (Nat.div_lt_iff_lt_mul (by omega)).mpr h
  generalize n / (2 * half) = q at hdiv hquot ⊢
  generalize n % (2 * half) = r at hdiv hmod ⊢
  rw [hbound] at hquot ⊢
  dsimp only
  by_cases hq : q = 9007199254740991
  · subst hq
    split <;> omega
  · -- one step further down no remainder reaches half of the last step
    have hle : 2 * half * q ≤ 2 * half * 9007199254740990 := Nat.mul_le_mul_left _ (by omega)
    split <;> omega

theorem leastInfinite_lt : leastInfinite < bound * greatestStep := by
  obtain ⟨half, hpos, hstep⟩ := greatestStep_eq
  have hbound : bound = 9007199254740992 := rfl
  rw [leastInfinite, hstep, hbound]
  omega

theorem half_lt_leastInfinite : bound / 2 * greatestStep < leastInfinite := by
  obtain ⟨half, hpos, hstep⟩ := greatestStep_eq
  have hbound : bound = 9007199254740992 := rfl
  rw [leastInfinite, hstep, hbound]
  omega

/-! ## Powers of two -/

section Powers

variable {n k : Nat}

/-- The bound and the greatest step make the power of two behind the greatest numbers. -/
theorem bound_mul_greatestStep : bound * greatestStep = Nat.pow 2 (53 + greatestExponent.toNat) := by
  unfold bound greatestStep
  generalize greatestExponent.toNat = e
  exact (Nat.pow_add 2 53 e).symm

theorem half_bound_mul_greatestStep : bound / 2 * greatestStep = Nat.pow 2 (52 + greatestExponent.toNat) := by
  have hhalf : bound / 2 = 2 ^ 52 := rfl
  unfold greatestStep
  generalize greatestExponent.toNat = e
  rw [hhalf]
  exact (Nat.pow_add 2 52 e).symm

theorem lt_bound_mul_greatestStep (hk : k ≤ 53 + greatestExponent.toNat) (hn : n < Nat.pow 2 k) :
    n < bound * greatestStep := by
  rw [bound_mul_greatestStep]
  generalize 53 + greatestExponent.toNat = e at hk
  exact hn.trans_le (Nat.pow_le_pow_right (by decide) hk)

/-- Numbers of less than the greatest length are finite, -/
theorem lt_leastInfinite (hk : k ≤ 52 + greatestExponent.toNat) (hn : n < Nat.pow 2 k) : n < leastInfinite := by
  refine Nat.lt_of_lt_of_le ?_ half_lt_leastInfinite.le
  rw [half_bound_mul_greatestStep]
  generalize 52 + greatestExponent.toNat = e at hk
  exact hn.trans_le (Nat.pow_le_pow_right (by decide) hk)

/-- and numbers of more are infinite. -/
theorem leastInfinite_lt_of_pow_le (hk : 53 + greatestExponent.toNat ≤ k) (hn : Nat.pow 2 k ≤ n) :
    leastInfinite < n := by
  have hlt := leastInfinite_lt
  rw [bound_mul_greatestStep] at hlt
  generalize 53 + greatestExponent.toNat = e at hk hlt
  exact (hlt.trans_le (Nat.pow_le_pow_right (by decide) hk)).trans_le hn

end Powers

/-! ## Whole numbers -/

section Whole

variable {n : Nat}

/-- At the exponent that its length gives it, a natural number has all its digits in the significand. -/
theorem half_bound_le_quotient (hn : n ≠ 0) :
    bound / 2 ≤ (overPower n 1 ((n.log2 : Int) - 52)).1 / (overPower n 1 ((n.log2 : Int) - 52)).2 := by
  have hhalf : bound / 2 = 2 ^ 52 := rfl
  have hlow : 2 ^ n.log2 ≤ n := Nat.log2_self_le hn
  unfold overPower
  by_cases hlen : 52 ≤ n.log2
  · obtain ⟨k, hk⟩ := Nat.exists_eq_add_of_le hlen
    have hk' : (n.log2 : Int) - 52 = k := by omega
    rw [hk', if_pos (Int.natCast_nonneg k)]
    dsimp only
    rw [Nat.one_mul, Int.toNat_natCast, hhalf]
    refine (Nat.le_div_iff_mul_le (Nat.pow_pos (by decide))).mpr ?_
    calc 2 ^ 52 * 2 ^ k = 2 ^ n.log2 := by rw [hk, Nat.pow_add]
      _ ≤ n := hlow
  · obtain ⟨k, hk⟩ := Nat.exists_eq_add_of_le (Nat.le_of_not_le hlen)
    have hk' : -((n.log2 : Int) - 52) = k := by omega
    rw [if_neg (by omega), hk']
    dsimp only
    rw [Nat.div_one, Int.toNat_natCast, hhalf]
    calc 2 ^ 52 = 2 ^ n.log2 * 2 ^ k := by rw [← Nat.pow_add, ← hk]
      _ ≤ n * 2 ^ k := Nat.mul_le_mul_right _ hlow

/-- The number nearest to a natural number is infinite if its exponent is too large, before or after rounding. -/
theorem isFinite_ofFraction_iff (negative : Bool) (hn : n ≠ 0) :
    (ofFraction negative n 1).isFinite = true ↔
      (n.log2 : Int) - 52 < greatestExponent ∨ (n.log2 : Int) - 52 = greatestExponent ∧
        roundQuotient (overPower n 1 greatestExponent).1 (overPower n 1 greatestExponent).2 ≠ bound := by
  have hguess : max leastExponent ((n.log2 : Int) - ((1 : Nat).log2 : Nat) - 52) = (n.log2 : Int) - 52 := by
    have hleast : leastExponent = -1074 := rfl
    have hone : (1 : Nat).log2 = 0 := by decide
    rw [hone, hleast]
    omega
  unfold ofFraction
  simp only [hguess, if_neg (Nat.not_lt_of_le (half_bound_le_quotient hn))]
  by_cases hcap : (n.log2 : Int) - 52 = greatestExponent
  · rw [hcap]
    by_cases hround : roundQuotient (overPower n 1 greatestExponent).1 (overPower n 1 greatestExponent).2 = bound
    · have hcapped : greatestExponent < greatestExponent + 1 := Int.lt_succ _
      simp [hround, isFinite, hcapped]
    · simp [hround, isFinite]
  · split
    · -- rounding up leads to the next exponent
      by_cases hlarge : greatestExponent < (n.log2 : Int) - 52 + 1 <;> simp [hlarge, isFinite, hcap] <;> omega
    · by_cases hlarge : greatestExponent < (n.log2 : Int) - 52 <;> simp [hlarge, isFinite, hcap] <;> omega

/-- At the greatest exponent a natural number is divided by the greatest step. -/
theorem overPower_greatestExponent (n : Nat) : overPower n 1 greatestExponent = (n, greatestStep) := by
  have hnonneg : 0 ≤ greatestExponent := by decide
  unfold overPower greatestStep
  simp only [if_pos hnonneg, Nat.one_mul]

/-- **A natural number is finite in the format exactly below the least infinite one.** -/
theorem isFinite_ofFraction (negative : Bool) (hn : n ≠ 0) :
    (ofFraction negative n 1).isFinite = decide (n < leastInfinite) := by
  have hexponent : (greatestExponent.toNat : Int) = greatestExponent := Int.toNat_of_nonneg (by decide)
  rw [Bool.eq_iff_iff, decide_eq_true_iff, isFinite_ofFraction_iff negative hn, overPower_greatestExponent]
  rcases Int.lt_trichotomy ((n.log2 : Int) - 52) greatestExponent with hless | hcap | hmore
  · have hlen : n.log2 + 1 ≤ 52 + greatestExponent.toNat := by omega
    have hn' : n < leastInfinite := lt_leastInfinite hlen Nat.lt_log2_self
    exact iff_of_true (Or.inl hless) hn'
  · have hlen : n.log2 + 1 ≤ 53 + greatestExponent.toNat := by omega
    have hn' : n < bound * greatestStep := lt_bound_mul_greatestStep hlen Nat.lt_log2_self
    rw [← Nat.not_le, ← roundQuotient_eq_bound_iff hn']
    simp [hcap]
  · have hlen : 53 + greatestExponent.toNat ≤ n.log2 := by omega
    have hn' : leastInfinite < n := leastInfinite_lt_of_pow_le hlen (Nat.log2_self_le hn)
    exact iff_of_false (by omega) (Nat.not_lt.mpr hn'.le)

/-- A number of more places than are rounded is infinite. -/
theorem leastInfinite_le_of_length (h : 400 < (Nat.toDigits 10 n).length) : leastInfinite ≤ n := by
  obtain ⟨places, hplaces⟩ : ∃ places, places = 400 := ⟨_, rfl⟩
  have hexponent : 53 + greatestExponent.toNat ≤ 3 * places := hplaces ▸ by decide
  have hn : 10 ^ places ≤ n := by
    rw [← Nat.not_lt, ← Nat.length_toDigits_le_iff (by decide) (by omega)]
    omega
  refine (leastInfinite_lt_of_pow_le hexponent ?_).le
  calc 2 ^ (3 * places) = 8 ^ places := Nat.pow_mul 2 3 places
    _ ≤ 10 ^ places := Nat.pow_le_pow_left (by decide) _
    _ ≤ n := hn

/-- **A natural number read as a decimal is finite exactly below the least infinite one.** Numbers of too many places,
which are not rounded, are no exception. -/
theorem isFinite_ofDecimal (negative : Bool) (n : Nat) :
    (ofDecimal negative n 0).isFinite = decide (n < leastInfinite) := by
  unfold ofDecimal
  by_cases hn : n = 0
  · have hpos : 0 < leastInfinite := (Nat.zero_le _).trans_lt half_lt_leastInfinite
    simp [hn, isFinite, hpos]
  · have hshort : ¬ ((Nat.toDigits 10 n).length : Int) + 0 < -400 := by omega
    rw [if_neg (not_or.mpr ⟨hn, hshort⟩)]
    split
    · have hlong : leastInfinite ≤ n := leastInfinite_le_of_length (by omega)
      rw [decide_eq_false (Nat.not_lt.mpr hlong)]
      rfl
    · have hone : n * Nat.pow 10 (0 : Int).toNat = n := Nat.mul_one n
      rw [if_pos (by decide), hone, isFinite_ofFraction negative hn]

end Whole

end RuleCap.Binary64
