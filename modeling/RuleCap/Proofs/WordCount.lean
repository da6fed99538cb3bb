import RuleCap.Proofs.KeptCount
import RuleCap.Proofs.Obtainable

/-!
# Counting in words

A limit has any size, but rules are counted in words of 64 bits. One digit after the other is read into a word
(`pushDigit?_eq`); a run of digits gives their number if a word holds it, and nothing otherwise (`foldlM_pushDigit?`),
so what is too great counts as the greatest word (`getD_readWord?`). Since no total is greater than that, the count is
the one that integers give (`Canonical.keptCount_eq`).

Main statement: `keptCount_eq_unbounded`.
-/

namespace RuleCap.Numeral

/-- One digit more. -/
theorem pushDigit?_eq {c : Char} (hc : c.isDigit = true) (n : Nat) :
    pushDigit? n c =
      if Nat.ofDigitChars 10 [c] n ≤ greatestWord then some (Nat.ofDigitChars 10 [c] n) else none := by
  simp [pushDigit?, hc, Nat.ofDigitChars_cons]

/-- **A run of digits** gives their number, unless a word does not hold it. -/
theorem foldlM_pushDigit? {ds : Text} (h : ∀ c ∈ ds, c.isDigit = true) {n : Nat} (hn : n ≤ greatestWord) :
    ds.foldlM pushDigit? n =
      if Nat.ofDigitChars 10 ds n ≤ greatestWord then some (Nat.ofDigitChars 10 ds n) else none :=
  foldlM_digits (fun n => n) (· ≤ greatestWord) (fun _ _ => Nat.le_trans) (fun _ hc => pushDigit?_eq hc) h hn

/-- Canonical digits are read from the first one on. -/
theorem readWord?_eq {ds : Text} (h : CanonicalDigits ds) :
    readWord? ds = if Nat.ofDigitChars 10 ds 0 ≤ greatestWord then some (Nat.ofDigitChars 10 ds 0) else none := by
  rw [← foldlM_pushDigit? h.isDigit (Nat.zero_le _)]
  unfold readWord?
  split
  · exact absurd rfl h.ne_nil
  · exact absurd (h.isDigit '+' (by simp)) (by decide)
  · exact absurd (h.isDigit '+' (by simp)) (by decide)
  · rfl

/-- What no word holds counts as the greatest word. -/
theorem getD_readWord? {n : Numeral} (h : n.Canonical) :
    (readWord? n.digits).getD greatestWord = min n.value.natAbs greatestWord := by
  rw [readWord?_eq h.digits, natAbs_value]
  split
  · rw [Option.getD_some]
    omega
  · rw [Option.getD_none]
    omega

/-- **The count in words is that of the limit** which the numeral denotes, for a total that a word holds. -/
theorem Canonical.keptCount_eq {n : Numeral} (h : n.Canonical) {total : Nat} (ht : total ≤ greatestWord) :
    n.keptCount total = (Limit.ofNumeral n).keptCount total := by
  unfold keptCount
  rw [getD_readWord? h]
  by_cases hv : n.value < 0
  · have hlimit : (Limit.ofNumeral n).keptCount total = total - n.value.natAbs :=
      Limit.keptCount_of_neg (l := .ofNumeral n) hv total
    rw [if_pos (h.negative_iff.mpr hv), hlimit]
    omega
  · have hlimit : (Limit.ofNumeral n).keptCount total = min total n.value.toNat :=
      Limit.keptCount_of_nonneg (l := .ofNumeral n) (not_lt.mp hv) total
    rw [if_neg fun hn => hv (h.negative_iff.mp hn), hlimit]
    omega

/-- **Counting in words is counting in integers.** For a numeral of any size and a total that a word holds, the count is
the one of the limit that the numeral denotes: the lesser of the two if it is not negative, and what its magnitude leaves
of the total if it is; the length of the slice that the limit takes of a list with that many rules, and never more than
the total. -/
theorem keptCount_eq_unbounded {n : Numeral} (h : Obtainable n) {total : Nat} (ht : total ≤ greatestWord) :
    n.keptCount total = (Limit.ofNumeral n).keptCount total ∧
      (0 ≤ n.value → (n.keptCount total : Int) = min n.value total) ∧
      (n.value < 0 → (n.keptCount total : Int) = max 0 (total - |n.value|)) ∧
      (∀ (α : Type) (rules : List α), rules.length = total →
        n.keptCount total = ((Limit.ofNumeral n).slice rules).length) ∧
      n.keptCount total ≤ total := by
  have hcount : n.keptCount total = (Limit.ofNumeral n).keptCount total := h.canonical.keptCount_eq ht
  have hneg : n.value < 0 → (Limit.ofNumeral n).keptCount total = total - n.value.natAbs := fun hv =>
    Limit.keptCount_of_neg (l := .ofNumeral n) hv total
  have hnonneg : 0 ≤ n.value → (Limit.ofNumeral n).keptCount total = min total n.value.toNat := fun hv =>
    Limit.keptCount_of_nonneg (l := .ofNumeral n) hv total
  refine ⟨hcount, fun hv => ?_, fun hv => ?_, fun α rules hlen => ?_, ?_⟩
  · rw [hcount, hnonneg hv]
    omega
  · rw [hcount, hneg hv, abs_of_neg hv]
    omega
  · rw [hcount, ← hlen, Limit.length_slice]
  · rw [hcount]
    exact Limit.keptCount_le _ _

/-- At the greatest total, a magnitude just below it leaves one rule, and one that no word holds leaves none. -/
theorem keptCount_at_greatest_total :
    (ofInt (-18446744073709551614)).keptCount 18446744073709551615 = 1 ∧
      (ofInt (-18446744073709551616)).keptCount 18446744073709551615 = 0 := by
  have ht : 18446744073709551615 ≤ greatestWord := by decide
  obtain ⟨-, -, hone, -, -⟩ := keptCount_eq_unbounded (.ofInt (-18446744073709551614)) ht
  obtain ⟨-, -, hnone, -, -⟩ := keptCount_eq_unbounded (.ofInt (-18446744073709551616)) ht
  rw [value_ofInt] at hone hnone
  exact ⟨by simpa using hone (by decide), by simpa using hnone (by decide)⟩

end RuleCap.Numeral
