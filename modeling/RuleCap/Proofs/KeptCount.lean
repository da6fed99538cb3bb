import Mathlib
import RuleCap.Limit

/-!
# What limits keep

- One limit: the rules that `keptCount` lets through are the slice of the limit (`take_keptCount`), which is a front
  part of the list (`slice_isPrefix`).
- Limits one after the other (`leftAfter`): those that are not negative act as their least (`leftAfter_of_nonneg`), in
  any order (`leftAfter_perm`); negative ones act as the sum of their magnitudes (`leftAfter_of_neg`).
-/

namespace RuleCap.Limit

variable {l : Limit}

/-! ## One limit -/

theorem keptCount_of_nonneg (h : 0 ≤ l.value) (total : Nat) : l.keptCount total = min total l.value.toNat := by
  have hn : l.isNegative = false := decide_eq_false (by omega)
  rw [keptCount, hn, if_neg Bool.false_ne_true]
  omega

theorem keptCount_of_neg (h : l.value < 0) (total : Nat) : l.keptCount total = total - l.value.natAbs := by
  have hn : l.isNegative = true := decide_eq_true h
  rw [keptCount, hn, if_pos rfl]

/-- A limit keeps no more than there is. -/
theorem keptCount_le (l : Limit) (total : Nat) : l.keptCount total ≤ total := by
  rw [keptCount]
  split <;> omega

/-- **The rules kept by their count are the slice of the limit.** -/
theorem take_keptCount {α : Type} (l : Limit) (rules : List α) :
    rules.take (l.keptCount rules.length) = l.slice rules := by
  rcases l with ⟨n | n⟩
  · have hk : keptCount ⟨.ofNat n⟩ rules.length = min rules.length n :=
      keptCount_of_nonneg (Int.natCast_nonneg n) _
    rw [hk, Nat.min_comm, ← List.take_eq_take_min]
    rfl
  · have hk : keptCount ⟨.negSucc n⟩ rules.length = rules.length - (n + 1) :=
      keptCount_of_neg (Int.negSucc_lt_zero n) _
    have hs : slice ⟨.negSucc n⟩ rules = (rules.reverse.drop (n + 1)).reverse := rfl
    rw [hk, hs, List.drop_reverse, List.reverse_reverse]

theorem length_slice {α : Type} (l : Limit) (rules : List α) :
    (l.slice rules).length = l.keptCount rules.length := by
  rw [← take_keptCount, List.length_take, Nat.min_eq_left (keptCount_le l _)]

/-- A limit keeps a front part of the rules. -/
theorem slice_isPrefix {α : Type} (l : Limit) (rules : List α) : l.slice rules <+: rules := by
  rw [← take_keptCount]
  exact List.take_prefix _ _

/-- A limit that is not negative keeps rules from the front. -/
theorem slice_of_nonneg {α : Type} (h : 0 ≤ l.value) (rules : List α) :
    l.slice rules = rules.take l.value.toNat := by
  rw [← take_keptCount, keptCount_of_nonneg h, Nat.min_comm, ← List.take_eq_take_min]

/-! ## Limits one after the other -/

/-- The number of rules left out of `total` by one limit after the other. -/
def leftAfter (limits : List Limit) (total : Nat) : Nat :=
  limits.foldl (fun left l => l.keptCount left) total

theorem leftAfter_cons (l : Limit) (limits : List Limit) (total : Nat) :
    leftAfter (l :: limits) total = leftAfter limits (l.keptCount total) := rfl

theorem leftAfter_le (limits : List Limit) (total : Nat) : leftAfter limits total ≤ total := by
  induction limits generalizing total with
  | nil => exact Nat.le_refl _
  | cons l limits ih => exact Nat.le_trans (ih _) (keptCount_le l total)

/-- Limits that are not negative act as the least of them. -/
theorem leftAfter_of_nonneg {limits : List Limit} (h : ∀ l ∈ limits, 0 ≤ l.value) (total : Nat) :
    leftAfter limits total = (limits.map fun l => l.value.toNat).foldl min total := by
  induction limits generalizing total with
  | nil => rfl
  | cons l limits ih =>
    rw [List.forall_mem_cons] at h
    rw [leftAfter_cons, keptCount_of_nonneg h.1, ih h.2, List.map_cons, List.foldl_cons]

/-- The order of limits that are not negative does not matter. -/
theorem leftAfter_perm {limits other : List Limit} (hp : limits.Perm other) (h : ∀ l ∈ limits, 0 ≤ l.value)
    (total : Nat) : leftAfter limits total = leftAfter other total := by
  have ho : ∀ l ∈ other, 0 ≤ l.value := fun l hl => h l (hp.mem_iff.mpr hl)
  rw [leftAfter_of_nonneg h, leftAfter_of_nonneg ho]
  exact (hp.map _).foldl_eq' (fun a _ b _ least => by omega) total

/-- Negative limits act as one, by the sum of their magnitudes. -/
theorem leftAfter_of_neg {limits : List Limit} (h : ∀ l ∈ limits, l.value < 0) (total : Nat) :
    leftAfter limits total = total - (limits.map fun l => l.value.natAbs).sum := by
  induction limits generalizing total with
  | nil => rfl
  | cons l limits ih =>
    rw [List.forall_mem_cons] at h
    rw [leftAfter_cons, keptCount_of_neg h.1, ih h.2, List.map_cons, List.sum_cons, Nat.sub_sub]

end RuleCap.Limit
