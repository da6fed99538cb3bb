import RuleCap.Json.Limit
import RuleCap.Proofs.Fallible
import RuleCap.Proofs.Spelling
import RuleCap.Yaml.Settings

/-!
# The numerals that there are

Nobody writes down the sign and the digits of a numeral: it comes from a count, an integer, a text, or a document in
JSON or YAML (`Numeral.Obtainable`). Each of these ways ends in a canonical numeral (`Obtainable.canonical`), by way of
`Form.numeral?` for both formats of documents. Hence numerals can be compared, ordered and written by sign and digits as
if they were integers.

Main statement: `obtainable_numerals_canonical`.
-/

namespace RuleCap

namespace Numeral

/-- The numerals that a caller can come by. -/
inductive Obtainable : Numeral → Prop
  /-- From a count of rules to keep. -/
  | keepFirst (count : Nat) : Obtainable (keepFirst count)
  /-- From an integer. -/
  | ofInt (v : Int) : Obtainable (ofInt v)
  /-- Where nothing else sets one. -/
  | default : Obtainable default
  /-- From a text. -/
  | ofText {t : Text} {n : Numeral} : ofText? t = some n → Obtainable n
  /-- From a value of a JSON document. -/
  | ofJson {v : Json} {n : Numeral} : ofJson v = .ok n → Obtainable n
  /-- From a YAML stream. -/
  | ofYaml {t : Text} {n : Numeral} : ofYaml t = .ok n → Obtainable n
  /-- From a node inside a YAML document. -/
  | ofNode {doc : Yaml.Document} {depth : Nat} {route : Yaml.Route} {node : Yaml.Node} {count count' : Nat}
      {n : Numeral} : (Yaml.readNumeral doc depth route node).run count = .ok (n, count') → Obtainable n

/-! ## Documents -/

theorem canonical_of_form {form : Limit.Form} {n : Numeral} (h : form.numeral? = some n) : n.Canonical := by
  cases form with
  | integer v =>
    rw [Limit.Form.numeral?, Option.some.injEq] at h
    exact h ▸ canonical_ofInt v
  | text t => exact canonical_of_ofText? h

theorem canonical_of_ofJson {v : Json} {n : Numeral} (h : ofJson v = .ok n) : n.Canonical := by
  obtain ⟨form, -, h⟩ := bind_eq_ok_iff.mp h
  cases hn : form.numeral? with
  | none =>
    rw [hn] at h
    cases h
  | some m =>
    rw [hn] at h
    cases h
    exact canonical_of_form hn

theorem canonical_of_readNumeral {doc : Yaml.Document} {depth : Nat} {route : Yaml.Route} {node : Yaml.Node}
    {count count' : Nat} {n : Numeral} (h : (Yaml.readNumeral doc depth route node).run count = .ok (n, count')) :
    n.Canonical := by
  obtain ⟨form, count₁, -, h⟩ := run_bind_eq_ok_iff.mp h
  cases hn : form.numeral? with
  | none =>
    rw [hn] at h
    cases h
  | some m =>
    rw [hn] at h
    cases h
    exact canonical_of_form hn

/-- What is read from a stream is read from its document. -/
theorem exists_run_of_readStream {α : Type} {read : Yaml.Document → Yaml.Reading α} {t : Text} {a : α}
    (h : Yaml.readStream read t = .ok a) : ∃ doc count, (read doc).run 0 = .ok (a, count) := by
  unfold Yaml.readStream at h
  split at h
  · cases h
  · rename_i doc hdoc
    split at h
    · rename_i b count hrun
      cases h
      exact ⟨doc, count, hrun⟩
    · cases h

theorem canonical_of_ofYaml {t : Text} {n : Numeral} (h : ofYaml t = .ok n) : n.Canonical := by
  obtain ⟨doc, count, hrun⟩ := exists_run_of_readStream h
  split at hrun
  · exact canonical_of_readNumeral hrun
  · cases hrun

/-! ## All ways together -/

theorem canonical_keepFirst (count : Nat) : (keepFirst count).Canonical :=
  keepFirst_eq_ofInt count ▸ canonical_ofInt count

/-- **Every numeral that a caller can come by is canonical.** -/
theorem Obtainable.canonical {n : Numeral} (h : Obtainable n) : n.Canonical := by
  cases h with
  | keepFirst count => exact canonical_keepFirst count
  | ofInt v => exact canonical_ofInt v
  | default => exact canonical_keepFirst defaultCount
  | ofText h => exact canonical_of_ofText? h
  | ofJson h => exact canonical_of_ofJson h
  | ofYaml h => exact canonical_of_ofYaml h
  | ofNode h => exact canonical_of_readNumeral h

theorem Canonical.eq_iff_value_eq {a b : Numeral} (ha : a.Canonical) (hb : b.Canonical) :
    a = b ↔ a.value = b.value := by
  constructor
  · rintro rfl
    rfl
  · intro h
    rw [ha.eq_ofInt, hb.eq_ofInt, h]

/-- The text of a canonical numeral is one of its spellings. -/
theorem Canonical.ofText?_toText {n : Numeral} (h : n.Canonical) : ofText? n.toText = some n := by
  have hgroup : ∀ g ∈ [n.digits], DigitGroup g := by simpa [DigitGroup] using ⟨h.digits.ne_nil, h.digits.isDigit⟩
  have hsign : (if n.negative then ['-'] else []) = [] ∨ (if n.negative then ['-'] else []) = ['+'] ∨
      (if n.negative then ['-'] else []) = ['-'] := by
    cases n.negative <;> simp
  have hnone : AllBlank [] := fun _ hc => absurd hc List.not_mem_nil
  let s : Spelling := ⟨[], if n.negative then ['-'] else [], [n.digits], [], hnone, hsign, by simp, hgroup, hnone⟩
  have htext : s.text = n.toText := by
    cases hn : n.negative <;> simp [s, Spelling.text, joinGroups, toText, hn]
  have hread := ofText?_spelling s
  rw [htext] at hread
  -- the numeral read is canonical as well, and of the same integer
  have hvalue : (signed (decide (s.sign = ['-'])) s.groups.flatten).value = n.value := by
    rw [value_signed]
    cases hn : n.negative <;> simp [s, value, hn]
  rw [hread, (canonical_of_ofText? hread).eq_iff_value_eq h |>.mpr hvalue]

theorem Canonical.toText_eq_iff {a b : Numeral} (ha : a.Canonical) (hb : b.Canonical) :
    a.toText = b.toText ↔ a = b := by
  constructor
  · intro h
    have hread := ha.ofText?_toText
    rw [h, hb.ofText?_toText, Option.some.injEq] at hread
    exact hread.symm
  · rintro rfl
    rfl

/-- **Numerals stand for integers.** Whichever way two numerals come about, they are canonical; they are the same exactly
if they denote the same integer, and exactly if they are shown alike; a numeral is negative exactly if its integer is; and
its text is read back as it was. -/
theorem obtainable_numerals_canonical {a b : Numeral} (ha : Obtainable a) (hb : Obtainable b) :
    a.Canonical ∧ (a = b ↔ a.value = b.value) ∧ (a.toText = b.toText ↔ a = b) ∧
      (a.isNegative = true ↔ a.value < 0) ∧ ofText? a.toText = some a :=
  ⟨ha.canonical, ha.canonical.eq_iff_value_eq hb.canonical, ha.canonical.toText_eq_iff hb.canonical,
    ha.canonical.negative_iff, ha.canonical.ofText?_toText⟩

/-- The least integer of 64 bits and a text with signs, zeros and underscores to spare denote the same integer, so they
are the same numeral. -/
theorem numeral_of_least_integer_eq_spelled :
    ∃ n, ofText? "\t-0_009_223372036854775_808 ".toList = some n ∧ ofInt (-9223372036854775808) = n ∧
      (ofInt (-9223372036854775808)).isNegative = true := by
  have hread : ofText? "\t-0_009_223372036854775_808 ".toList = some ⟨true, "9223372036854775808".toList⟩ := by decide
  obtain ⟨-, heq, -, hneg, -⟩ := obtainable_numerals_canonical (.ofInt (-9223372036854775808)) (.ofText hread)
  exact ⟨_, hread, heq.mpr (by decide), hneg.mpr (by decide)⟩

end Numeral

end RuleCap
