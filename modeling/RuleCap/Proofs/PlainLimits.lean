import RuleCap.Proofs.Fallible
import RuleCap.Proofs.Obtainable
import RuleCap.Proofs.OneScalar
import RuleCap.Proofs.PlainNumbers
import RuleCap.Yaml.Settings

/-!
# Limits in YAML documents

A scalar stands for a numeral if it means an integer of 64 bits or a text that spells a numeral (`Value.numeral?`), and
that is what is read from it (`run_readNumeral_scalar`), alone in its stream (`ofYaml_scalar_eq_ok_iff`) and as the
limit of settings (`ofYaml_limitField_eq_ok_iff`).

A spelling without quotes stands for the numeral that its text spells, with one exception (`numeral?_ofPlain_bare`): an
*oversized* integer, in digits alone and beyond 64 bits, means a number of which no limit is read. Where the numbers
with a fraction end, integers are texts again, and their limits are read.

Main statement: `yaml_limit_eq_text_limit`.
-/

namespace RuleCap

theorem Limit.fits_iff {n : Int} : Limit.fits n = true ↔ -(Nat.pow 2 63 : Int) ≤ n ∧ n < Nat.pow 2 63 := by
  rw [Limit.fits, Bool.and_eq_true, decide_eq_true_iff, decide_eq_true_iff]

namespace Yaml

open Reading

/-! ## Scalars as limits -/

/-- What a word means as a scalar. -/
def Style.value (style : Style) (w : Text) : Value := if style.isPlain then .ofPlain w else .text w

/-- The form of a limit that a value has, if it has one. -/
def Value.form? : Value → Option Limit.Form
  | .int n => if Limit.fits n then some (.integer n) else none
  | .text t => some (.text t)
  | _ => none

/-- The numeral that a value stands for, if it stands for one. -/
def Value.numeral? (v : Value) : Option Numeral := v.form?.bind Limit.Form.numeral?

section Reading

variable {doc : Document} {depth : Nat} {route : Route} {mark : Mark} {isPlain : Bool} {w : Text} {count count' : Nat}

theorem run_within_eq_ok_iff {α : Type} {reading : Reading α} {a : α} :
    (within route mark reading).run count = .ok (a, count') ↔ reading.run count = .ok (a, count') :=
  mapError_eq_ok_iff

/-- A scalar without properties is read as the value it means, unless it is too large. -/
theorem run_readValue_scalar {value : Option Value} :
    (readValue doc depth route (.scalar mark ⟨none, none⟩ isPlain w)).run count = .ok (value, count') ↔
      (∀ n, (if isPlain then Value.ofPlain w else .text w).found ≠ .wide n) ∧
        value = some (if isPlain then .ofPlain w else .text w) ∧ count' = count := by
  rw [readValue, readNode, run_within_eq_ok_iff]
  simp only [follow, pure_bind, run_within_eq_ok_iff]
  have htag : refuseOwnTag ⟨none, none⟩ = pure () := rfl
  have hvalue : ofExcept (Value.ofScalar none isPlain w) =
      (pure (if isPlain then Value.ofPlain w else .text w) : Reading Value) := rfl
  simp only [htag, hvalue, pure_bind]
  generalize (if isPlain then Value.ofPlain w else .text w) = v
  split
  · rename_i n hwide
    constructor
    · rintro ⟨⟩
    · rintro ⟨hnone, -⟩
      exact absurd hwide (hnone n)
  · rename_i hnone
    constructor
    · rintro ⟨⟩
      exact ⟨hnone, rfl, rfl⟩
    · rintro ⟨-, rfl, rfl⟩
      rfl

/-- Integers of 64 bits with a sign are not too large. -/
theorem Value.found_ne_wide {n : Int} (h : Limit.fits n = true) (m : Int) : (Value.int n).found ≠ .wide m := by
  have hrange : -(Nat.pow 2 63 : Int) ≤ n ∧ n < Nat.pow 2 64 := by
    rw [Limit.fits_iff] at h
    have hpow : Nat.pow 2 64 = 2 * Nat.pow 2 63 := rfl
    omega
  rw [Value.found, if_pos hrange]
  exact nofun

theorem run_readForm_scalar {form : Limit.Form} :
    (readForm doc depth route (.scalar mark ⟨none, none⟩ isPlain w)).run count = .ok (form, count') ↔
      (if isPlain then Value.ofPlain w else .text w).form? = some form ∧ count' = count := by
  rw [readForm, run_bind_eq_ok_iff]
  simp only [run_readValue_scalar]
  generalize (if isPlain then Value.ofPlain w else .text w) = v
  constructor
  · rintro ⟨_, _, ⟨-, rfl, rfl⟩, hform⟩
    cases v with
    | int n =>
      by_cases hn : Limit.fits n = true
      · simp only [hn, if_true] at hform
        cases hform
        exact ⟨if_pos hn, rfl⟩
      · simp only [hn] at hform
        cases hform
    | text t =>
      cases hform
      exact ⟨rfl, rfl⟩
    | _ => cases hform
  · rintro ⟨hform, rfl⟩
    cases v with
    | int n =>
      by_cases hn : Limit.fits n = true
      · rw [Value.form?, if_pos hn] at hform
        cases hform
        exact ⟨_, _, ⟨Value.found_ne_wide hn, rfl, rfl⟩, by simp only [hn, if_true]; rfl⟩
      · rw [Value.form?, if_neg hn] at hform
        cases hform
    | text t =>
      cases hform
      exact ⟨_, _, ⟨nofun, rfl, rfl⟩, rfl⟩
    | _ => cases hform

/-- **A scalar without properties is read as the numeral that it stands for**, and refused if it stands for none. -/
theorem run_readNumeral_scalar {n : Numeral} :
    (readNumeral doc depth route (.scalar mark ⟨none, none⟩ isPlain w)).run count = .ok (n, count') ↔
      (if isPlain then Value.ofPlain w else .text w).numeral? = some n ∧ count' = count := by
  rw [readNumeral, run_bind_eq_ok_iff, Value.numeral?]
  simp only [run_readForm_scalar, Option.bind_eq_some_iff]
  constructor
  · rintro ⟨form, _, ⟨hform, rfl⟩, hn⟩
    cases hnumeral : form.numeral? with
    | none =>
      rw [hnumeral] at hn
      cases hn
    | some m =>
      rw [hnumeral] at hn
      cases hn
      exact ⟨⟨form, hform, hnumeral⟩, rfl⟩
  · rintro ⟨⟨form, hform, hnumeral⟩, rfl⟩
    exact ⟨form, count', ⟨hform, rfl⟩, by rw [hnumeral]; rfl⟩

/-- The entry of the limit sets it. -/
theorem readSetting_limitField :
    readSetting doc .empty (.scalar Mark.start ⟨none, none⟩ true Settings.limitField)
        (.scalar mark ⟨none, none⟩ isPlain w) =
      readLimit doc (depthLimit - 1) (.entry .root Settings.limitField) (.scalar mark ⟨none, none⟩ isPlain w) >>=
        fun limit => pure { Settings.Draft.empty with limit := some limit } := rfl

/-- The entry of the limit sets the limit, and leaves the prefixes as nothing else sets them. -/
theorem run_readSettings_limitField {s : Settings} :
    (readSettings doc (.mapping Mark.start ⟨none, none⟩ [(.scalar Mark.start ⟨none, none⟩ true Settings.limitField,
      .scalar mark ⟨none, none⟩ isPlain w)])).run count = .ok (s, count') ↔
      ∃ n, (if isPlain then Value.ofPlain w else .text w).numeral? = some n ∧
        s = ⟨.ofNumeral n, Settings.defaultPrefixes⟩ ∧ count' = count := by
  rw [readSettings, readNode, run_within_eq_ok_iff]
  simp only [follow, pure_bind, run_within_eq_ok_iff, List.foldlM_cons, List.foldlM_nil, readSetting_limitField,
    readLimit, run_bind_eq_ok_iff, run_readNumeral_scalar]
  constructor
  · rintro ⟨_, _, ⟨_, _, ⟨_, _, ⟨n, _, ⟨hn, rfl⟩, ⟨⟩⟩, ⟨⟩⟩, ⟨⟩⟩, ⟨⟩⟩
    exact ⟨n, hn, rfl, rfl⟩
  · rintro ⟨n, hn, rfl, rfl⟩
    exact ⟨_, _, ⟨_, _, ⟨_, _, ⟨n, count', ⟨hn, rfl⟩, rfl⟩, rfl⟩, rfl⟩, rfl⟩

end Reading

/-! ## Streams -/

section Streams

variable {w tail : Text}

theorem readStream_eq_ok_iff {α : Type} {read : Document → Reading α} {t : Text} {doc : Document} {a : α}
    (h : document? t = some doc) : readStream read t = .ok a ↔ ∃ count, (read doc).run 0 = .ok (a, count) := by
  unfold readStream
  rw [h]
  dsimp only
  cases hrun : (read doc).run 0 with
  | error fault => simp
  | ok r => simp [Prod.ext_iff]

/-- **A stream that is one scalar** holds the numeral that the scalar stands for. -/
theorem ofYaml_scalar_eq_ok_iff (style : Style) (hw : Word w) (htail : EndsStream tail) {n : Numeral} :
    Numeral.ofYaml (style.write w ++ tail) = .ok n ↔ (style.value w).numeral? = some n := by
  obtain ⟨mark, hdoc⟩ := exists_document?_scalar style hw htail
  rw [Numeral.ofYaml, readStream_eq_ok_iff hdoc]
  simp only [run_readNumeral_scalar]
  simp [Style.value]

/-- **A stream that sets a limit** holds the settings with the limit of the numeral that its scalar stands for. -/
theorem ofYaml_limitField_eq_ok_iff (style : Style) (hw : Word w) (htail : EndsStream tail) {s : Settings} :
    Settings.ofYaml (Settings.limitField ++ ':' :: ' ' :: (style.write w ++ tail)) = .ok s ↔
      ∃ n, (style.value w).numeral? = some n ∧ s = ⟨.ofNumeral n, Settings.defaultPrefixes⟩ := by
  obtain ⟨mark, hdoc⟩ := exists_document?_limitField style hw htail
  rw [Settings.ofYaml, readStream_eq_ok_iff hdoc]
  simp only [run_readSettings_limitField]
  simp [Style.value]

/-- A well-formed stream that cannot be read holds what does not fit. -/
theorem exists_unfit_of_document? {α : Type} {read : Document → Reading α} {t : Text} {doc : Document}
    (h : document? t = some doc) (hnone : ∀ a, readStream read t ≠ .ok a) :
    ∃ fault, readStream read t = .error (.unfit fault) := by
  unfold readStream at hnone ⊢
  rw [h] at hnone ⊢
  cases hrun : (read doc).run 0 with
  | error fault => exact ⟨fault, by simp [hrun]⟩
  | ok r => exact absurd (by simp [hrun]) (hnone r.1)

end Streams

end Yaml

/-! ## Spellings as plain scalars -/

namespace Spelling

variable (s : Spelling)

/-- A spelling without the blanks around it. -/
def bare : Text := s.sign ++ joinGroups s.groups

theorem ofText?_bare : Numeral.ofText? s.bare = Numeral.ofText? s.text := by
  have hnone : AllBlank [] := fun _ hc => absurd hc List.not_mem_nil
  let plain : Spelling := { s with before := [], after := [], allBlank_before := hnone, allBlank_after := hnone }
  have hbare : s.bare = plain.text := by simp [plain, Spelling.text, bare]
  rw [hbare, Numeral.ofText?_spelling, Numeral.ofText?_spelling]

/-- A spelling is read as the numeral of its integer. -/
theorem ofText?_bare_eq : Numeral.ofText? s.bare = some (.ofInt s.value) := by
  have hread := Numeral.ofText?_spelling s
  have hvalue : (Numeral.signed (decide (s.sign = ['-'])) s.groups.flatten).value = s.value := by
    simp [Numeral.value_signed, Spelling.value]
  rw [ofText?_bare, hread, (Numeral.canonical_of_ofText? hread).eq_ofInt, hvalue]

/-- The integer is written in digits alone, beyond the integers of 64 bits and within the numbers with a fraction. -/
structure Oversized : Prop where
  plain : '_' ∉ joinGroups s.groups
  no_zero : (joinGroups s.groups).head? ≠ some '0'
  not_fits : Limit.fits s.value = false
  finite : s.value.natAbs < Binary64.leastInfinite

theorem signed_bare : Yaml.Value.Signed s.sign (joinGroups s.groups) := ⟨s.sign_eq, s.isGrouped_joinGroups⟩

/-- A spelling is a word. -/
theorem word_bare : Yaml.Word s.bare where
  chars := by
    refine List.forall_mem_append.mpr ⟨?_, fun c hc => ?_⟩
    · rcases s.sign_eq with h | h | h <;> rw [h] <;> exact List.all_eq_true.mp rfl
    · rcases Numeral.digit_or_underscore s.isGrouped_joinGroups c hc with h | rfl
      · exact Yaml.isWordChar_of_isDigit h
      · rfl
  begins := by
    obtain ⟨d, rest, hbody, hd⟩ := s.signed_bare.exists_cons
    have hword := Yaml.isWordChar_of_isDigit hd
    rcases s.sign_eq with h | h | h
    · refine ⟨d, rest, by rw [bare, h, hbody]; rfl, hword, ?_⟩
      rintro rfl
      exact absurd hd (by decide)
    · exact ⟨'+', d :: rest, by rw [bare, h, hbody]; rfl, rfl, fun h => absurd h (by decide)⟩
    · exact ⟨'-', d :: rest, by rw [bare, h, hbody]; rfl, rfl, fun _ => ⟨d, rest, rfl, by simp [Char.isAlphanum, hd]⟩⟩

theorem flatten_groups (h : '_' ∉ joinGroups s.groups) : s.groups.flatten = joinGroups s.groups := by
  rw [← Numeral.filter_joinGroups s.digitGroup, List.filter_eq_self]
  intro c hc
  exact bne_iff_ne.mpr fun he => h (he ▸ hc)

/-- Integers of 64 bits have 128 bits. -/
theorem isWide_of_fits {v : Int} (h : Limit.fits v = true) : Yaml.Value.isWide v = true := by
  rw [Limit.fits_iff] at h
  rw [Yaml.Value.isWide_iff]
  have hleast : Nat.pow 2 63 ≤ Nat.pow 2 127 := by decide
  have hbound : Nat.pow 2 63 ≤ Nat.pow 2 128 := by decide
  omega

/-- Integers of 128 bits are finite in the format of numbers with a fraction. -/
theorem lt_leastInfinite_of_isWide {v : Int} (h : Yaml.Value.isWide v = true) : v.natAbs < Binary64.leastInfinite := by
  rw [Yaml.Value.isWide_iff] at h
  have hpow : Nat.pow 2 128 = 2 * Nat.pow 2 127 := Binary64.pow_two_succ 127
  have hwide : v.natAbs < Nat.pow 2 128 := by omega
  exact Binary64.lt_leastInfinite (by decide) hwide

section Together

variable {s}

theorem signedValue_eq (hplain : '_' ∉ joinGroups s.groups) :
    Yaml.Value.signedValue s.sign (joinGroups s.groups) = s.value := by
  rw [← s.flatten_groups hplain]
  rfl

theorem ofDigitChars_eq (hplain : '_' ∉ joinGroups s.groups) :
    Nat.ofDigitChars 10 (joinGroups s.groups) 0 = s.value.natAbs := by
  rw [← signedValue_eq hplain, Yaml.Value.signedValue]
  split <;> simp

/-- Canonical digits make an oversized integer by their size alone. -/
theorem oversized_iff (hcanonical : CanonicalDigits (joinGroups s.groups)) :
    s.Oversized ↔ Limit.fits s.value = false ∧ s.value.natAbs < Binary64.leastInfinite := by
  have hplain := hcanonical.not_mem_underscore
  refine ⟨fun h => ⟨h.not_fits, h.finite⟩, fun h => ⟨hplain, ?_, h.1, h.2⟩⟩
  intro hhead
  obtain ⟨rest, hrest⟩ := List.head?_eq_some_iff.mp hhead
  -- a zero in front is the only digit, and zero fits
  have hzero : s.value.natAbs = 0 := by
    rw [← ofDigitChars_eq hplain, hrest, hcanonical.zero_alone rest hrest]
    rfl
  rw [Int.natAbs_eq_zero.mp hzero] at h
  exact absurd h.1 (by decide)

/-- What a plain scalar of canonical digits means goes by its integer. -/
theorem ofPlain_bare (hcanonical : CanonicalDigits (joinGroups s.groups)) : Yaml.Value.ofPlain s.bare =
    if Yaml.Value.isWide s.value then .int s.value
    else if s.value.natAbs < Binary64.leastInfinite then
      .float (.ofDecimal (decide (s.sign = ['-'])) s.value.natAbs 0)
    else .text s.bare := by
  have hplain := hcanonical.not_mem_underscore
  rw [bare, s.signed_bare.ofPlain_of_canonical hcanonical, signedValue_eq hplain, ofDigitChars_eq hplain]

end Together

theorem fits_eq_false {v : Int} (h : Binary64.leastInfinite ≤ v.natAbs) : Limit.fits v = false :=
  Bool.eq_false_iff.mpr fun hfits => Nat.not_lt.mpr h (lt_leastInfinite_of_isWide (isWide_of_fits hfits))

/-- **A plain scalar stands for the numeral of its text unless the integer is oversized**; then it stands for none. -/
theorem numeral?_ofPlain_bare {n : Numeral} :
    (Yaml.Value.ofPlain s.bare).numeral? = some n ↔ ¬s.Oversized ∧ Numeral.ofText? s.bare = some n := by
  have htext : (Yaml.Value.text s.bare).numeral? = Numeral.ofText? s.bare := rfl
  by_cases hplain : '_' ∈ joinGroups s.groups
  · rw [bare, s.signed_bare.ofPlain_of_underscore hplain, ← bare, htext]
    exact ⟨fun h => ⟨fun hover => hover.plain hplain, h⟩, And.right⟩
  by_cases hcanonical : CanonicalDigits (joinGroups s.groups)
  · rw [ofPlain_bare hcanonical, oversized_iff hcanonical]
    by_cases hwide : Yaml.Value.isWide s.value = true
    · rw [if_pos hwide, Yaml.Value.numeral?, Yaml.Value.form?, ofText?_bare_eq]
      by_cases hfits : Limit.fits s.value = true
      · simp [hfits, Limit.Form.numeral?]
      · simp [hfits, lt_leastInfinite_of_isWide hwide]
    · have hfits : Limit.fits s.value = false := Bool.eq_false_iff.mpr fun h => hwide (isWide_of_fits h)
      rw [if_neg hwide]
      by_cases hfinite : s.value.natAbs < Binary64.leastInfinite
      · rw [if_pos hfinite]
        simp [Yaml.Value.numeral?, Yaml.Value.form?, hfits, hfinite]
      · rw [if_neg hfinite, htext]
        simp [hfinite]
  · have hzero : Yaml.Value.hasLeadingZero (s.sign ++ joinGroups s.groups) = true := by
      rw [← Bool.not_eq_false]
      exact fun h => hcanonical ((s.signed_bare.hasLeadingZero_iff hplain).mp h)
    have hhead : (joinGroups s.groups).head? = some '0' := by
      by_contra hne
      refine hcanonical ⟨s.joinGroups_ne_nil, s.signed_bare.isDigit hplain, ?_⟩
      intro rest hrest
      exact absurd (by rw [hrest]; rfl) hne
    rw [bare, s.signed_bare.ofPlain_of_leadingZero hzero, ← bare, htext]
    exact ⟨fun h => ⟨fun hover => hover.no_zero hhead, h⟩, And.right⟩

end Spelling

/-! ## Canonical numerals -/

namespace Numeral

variable {n : Numeral}

/-- The text of a canonical numeral as a spelling. -/
def Canonical.spelling (h : n.Canonical) : Spelling where
  before := []
  sign := if n.negative then ['-'] else []
  groups := [n.digits]
  after := []
  allBlank_before := fun _ hc => absurd hc List.not_mem_nil
  sign_eq := by cases n.negative <;> simp
  groups_ne_nil := List.cons_ne_nil _ _
  digitGroup := by simpa [DigitGroup] using ⟨h.digits.ne_nil, h.digits.isDigit⟩
  allBlank_after := fun _ hc => absurd hc List.not_mem_nil

theorem Canonical.bare_spelling (h : n.Canonical) : h.spelling.bare = n.toText := by
  cases hn : n.negative <;> simp [spelling, Spelling.bare, joinGroups, toText, hn]

theorem Canonical.value_spelling (h : n.Canonical) : h.spelling.value = n.value := by
  cases hn : n.negative <;> simp [spelling, Spelling.value, value, hn]

theorem Canonical.canonicalDigits_spelling (h : n.Canonical) : CanonicalDigits (joinGroups h.spelling.groups) := by
  rw [spelling, joinGroups, List.intercalate_singleton]
  exact h.digits

/-- Its digits stand together, without a zero in front of others. -/
theorem Canonical.oversized_iff (h : n.Canonical) :
    h.spelling.Oversized ↔ Limit.fits n.value = false ∧ n.value.natAbs < Binary64.leastInfinite := by
  rw [Spelling.oversized_iff h.canonicalDigits_spelling, h.value_spelling]

/-- A one with zeros behind it. -/
def powerOfTen (k : Nat) : Numeral := ⟨false, '1' :: List.replicate k '0'⟩

theorem canonical_powerOfTen (k : Nat) : (powerOfTen k).Canonical where
  digits := {
    ne_nil := List.cons_ne_nil _ _
    isDigit := by
      refine List.forall_mem_cons.mpr ⟨rfl, fun c hc => ?_⟩
      rw [List.eq_of_mem_replicate hc]
      rfl
    zero_alone := by
      rintro rest ⟨⟩ }
  sign := nofun

theorem value_powerOfTen (k : Nat) : (powerOfTen k).value = Nat.pow 10 k := by
  rw [powerOfTen, value, if_neg Bool.false_ne_true, Nat.ofDigitChars_cons, ofDigitChars_replicate_zero]
  exact congrArg _ (Nat.mul_one _)

/-- The least power of ten that is beyond the numbers with a fraction. -/
theorem leastInfinite_le_powerOfTen : Binary64.leastInfinite ≤ (powerOfTen 309).value.natAbs := by
  -- the exponents have names, so that the powers are not evaluated
  obtain ⟨k, hk⟩ : ∃ k, k = 1024 := ⟨_, rfl⟩
  obtain ⟨zeros, hzeros⟩ : ∃ zeros, zeros = 309 := ⟨_, rfl⟩
  have hexponent : 53 + Binary64.greatestExponent.toNat ≤ k := hk ▸ by decide
  have hpow : Nat.pow 2 k ≤ Nat.pow 10 zeros := by
    rw [hk, hzeros]
    decide +kernel
  rw [value_powerOfTen, Int.natAbs_natCast, ← hzeros]
  exact (Binary64.leastInfinite_lt_of_pow_le hexponent hpow).le

end Numeral

/-! ## Agreement -/

namespace Spelling

variable (s : Spelling)

/-- In quotes, every spelling stands for the numeral of its text. -/
theorem numeral?_value (style : Yaml.Style) {n : Numeral} : (style.value s.bare).numeral? = some n ↔
    ¬(style = .plain ∧ s.Oversized) ∧ Numeral.ofText? s.bare = some n := by
  have hquoted : (Yaml.Value.text s.bare).numeral? = Numeral.ofText? s.bare := rfl
  cases style with
  | plain => simpa [Yaml.Style.value, Yaml.Style.isPlain] using s.numeral?_ofPlain_bare
  | single => simp [Yaml.Style.value, Yaml.Style.isPlain, hquoted]
  | double => simp [Yaml.Style.value, Yaml.Style.isPlain, hquoted]

/-- **A limit in a YAML document is the limit of its text**, however it is spelled, whether it stands alone or as the
limit of settings, and with quotes or without. The one exception is an oversized integer without quotes: that is
refused. So no spelling is ever taken for another integer. -/
theorem yaml_limit_eq_text_limit :
    ∃ n, Numeral.ofText? s.bare = some n ∧ n.value = s.value ∧
      ∀ (style : Yaml.Style) (tail : Text), Yaml.EndsStream tail →
        (¬(style = .plain ∧ s.Oversized) → Numeral.ofYaml (style.write s.bare ++ tail) = .ok n ∧
          Settings.ofYaml (Settings.limitField ++ ':' :: ' ' :: (style.write s.bare ++ tail)) =
            .ok ⟨.ofNumeral n, Settings.defaultPrefixes⟩) ∧
        (style = .plain ∧ s.Oversized →
          (∃ fault, Numeral.ofYaml (style.write s.bare ++ tail) = .error (.unfit fault)) ∧
          ∃ fault, Settings.ofYaml (Settings.limitField ++ ':' :: ' ' :: (style.write s.bare ++ tail)) =
            .error (.unfit fault)) := by
  refine ⟨_, s.ofText?_bare_eq, Numeral.value_ofInt _, fun style tail htail => ⟨fun hread => ?_, fun hover => ?_⟩⟩
  · have hn := (s.numeral?_value style).mpr ⟨hread, s.ofText?_bare_eq⟩
    exact ⟨(Yaml.ofYaml_scalar_eq_ok_iff style s.word_bare htail).mpr hn,
      (Yaml.ofYaml_limitField_eq_ok_iff style s.word_bare htail).mpr ⟨_, hn, rfl⟩⟩
  · have hnone : ∀ n, (style.value s.bare).numeral? ≠ some n := fun n hn =>
      ((s.numeral?_value style).mp hn).1 hover
    constructor
    · obtain ⟨mark, hdoc⟩ := Yaml.exists_document?_scalar style s.word_bare htail
      refine Yaml.exists_unfit_of_document? hdoc fun n hn => hnone n ?_
      exact (Yaml.ofYaml_scalar_eq_ok_iff style s.word_bare htail).mp hn
    · obtain ⟨mark, hdoc⟩ := Yaml.exists_document?_limitField style s.word_bare htail
      refine Yaml.exists_unfit_of_document? hdoc fun settings hsettings => ?_
      obtain ⟨n, hn, -⟩ := (Yaml.ofYaml_limitField_eq_ok_iff style s.word_bare htail).mp hsettings
      exact hnone n hn

/-- The first integer that no word of 64 bits holds has to be put in quotes. -/
theorem greatest_word_succ_needs_quotes :
    (∃ fault, Numeral.ofYaml "18446744073709551616".toList = .error (.unfit fault)) ∧
      Numeral.ofYaml "'18446744073709551616'\n".toList = .ok (.ofInt 18446744073709551616) ∧
      Settings.ofYaml "max_rules: \"18446744073709551616\"".toList =
        .ok ⟨⟨18446744073709551616⟩, Settings.defaultPrefixes⟩ := by
  have hcanonical := Numeral.canonical_ofInt 18446744073709551616
  have hbare : hcanonical.spelling.bare = "18446744073709551616".toList := hcanonical.bare_spelling.trans (by decide)
  obtain ⟨n, hn, -, hread⟩ := hcanonical.spelling.yaml_limit_eq_text_limit
  have hn : n = .ofInt 18446744073709551616 := by
    rw [hbare] at hn
    exact Option.some.inj (hn.symm.trans (by decide))
  have hover : hcanonical.spelling.Oversized :=
    hcanonical.oversized_iff.mpr ⟨by decide, Spelling.lt_leastInfinite_of_isWide (by decide)⟩
  subst hn
  rw [hbare] at hread
  exact ⟨((hread .plain [] (Or.inl rfl)).2 ⟨rfl, hover⟩).1, ((hread .single ['\n'] (Or.inr rfl)).1 nofun).1,
    ((hread .double [] (Or.inl rfl)).1 nofun).2⟩

/-- **An integer beyond the numbers with a fraction is read without quotes as well**, although it is written in digits
alone and has more than 64 bits: here a one with 309 zeros. -/
theorem power_of_ten_needs_no_quotes :
    '_' ∉ (Numeral.powerOfTen 309).digits ∧ (Numeral.powerOfTen 309).digits.head? ≠ some '0' ∧
      Limit.fits (Numeral.powerOfTen 309).value = false ∧
      Numeral.ofText? (Numeral.powerOfTen 309).digits = some (.powerOfTen 309) ∧
      Numeral.ofYaml (Numeral.powerOfTen 309).digits = .ok (.powerOfTen 309) ∧
      Settings.ofYaml (Settings.limitField ++ ':' :: ' ' :: (Numeral.powerOfTen 309).digits) =
        .ok ⟨.ofNumeral (.powerOfTen 309), Settings.defaultPrefixes⟩ := by
  have hcanonical := Numeral.canonical_powerOfTen 309
  have hbare : hcanonical.spelling.bare = (Numeral.powerOfTen 309).digits := hcanonical.bare_spelling
  have hlarge := Numeral.leastInfinite_le_powerOfTen
  have hhead : (Numeral.powerOfTen 309).digits.head? ≠ some '0' := fun h =>
    absurd (Option.some.inj h) (by decide : '1' ≠ '0')
  have hread := hcanonical.spelling.ofText?_bare_eq
  rw [hcanonical.value_spelling, ← hcanonical.eq_ofInt, hbare] at hread
  have hn := (hcanonical.spelling.numeral?_value .plain).mpr
    ⟨fun hover => Nat.not_lt.mpr hlarge (hcanonical.oversized_iff.mp hover.2).2, hbare ▸ hread⟩
  have hstream := (Yaml.ofYaml_scalar_eq_ok_iff .plain hcanonical.spelling.word_bare (Or.inl rfl)).mpr hn
  have hsettings :=
    (Yaml.ofYaml_limitField_eq_ok_iff .plain hcanonical.spelling.word_bare (Or.inl rfl)).mpr ⟨_, hn, rfl⟩
  rw [Yaml.Style.write, List.append_nil, hbare] at hstream hsettings
  exact ⟨hcanonical.digits.not_mem_underscore, hhead, fits_eq_false hlarge, hread, hstream, hsettings⟩

end Spelling

end RuleCap
