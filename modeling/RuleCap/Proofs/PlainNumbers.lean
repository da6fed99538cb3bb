import RuleCap.Proofs.Overflow
import RuleCap.Proofs.Spelling
import RuleCap.Yaml.Value

/-!
# What plain numbers mean

A plain scalar that is made of a sign, digits and underscores is an integer, a number with a fraction or a text.

- With an underscore, or with a zero in front of other digits, it is a text (`ofPlain_of_underscore`,
  `ofPlain_of_leadingZero`).
- Other digits are an integer as far as 128 bits go, then a number with a fraction, and a text again where the format of
  those ends (`ofPlain_of_canonical`).
-/

namespace RuleCap.Yaml.Value

/-- A sign and what stands behind it: digits and underscores, a digit first. -/
structure Signed (sign body : Text) : Prop where
  sign_eq : sign = [] ∨ sign = ['+'] ∨ sign = ['-']
  grouped : Numeral.isGrouped body = true

variable {sign body : Text}

/-! ## The characters -/

theorem Signed.exists_cons (h : Signed sign body) : ∃ d rest, body = d :: rest ∧ d.isDigit = true := by
  cases body with
  | nil => exact absurd h.grouped (by decide)
  | cons d rest => exact ⟨d, rest, rfl, (Numeral.isDigit_of_mem_ends h.grouped).1 d rfl⟩

/-- Without underscores, there are digits only. -/
theorem Signed.isDigit (h : Signed sign body) (hplain : '_' ∉ body) : ∀ c ∈ body, c.isDigit = true := fun c hc =>
  (Numeral.digit_or_underscore h.grouped c hc).resolve_right fun he => hplain (he ▸ hc)

/-- The words of the format have no digits in them. -/
theorem words_without_digits : ∀ word ∈ nullTexts ++ trueTexts ++ falseTexts ++ infinityTexts ++
    infinityTexts.map ('-' :: ·) ++ notANumberTexts, ∀ c ∈ word, c.isDigit = false := by
  intro word hword c hc
  have hall : (nullTexts ++ trueTexts ++ falseTexts ++ infinityTexts ++ infinityTexts.map ('-' :: ·) ++
      notANumberTexts).all (fun word => word.all fun c => !c.isDigit) = true := rfl
  simpa using List.all_eq_true.mp (List.all_eq_true.mp hall word hword) c hc

theorem contains_eq_false {words : List Text} {t : Text} (hwords : ∀ word ∈ words, ∀ c ∈ word, c.isDigit = false)
    (ht : ∃ c ∈ t, c.isDigit = true) : words.contains t = false := by
  obtain ⟨c, hc, hdigit⟩ := ht
  rw [← Bool.not_eq_true, List.contains_iff_mem]
  intro hmem
  rw [hwords t hmem c hc] at hdigit
  exact Bool.false_ne_true hdigit

theorem Signed.exists_digit (h : Signed sign body) : ∃ c ∈ sign ++ body, c.isDigit = true := by
  obtain ⟨d, rest, rfl, hd⟩ := h.exists_cons
  exact ⟨d, by simp, hd⟩

/-- No sign is left behind a sign. -/
theorem Signed.head_ne (h : Signed sign body) : ∀ rest, body ≠ '+' :: rest ∧ body ≠ '-' :: rest := by
  obtain ⟨d, more, rfl, hd⟩ := h.exists_cons
  intro rest
  constructor <;> rintro ⟨⟩ <;> exact absurd hd (by decide)

theorem Signed.dropSign_both (h : Signed sign body) : dropSign ['+', '-'] (sign ++ body) = body := by
  obtain ⟨d, rest, rfl, hd⟩ := h.exists_cons
  have hplus := (h.head_ne rest).1
  have hminus := (h.head_ne rest).2
  rcases h.sign_eq with rfl | rfl | rfl
  · simp_all [dropSign]
  · simp [dropSign]
  · simp [dropSign]

/-! ## Integers -/

theorem hexValue_of_isDigit {c : Char} (h : c.isDigit = true) : hexValue c = some (c.toNat - 48) := by
  have hc : '0' ≤ c ∧ c ≤ '9' := by simpa [Char.isDigit, Char.le_def] using h
  rw [hexValue, if_pos hc]
  rfl

theorem digits?_of_isDigit {digits : Text} (hne : digits ≠ []) (h : ∀ c ∈ digits, c.isDigit = true) :
    digits? 10 digits = some (Nat.ofDigitChars 10 digits 0) := by
  have hempty : digits.isEmpty = false := by simpa using hne
  rw [digits?, hempty, if_neg Bool.false_ne_true]
  generalize 0 = n
  clear hne hempty
  induction digits generalizing n with
  | nil => rfl
  | cons c digits ih =>
    rw [List.forall_mem_cons] at h
    have hlt : c.toNat - 48 < 10 := by
      have := isDigit_iff_toNat.mp h.1
      omega
    rw [List.foldlM_cons, hexValue_of_isDigit h.1, Nat.ofDigitChars_cons, ← ih h.2, Nat.mul_comm]
    simp [hlt]

theorem digits?_of_underscore {t : Text} (h : '_' ∈ t) : digits? 10 t = none := by
  have hempty : t.isEmpty = false := by
    cases t with
    | nil => cases h
    | cons => rfl
  rw [digits?, hempty, if_neg Bool.false_ne_true]
  generalize 0 = n
  clear hempty
  induction t generalizing n with
  | nil => cases h
  | cons c t ih =>
    rw [List.foldlM_cons]
    rcases List.mem_cons.mp h with rfl | h
    · rfl
    · cases hc : hexValue c with
      | none => rfl
      | some d =>
        by_cases hd : d < 10
        · simpa [hd] using ih h _
        · simp [hd]

/-- No base is marked. -/
theorem Signed.magnitude?_eq (h : Signed sign body) (written : Text) :
    magnitude? written body = if hasLeadingZero written then none else digits? 10 body := by
  have hsecond : ∀ c rest, body = '0' :: c :: rest → c.isDigit = true ∨ c = '_' := by
    rintro c rest rfl
    exact Numeral.digit_or_underscore h.grouped c (by simp)
  unfold magnitude?
  split
  · exact absurd (hsecond 'x' _ rfl) (by decide)
  · exact absurd (hsecond 'o' _ rfl) (by decide)
  · exact absurd (hsecond 'b' _ rfl) (by decide)
  · rfl

/-- The sign chooses between the two ranges of integers. -/
theorem Signed.int?_eq (h : Signed sign body) : int? (sign ++ body) =
    (magnitude? (sign ++ body) body).bind fun n =>
      if sign = ['-'] then if n ≤ Nat.pow 2 127 then some (-n : Int) else none
      else if n < Nat.pow 2 128 then some (n : Int) else none := by
  rcases h.sign_eq with rfl | rfl | rfl
  · obtain ⟨d, rest, rfl, hd⟩ := h.exists_cons
    have hplus : d ≠ '+' := fun he => (h.head_ne rest).1 (he ▸ rfl)
    have hdrop : dropSign ['+'] (d :: rest) = d :: rest := by simp [dropSign, hplus]
    unfold int?
    split
    · rename_i more heq
      exact absurd heq (h.head_ne more).2
    · simp [hdrop]
  · simp [int?, dropSign]
  · simp [int?]

/-! ## Numbers with a fraction -/

theorem Signed.float?_eq (h : Signed sign body) :
    float? (sign ++ body) = (decimal? (decide (sign = ['-'])) body).filter (·.isFinite) := by
  obtain ⟨d, rest, rfl, hd⟩ := h.exists_cons
  have hplus : d ≠ '+' := fun he => (h.head_ne rest).1 (he ▸ rfl)
  have hminus : d ≠ '-' := fun he => (h.head_ne rest).2 (he ▸ rfl)
  have hwords := words_without_digits
  simp only [List.mem_append, or_imp, forall_and] at hwords
  obtain ⟨⟨⟨-, hinfinity⟩, hnegative⟩, hnone⟩ := hwords
  have hbare : infinityTexts.contains (dropSign ['+'] (sign ++ d :: rest)) = false := by
    refine contains_eq_false hinfinity ⟨d, ?_, hd⟩
    rcases h.sign_eq with rfl | rfl | rfl <;> simp [dropSign, hplus]
  unfold float?
  simp only [hbare, contains_eq_false hnegative h.exists_digit, contains_eq_false hnone h.exists_digit,
    Bool.false_eq_true, if_false]
  rcases h.sign_eq with rfl | rfl | rfl
  · simp [dropSign, hplus, hminus]
  · simp [dropSign, hplus, hminus]
  · simp [dropSign]

theorem decimal?_of_isDigit (negative : Bool) {digits : Text} (hne : digits ≠ [])
    (h : ∀ c ∈ digits, c.isDigit = true) :
    decimal? negative digits = some (Binary64.ofDecimal negative (Nat.ofDigitChars 10 digits 0) 0) := by
  have hwhole : digits.takeWhile Char.isDigit = digits := List.takeWhile_eq_self_iff.mpr h
  have hrest : digits.dropWhile Char.isDigit = [] := List.dropWhile_eq_nil_iff.mpr h
  simp [decimal?, hwhole, hrest, hne, exponent?]

/-- Behind the digits in front of an underscore there is neither a point nor an exponent. -/
theorem decimal?_of_underscore (negative : Bool) {t : Text} (hall : ∀ c ∈ t, c.isDigit = true ∨ c = '_')
    (h : '_' ∈ t) : decimal? negative t = none := by
  obtain ⟨rest, hrest⟩ : ∃ rest, t.dropWhile Char.isDigit = '_' :: rest := by
    cases hdrop : t.dropWhile Char.isDigit with
    | nil => exact absurd (List.dropWhile_eq_nil_iff.mp hdrop '_' h) (by decide)
    | cons c rest =>
      obtain ⟨hmem, hc⟩ := of_dropWhile_isDigit hdrop
      rw [(hall c hmem).resolve_left (by simp [hc])]
      exact ⟨rest, rfl⟩
  simp [decimal?, hrest, exponent?]

/-! ## The value -/

/-- A text with a digit in it is no word. -/
theorem Signed.no_word (h : Signed sign body) :
    ¬((sign ++ body).isEmpty = true ∨ nullTexts.contains (sign ++ body) = true) ∧ bool? (sign ++ body) = none := by
  have hwords := words_without_digits
  simp only [List.mem_append, or_imp, forall_and] at hwords
  obtain ⟨⟨⟨⟨⟨hnull, htrue⟩, hfalse⟩, -⟩, -⟩, -⟩ := hwords
  constructor
  · obtain ⟨d, rest, hbody, -⟩ := h.exists_cons
    rw [contains_eq_false hnull h.exists_digit, hbody]
    simp
  · simp only [bool?, contains_eq_false htrue h.exists_digit, contains_eq_false hfalse h.exists_digit,
      Bool.false_eq_true, if_false]

theorem Signed.ofPlain_of_int (h : Signed sign body) {n : Int} (hint : int? (sign ++ body) = some n) :
    ofPlain (sign ++ body) = .int n := by
  rw [ofPlain, if_neg h.no_word.1, h.no_word.2, hint]

theorem Signed.ofPlain_of_float (h : Signed sign body) {x : Binary64} (hint : int? (sign ++ body) = none)
    (hfloat : (if hasLeadingZero (sign ++ body) then none else float? (sign ++ body)) = some x) :
    ofPlain (sign ++ body) = .float x := by
  rw [ofPlain, if_neg h.no_word.1, h.no_word.2, hint, hfloat]

theorem Signed.ofPlain_of_none (h : Signed sign body) (hint : int? (sign ++ body) = none)
    (hfloat : (if hasLeadingZero (sign ++ body) then none else float? (sign ++ body)) = none) :
    ofPlain (sign ++ body) = .text (sign ++ body) := by
  rw [ofPlain, if_neg h.no_word.1, h.no_word.2, hint, hfloat]

/-- **With an underscore, a number is a text.** -/
theorem Signed.ofPlain_of_underscore (h : Signed sign body) (hmem : '_' ∈ body) :
    ofPlain (sign ++ body) = .text (sign ++ body) := by
  refine h.ofPlain_of_none ?_ ?_
  · rw [h.int?_eq, h.magnitude?_eq, digits?_of_underscore hmem, ite_self]
    rfl
  · rw [h.float?_eq, decimal?_of_underscore _ (Numeral.digit_or_underscore h.grouped) hmem]
    exact ite_self _

/-- **With a zero too many in front, a number is a text.** -/
theorem Signed.ofPlain_of_leadingZero (h : Signed sign body) (hzero : hasLeadingZero (sign ++ body) = true) :
    ofPlain (sign ++ body) = .text (sign ++ body) := by
  refine h.ofPlain_of_none ?_ (if_pos hzero)
  rw [h.int?_eq, h.magnitude?_eq, hzero]
  rfl

/-- The integer of a sign and digits. -/
def signedValue (sign digits : Text) : Int :=
  if sign = ['-'] then -(Nat.ofDigitChars 10 digits 0 : Int) else Nat.ofDigitChars 10 digits 0

/-- The integers that plain scalars can be: those of 128 bits, with a sign or without. -/
def isWide (v : Int) : Bool := -Nat.pow 2 127 ≤ v && v < Nat.pow 2 128

theorem isWide_iff {v : Int} : isWide v = true ↔ -(Nat.pow 2 127 : Int) ≤ v ∧ v < Nat.pow 2 128 := by
  rw [isWide, Bool.and_eq_true, decide_eq_true_iff, decide_eq_true_iff]

theorem Signed.hasLeadingZero_iff (h : Signed sign body) (hplain : '_' ∉ body) :
    hasLeadingZero (sign ++ body) = false ↔ CanonicalDigits body := by
  unfold hasLeadingZero
  rw [h.dropSign_both]
  have hdigits := h.isDigit hplain
  constructor
  · intro hzero
    refine ⟨?_, hdigits, ?_⟩
    · obtain ⟨d, rest, rfl, -⟩ := h.exists_cons
      exact List.cons_ne_nil _ _
    · rintro (- | ⟨d, rest⟩) rfl
      · rfl
      · have hall : (d :: rest).all Char.isDigit = true :=
          List.all_eq_true.mpr fun c hc => hdigits c (List.mem_cons_of_mem _ hc)
        exact absurd (hall.symm.trans hzero) (by decide)
  · intro hcanonical
    split
    · exact absurd (hcanonical.zero_alone _ rfl) (List.cons_ne_nil _ _)
    · rfl

/-- The two ranges of integers are one, cut by the sign. -/
theorem range_eq (sign digits : Text) :
    (if sign = ['-'] then
        if Nat.ofDigitChars 10 digits 0 ≤ Nat.pow 2 127 then some (-Nat.ofDigitChars 10 digits 0 : Int) else none
      else if Nat.ofDigitChars 10 digits 0 < Nat.pow 2 128 then some (Nat.ofDigitChars 10 digits 0 : Int) else none) =
      if isWide (signedValue sign digits) then some (signedValue sign digits) else none := by
  unfold isWide signedValue
  have hpos : 0 < Nat.pow 2 128 := Nat.pow_pos (by decide)
  generalize Nat.ofDigitChars 10 digits 0 = n
  generalize Nat.pow 2 127 = least
  generalize Nat.pow 2 128 = bound at hpos ⊢
  by_cases hsign : sign = ['-']
  · have hbelow : -(n : Int) < bound := by omega
    simp [hsign, hbelow]
  · have habove : -(least : Int) ≤ n := by omega
    simp [hsign, habove]

/-- **Canonical digits** are an integer, a number with a fraction, or a text, by their size. -/
theorem Signed.ofPlain_of_canonical (h : Signed sign body) (hcanonical : CanonicalDigits body) :
    ofPlain (sign ++ body) =
      if isWide (signedValue sign body) then .int (signedValue sign body)
      else if Nat.ofDigitChars 10 body 0 < Binary64.leastInfinite then
        .float (.ofDecimal (decide (sign = ['-'])) (Nat.ofDigitChars 10 body 0) 0)
      else .text (sign ++ body) := by
  have hzero := (h.hasLeadingZero_iff hcanonical.not_mem_underscore).mpr hcanonical
  have hint : int? (sign ++ body) = if isWide (signedValue sign body) then some (signedValue sign body) else none := by
    rw [h.int?_eq, h.magnitude?_eq, hzero, if_neg Bool.false_ne_true,
      digits?_of_isDigit hcanonical.ne_nil hcanonical.isDigit, ← range_eq]
    rfl
  have hfloat : (if hasLeadingZero (sign ++ body) then none else float? (sign ++ body)) =
      if Nat.ofDigitChars 10 body 0 < Binary64.leastInfinite then
        some (.ofDecimal (decide (sign = ['-'])) (Nat.ofDigitChars 10 body 0) 0) else none := by
    rw [hzero, if_neg Bool.false_ne_true, h.float?_eq, decimal?_of_isDigit _ hcanonical.ne_nil hcanonical.isDigit,
      Option.filter_some, Binary64.isFinite_ofDecimal]
    simp
  by_cases hwide : isWide (signedValue sign body) = true
  · rw [if_pos hwide] at hint ⊢
    exact h.ofPlain_of_int hint
  · rw [if_neg hwide] at hint ⊢
    by_cases hfinite : Nat.ofDigitChars 10 body 0 < Binary64.leastInfinite
    · rw [if_pos hfinite] at hfloat ⊢
      exact h.ofPlain_of_float hint hfloat
    · rw [if_neg hfinite] at hfloat ⊢
      exact h.ofPlain_of_none hint hfloat

end RuleCap.Yaml.Value
