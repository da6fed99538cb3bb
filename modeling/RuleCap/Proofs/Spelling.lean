import Mathlib.Data.List.Basic
import Mathlib.Data.List.TakeWhile
import RuleCap.Proofs.Decimal
import RuleCap.Proofs.LineKinds

/-!
# Spellings of numerals

A *spelling* is a way to write an integer: blanks, a sign or none, groups of digits with single underscores between
them, blanks. `Numeral.ofText?` decides by checks on the whole text whether it has such a form.

- Groups: `isGrouped` accepts groups joined by underscores (`isGrouped_joinGroups`) and nothing else
  (`exists_groups_of_isGrouped`); both go by the digit that each step takes off (`isGrouped_cons_underscore`,
  `isGrouped_cons_cons`).
- Texts: a spelling is read as the canonical numeral of its integer (`ofText?_spelling`), and whatever is read has a
  spelling (`exists_spelling_of_ofText?`).

Main statement: `ofText?_reads_spellings`.
-/

namespace RuleCap

/-! ## The ends of a text -/

section Ends

variable {p : Char → Bool} {before core after : Text}

/-- What is taken off the two ends of a text satisfies the test. -/
theorem exists_append_trimWith (p : Char → Bool) (t : Text) :
    ∃ before after, t = before ++ trimWith p t ++ after ∧ (∀ c ∈ before, p c = true) ∧ ∀ c ∈ after, p c = true := by
  refine ⟨t.takeWhile p, ((t.dropWhile p).reverse.takeWhile p).reverse, ?_, fun c hc => List.mem_takeWhile_imp hc,
    fun c hc => List.mem_takeWhile_imp (List.mem_reverse.mp hc)⟩
  have hrest : trimWith p t ++ ((t.dropWhile p).reverse.takeWhile p).reverse = t.dropWhile p := by
    rw [trimWith, ← List.reverse_append, List.takeWhile_append_dropWhile, List.reverse_reverse]
  rw [List.append_assoc, hrest, List.takeWhile_append_dropWhile]

/-- Between ends that satisfy the test, a text that neither begins nor ends with such a character is left. -/
theorem trimWith_append (hbefore : ∀ c ∈ before, p c = true) (hafter : ∀ c ∈ after, p c = true) (hne : core ≠ [])
    (hfirst : ∀ c ∈ core.head?, p c = false) (hlast : ∀ c ∈ core.getLast?, p c = false) :
    trimWith p (before ++ core ++ after) = core := by
  have hdrop : ∀ {rest : Text}, rest ≠ [] → (∀ c ∈ rest.head?, p c = false) → ∀ more : Text,
      (rest ++ more).dropWhile p = rest ++ more := by
    intro rest hrest hhead more
    obtain ⟨c, rest, rfl⟩ := List.exists_cons_of_ne_nil hrest
    rw [List.cons_append, List.dropWhile_cons_of_neg (by simp [hhead c rfl])]
  have hafter' : ∀ c ∈ after.reverse, p c = true := fun c hc => hafter c (List.mem_reverse.mp hc)
  have hlast' : ∀ c ∈ core.reverse.head?, p c = false := by rwa [List.head?_reverse]
  have hback := hdrop (List.reverse_ne_nil_iff.mpr hne) hlast' []
  rw [List.append_nil] at hback
  rw [trimWith, List.append_assoc, List.dropWhile_append_of_pos hbefore, hdrop hne hfirst after, List.reverse_append,
    List.dropWhile_append_of_pos hafter', hback, List.reverse_reverse]

end Ends

/-! ## Groups of digits -/

/-- A group: one digit at least, and digits only. -/
def DigitGroup (g : Text) : Prop :=
  g ≠ [] ∧ ∀ c ∈ g, c.isDigit = true

/-- Groups with single underscores between them. -/
def joinGroups (groups : List Text) : Text := ['_'].intercalate groups

namespace Numeral

theorem ne_underscore_of_isDigit {c : Char} (h : c.isDigit = true) : c ≠ '_' := by
  rintro rfl
  exact absurd h (by decide)

/-- The outcomes of the two tests that look for an underscore. -/
theorem test_of_ne_underscore {c : Char} (h : c ≠ '_') : (c == '_') = false ∧ (some c != some '_') = true := by
  simpa using h

/-- A character is taken off a text that goes on with no underscore. -/
theorem isGrouped_cons_cons {c d : Char} (hd : d ≠ '_') (rest : Text) :
    isGrouped (c :: d :: rest) = (c.isDigit && isGrouped (d :: rest)) := by
  by_cases hc : c = '_'
  · subst hc
    simp [isGrouped]
  · simp [isGrouped, hasTwoUnderscores, hc, hd, test_of_ne_underscore, Bool.and_left_comm]

/-- An underscore stands behind a digit and in front of a group. -/
theorem isGrouped_cons_underscore (c : Char) (rest : Text) :
    isGrouped (c :: '_' :: rest) = (c.isDigit && isGrouped rest) := by
  by_cases hc : c = '_'
  · subst hc
    simp [isGrouped]
  · cases rest with
    | nil => simp [isGrouped]
    | cons d rest =>
      by_cases hd : d = '_'
      · subst hd
        simp [isGrouped, hasTwoUnderscores, hc]
      · simp [isGrouped, hasTwoUnderscores, hc, hd, test_of_ne_underscore, Bool.and_left_comm]

theorem isGrouped_singleton (c : Char) : isGrouped [c] = c.isDigit := by
  by_cases hc : c = '_'
  · subst hc
    rfl
  · simp [isGrouped, hasTwoUnderscores, test_of_ne_underscore hc]

/-- A group in front of an underscore leaves the rest to be checked. -/
theorem isGrouped_append_underscore (rest : Text) :
    ∀ {g : Text}, DigitGroup g → isGrouped (g ++ '_' :: rest) = isGrouped rest
  | [], h => absurd rfl h.1
  | [c], h => by
    rw [List.singleton_append, isGrouped_cons_underscore, h.2 c (by simp), Bool.true_and]
  | c :: d :: g, h => by
    have hd : d.isDigit = true := h.2 d (by simp)
    have ih := isGrouped_append_underscore rest (g := d :: g) ⟨by simp, fun x hx => h.2 x (by simp [hx])⟩
    rw [List.cons_append, List.cons_append, isGrouped_cons_cons (ne_underscore_of_isDigit hd), h.2 c (by simp),
      Bool.true_and, ← ih, List.cons_append]

theorem isGrouped_of_digitGroup : ∀ {g : Text}, DigitGroup g → isGrouped g = true
  | [], h => absurd rfl h.1
  | [c], h => by rw [isGrouped_singleton, h.2 c (by simp)]
  | c :: d :: g, h => by
    have hd : d.isDigit = true := h.2 d (by simp)
    have ih := isGrouped_of_digitGroup (g := d :: g) ⟨by simp, fun x hx => h.2 x (by simp [hx])⟩
    rw [isGrouped_cons_cons (ne_underscore_of_isDigit hd), h.2 c (by simp), ih]
    rfl

/-- **Groups joined by underscores are accepted.** -/
theorem isGrouped_joinGroups {groups : List Text} (hne : groups ≠ []) (h : ∀ g ∈ groups, DigitGroup g) :
    isGrouped (joinGroups groups) = true := by
  induction groups with
  | nil => exact absurd rfl hne
  | cons g more ih =>
    rw [List.forall_mem_cons] at h
    by_cases hmore : more = []
    · subst hmore
      rw [joinGroups, List.intercalate_singleton]
      exact isGrouped_of_digitGroup h.1
    · have ih := ih hmore h.2
      rw [joinGroups, List.intercalate_cons_of_ne_nil hmore, List.append_assoc, List.singleton_append,
        isGrouped_append_underscore _ h.1]
      exact ih

/-- **Whatever is accepted is groups joined by underscores.** -/
theorem exists_groups_of_isGrouped :
    ∀ {t : Text}, isGrouped t = true → ∃ groups, groups ≠ [] ∧ (∀ g ∈ groups, DigitGroup g) ∧ joinGroups groups = t
  | [], h => absurd h (by decide)
  | [c], h => by
    rw [isGrouped_singleton] at h
    exact ⟨[[c]], by simp, by simpa [DigitGroup] using h, by simp [joinGroups]⟩
  | c :: d :: rest, h => by
    by_cases hd : d = '_'
    · subst hd
      rw [isGrouped_cons_underscore, Bool.and_eq_true] at h
      obtain ⟨groups, hne, hall, rfl⟩ := exists_groups_of_isGrouped h.2
      refine ⟨[c] :: groups, by simp, ?_, ?_⟩
      · rw [List.forall_mem_cons]
        exact ⟨by simpa [DigitGroup] using h.1, hall⟩
      · rw [joinGroups, List.intercalate_cons_of_ne_nil hne]
        rfl
    · rw [isGrouped_cons_cons hd, Bool.and_eq_true] at h
      obtain ⟨groups, hne, hall, hjoin⟩ := exists_groups_of_isGrouped h.2
      obtain ⟨g, more, rfl⟩ := List.exists_cons_of_ne_nil hne
      rw [List.forall_mem_cons] at hall
      -- the first group takes the digit in front
      refine ⟨(c :: g) :: more, by simp, ?_, ?_⟩
      · rw [List.forall_mem_cons]
        exact ⟨⟨by simp, List.forall_mem_cons.mpr ⟨h.1, hall.1.2⟩⟩, hall.2⟩
      · rw [joinGroups, List.intercalate_cons_cons_left, ← hjoin]
        rfl

/-- Without the underscores, the digits of all groups are left. -/
theorem filter_joinGroups {groups : List Text} (h : ∀ g ∈ groups, DigitGroup g) :
    (joinGroups groups).filter (· != '_') = groups.flatten := by
  have hgroup : ∀ {g : Text}, DigitGroup g → g.filter (· != '_') = g := fun hg =>
    List.filter_eq_self.mpr fun c hc => by simpa using ne_underscore_of_isDigit (hg.2 c hc)
  induction groups with
  | nil => rfl
  | cons g more ih =>
    rw [List.forall_mem_cons] at h
    by_cases hmore : more = []
    · subst hmore
      rw [joinGroups, List.intercalate_singleton, hgroup h.1]
      simp
    · have ih := ih h.2
      have hunderscore : ['_'].filter (· != '_') = [] := rfl
      rw [joinGroups, List.intercalate_cons_of_ne_nil hmore, List.filter_append, List.filter_append, hgroup h.1,
        hunderscore, List.append_nil, List.flatten_cons, ← ih, joinGroups]

/-- Groups begin and end with a digit. -/
theorem isDigit_of_mem_ends {t : Text} (h : isGrouped t = true) :
    (∀ c ∈ t.head?, c.isDigit = true) ∧ ∀ c ∈ t.getLast?, c.isDigit = true := by
  simp only [isGrouped, Bool.and_eq_true, bne_iff_ne, ne_eq, List.all_eq_true, Bool.or_eq_true, beq_iff_eq] at h
  obtain ⟨⟨⟨⟨-, hfirst⟩, hlast⟩, -⟩, hall⟩ := h
  constructor
  · intro c hc
    exact (hall c (List.mem_of_head? hc)).resolve_right fun he => hfirst (he ▸ hc)
  · intro c hc
    exact (hall c (List.mem_of_getLast? hc)).resolve_right fun he => hlast (he ▸ hc)

/-- Groups are made of digits and underscores. -/
theorem digit_or_underscore {t : Text} (h : isGrouped t = true) : ∀ c ∈ t, c.isDigit = true ∨ c = '_' := by
  simp only [isGrouped, Bool.and_eq_true, List.all_eq_true, Bool.or_eq_true, beq_iff_eq] at h
  exact h.2

end Numeral

/-! ## Spellings -/

/-- A way to write an integer. -/
structure Spelling where
  before : Text
  sign : Text
  groups : List Text
  after : Text
  allBlank_before : AllBlank before
  sign_eq : sign = [] ∨ sign = ['+'] ∨ sign = ['-']
  groups_ne_nil : groups ≠ []
  digitGroup : ∀ g ∈ groups, DigitGroup g
  allBlank_after : AllBlank after

namespace Spelling

/-- The text of a spelling. -/
def text (s : Spelling) : Text := s.before ++ (s.sign ++ joinGroups s.groups) ++ s.after

/-- The integer of a spelling: the digits of all groups read in base ten, behind the sign. -/
def value (s : Spelling) : Int :=
  if s.sign = ['-'] then -(Nat.ofDigitChars 10 s.groups.flatten 0 : Int) else Nat.ofDigitChars 10 s.groups.flatten 0

variable (s : Spelling)

theorem isGrouped_joinGroups : Numeral.isGrouped (joinGroups s.groups) = true :=
  Numeral.isGrouped_joinGroups s.groups_ne_nil s.digitGroup

theorem joinGroups_ne_nil : joinGroups s.groups ≠ [] := by
  intro h
  exact absurd s.isGrouped_joinGroups (by rw [h]; decide)

end Spelling

namespace Numeral

theorem not_isBlank_of_isDigit {c : Char} (h : c.isDigit = true) : isBlank c = false := by
  have hc := isDigit_iff_toNat.mp h
  simp [isBlank, isSpace, spaceRanges]
  omega

/-- A sign is taken off; a digit is none. -/
theorem splitSign_append {sign rest : Text} (hsign : sign = [] ∨ sign = ['+'] ∨ sign = ['-'])
    (hrest : ∀ c ∈ rest.head?, c.isDigit = true) : splitSign (sign ++ rest) = (decide (sign = ['-']), rest) := by
  rcases hsign with rfl | rfl | rfl
  · cases rest with
    | nil => rfl
    | cons c rest =>
      have hc : c.isDigit = true := hrest c rfl
      have hminus : c ≠ '-' := by
        rintro rfl
        exact absurd hc (by decide)
      have hplus : c ≠ '+' := by
        rintro rfl
        exact absurd hc (by decide)
      rw [List.nil_append, splitSign]
      · rfl
      · simpa using hminus
      · simpa using hplus
  · rfl
  · rfl

/-- What is taken off is a sign or nothing. -/
theorem exists_append_splitSign (t : Text) :
    ∃ sign, t = sign ++ (splitSign t).2 ∧ (sign = [] ∨ sign = ['+'] ∨ sign = ['-']) := by
  unfold splitSign
  split
  · exact ⟨['-'], rfl, Or.inr (Or.inr rfl)⟩
  · exact ⟨['+'], rfl, Or.inr (Or.inl rfl)⟩
  · exact ⟨[], rfl, Or.inl rfl⟩

/-- The blanks around a spelling are taken off. -/
theorem trimBlank_spelling (s : Spelling) : trimBlank s.text = s.sign ++ joinGroups s.groups := by
  obtain ⟨hfirst, hlast⟩ := isDigit_of_mem_ends s.isGrouped_joinGroups
  have hblank : ∀ {t : Text}, AllBlank t → ∀ c ∈ t, isBlank c = true := fun h c hc => isBlank_iff.mpr (h c hc)
  refine trimWith_append (hblank s.allBlank_before) (hblank s.allBlank_after) ?_ ?_ ?_
  · simp [s.joinGroups_ne_nil]
  · rcases s.sign_eq with h | h | h
    · rw [h, List.nil_append]
      exact fun c hc => not_isBlank_of_isDigit (hfirst c hc)
    · rw [h]
      rintro c ⟨⟩
      decide
    · rw [h]
      rintro c ⟨⟩
      decide
  · rw [List.getLast?_append_of_ne_nil _ s.joinGroups_ne_nil]
    exact fun c hc => not_isBlank_of_isDigit (hlast c hc)

/-- The numeral of a sign and digits is canonical. -/
theorem canonical_signed {digits : Text} (negative : Bool) (h : ∀ c ∈ digits, c.isDigit = true) :
    (signed negative digits).Canonical where
  digits := canonicalDigits_significant h
  sign hneg := by
    simp only [signed, Bool.and_eq_true, bne_iff_ne] at hneg
    exact hneg.2

/-- A sign in front of digits negates their number, also where it is dropped. -/
theorem value_signed (negative : Bool) (digits : Text) :
    (signed negative digits).value =
      if negative then -(Nat.ofDigitChars 10 digits 0 : Int) else Nat.ofDigitChars 10 digits 0 := by
  have hvalue := ofDigitChars_significant digits
  by_cases hzero : significant digits = ['0']
  · -- zero is the same with both signs
    have h0 : Nat.ofDigitChars 10 digits 0 = 0 := by
      rw [← hvalue, hzero]
      rfl
    simp [signed, value, hzero, h0]
    rfl
  · simp [signed, value, hzero, hvalue]

/-- **A spelling is read.** -/
theorem ofText?_spelling (s : Spelling) :
    ofText? s.text = some (signed (decide (s.sign = ['-'])) s.groups.flatten) := by
  have hsign : splitSign (s.sign ++ joinGroups s.groups) = (decide (s.sign = ['-']), joinGroups s.groups) :=
    splitSign_append s.sign_eq (isDigit_of_mem_ends s.isGrouped_joinGroups).1
  rw [ofText?, trimBlank_spelling, hsign]
  simp only [s.isGrouped_joinGroups, if_true, filter_joinGroups s.digitGroup]

/-- **Whatever is read has a spelling.** -/
theorem exists_spelling_of_ofText? {t : Text} {n : Numeral} (h : ofText? t = some n) : ∃ s : Spelling, s.text = t := by
  have hgrouped : isGrouped (splitSign (trimBlank t)).2 = true := by
    by_contra hnot
    simp [ofText?, hnot] at h
  obtain ⟨before, after, ht, hbefore, hafter⟩ := exists_append_trimWith isBlank t
  obtain ⟨sign, hcore, hsign⟩ := exists_append_splitSign (trimBlank t)
  obtain ⟨groups, hne, hgroups, hjoin⟩ := exists_groups_of_isGrouped hgrouped
  refine ⟨⟨before, sign, groups, after, fun c hc => isBlank_iff.mp (hbefore c hc), hsign, hne, hgroups,
    fun c hc => isBlank_iff.mp (hafter c hc)⟩, ?_⟩
  have hcore' : sign ++ joinGroups groups = trimWith isBlank t := by
    rw [hjoin]
    exact hcore.symm
  rw [Spelling.text, hcore']
  exact ht.symm

/-- Whatever is read is canonical. -/
theorem canonical_of_ofText? {t : Text} {n : Numeral} (h : ofText? t = some n) : n.Canonical := by
  obtain ⟨s, rfl⟩ := exists_spelling_of_ofText? h
  rw [ofText?_spelling, Option.some.injEq] at h
  rw [← h]
  refine canonical_signed _ fun c hc => ?_
  obtain ⟨g, hg, hc⟩ := List.mem_flatten.mp hc
  exact (s.digitGroup g hg).2 c hc

/-- **Reading accepts spellings and nothing else**, and gives the integer of the spelling, of any size: its numeral is
canonical, and shown as the decimal text of the integer. -/
theorem ofText?_reads_spellings :
    (∀ t, (∃ n, ofText? t = some n) ↔ ∃ s : Spelling, s.text = t) ∧
      ∀ s : Spelling, ∃ n, ofText? s.text = some n ∧ n.value = s.value ∧ n.toText = (toString s.value).toList ∧
        n.Canonical := by
  constructor
  · intro t
    constructor
    · rintro ⟨n, h⟩
      exact exists_spelling_of_ofText? h
    · rintro ⟨s, rfl⟩
      exact ⟨_, ofText?_spelling s⟩
  · intro s
    have hread := ofText?_spelling s
    have hcanonical := canonical_of_ofText? hread
    have hvalue : (signed (decide (s.sign = ['-'])) s.groups.flatten).value = s.value := by
      simp [value_signed, Spelling.value]
    refine ⟨_, hread, hvalue, ?_, hcanonical⟩
    rw [hcanonical.eq_ofInt, hvalue, toText_ofInt]

end Numeral

end RuleCap
