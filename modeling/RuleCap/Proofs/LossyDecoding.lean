import RuleCap.Proofs.Utf8

/-!
# What bytes that are no text are read as

`Lossy` says which text any bytes stand for, without the machine that reads them: the bytes of a character stand for
the character, and where none begins, one mark stands for the *failed part*, which is the longest front part with which
some character begins, or else a single byte. Bytes stand for one text, the one that is decoded (`lossy_iff`).

The machine is followed through the characters that it leaves open (`Opened`): what has been read of such a character
can always be completed (`Opened.exists_char`, `Opened.exists_longer`), and a further byte is taken exactly if some
character goes on with it (`Opened.beginsChar_append_iff`). Every byte but the first of a part is met in this way
(`first_cases`), so all bytes begin with a character or with a failed part (`exists_front`), and for a failed part the
machine writes one mark (`FailedPart.decodeFrom_append`).
-/

namespace RuleCap.Utf8

variable {part front rest bytes : Bytes} {s : Begun} {b : UInt8} {t : Text}

/-- Some character begins with these bytes. -/
def BeginsChar (part : Bytes) : Prop :=
  ∃ c, part <+: encodeChar c

/-- The front part of some bytes at which no character stands: the longest one with which a character begins, or else
one byte. -/
structure FailedPart (part rest : Bytes) : Prop where
  no_char : ∀ c, ¬encodeChar c <+: part ++ rest
  ne_nil : part ≠ []
  begins : part.length = 1 ∨ BeginsChar part
  longest : ∀ front, front <+: part ++ rest → BeginsChar front → front.length ≤ part.length

/-- **The text that bytes stand for**: characters, and a mark for each failed part. -/
inductive Lossy : Bytes → Text → Prop
  | nil : Lossy [] []
  | char (c : Char) {rest : Bytes} {t : Text} (h : Lossy rest t) : Lossy (encodeChar c ++ rest) (c :: t)
  | failed {part rest : Bytes} {t : Text} (hpart : FailedPart part rest) (h : Lossy rest t) :
      Lossy (part ++ rest) (replacement :: t)

theorem BeginsChar.of_prefix (h : BeginsChar bytes) (hfront : front <+: bytes) : BeginsChar front := by
  obtain ⟨c, hc⟩ := h
  exact ⟨c, hfront.trans hc⟩

/-! ## Bytes that make characters -/

section Whole

variable {a b c d : Nat}

/-- Two bytes in the ranges for two are a character. -/
theorem exists_char_of_two (ha : 0xC2 ≤ a) (ha' : a < 0xE0) (hb : 0x80 ≤ b) (hb' : b ≤ 0xBF) :
    ∃ ch, encodeChar ch = [byte a, byte b] := by
  obtain ⟨n, hn⟩ : ∃ n, n = (a - 0xC0) * 0x40 + (b - 0x80) := ⟨_, rfl⟩
  have hvalue : (Char.ofNat n).toNat = n := toNat_ofNat_of_valid (by omega)
  have h₁ : ¬n < 0x80 := by omega
  have h₂ : n < 0x800 := by omega
  have hfirst : 0xC0 + n / 0x40 = a := by omega
  have hlast : 0x80 + n % 0x40 = b := by omega
  refine ⟨Char.ofNat n, ?_⟩
  simp only [encodeChar, hvalue, h₁, h₂, if_true, if_false, hfirst, hlast]

/-- Three bytes in the ranges for three are a character. -/
theorem exists_char_of_three (ha : 0xE0 ≤ a) (ha' : a < 0xF0) (hb : (if a = 0xE0 then 0xA0 else 0x80) ≤ b)
    (hb' : b ≤ if a = 0xED then 0x9F else 0xBF) (hc : 0x80 ≤ c) (hc' : c ≤ 0xBF) :
    ∃ ch, encodeChar ch = [byte a, byte b, byte c] := by
  have hb₀ : 0x80 ≤ b ∧ b ≤ 0xBF := by
    split at hb <;> split at hb' <;> omega
  obtain ⟨n, hn⟩ : ∃ n, n = ((a - 0xE0) * 0x40 + (b - 0x80)) * 0x40 + (c - 0x80) := ⟨_, rfl⟩
  have hvalue : (Char.ofNat n).toNat = n := toNat_ofNat_of_valid (by
    split at hb <;> split at hb' <;> omega)
  have h₁ : ¬n < 0x80 := by split at hb <;> omega
  have h₂ : ¬n < 0x800 := by split at hb <;> omega
  have h₃ : n < 0x10000 := by omega
  have hfirst : 0xE0 + n / 0x1000 = a := by omega
  have hmiddle : 0x80 + n / 0x40 % 0x40 = b := by omega
  have hlast : 0x80 + n % 0x40 = c := by omega
  refine ⟨Char.ofNat n, ?_⟩
  simp only [encodeChar, hvalue, h₁, h₂, h₃, if_true, if_false, hfirst, hmiddle, hlast]

/-- Four bytes in the ranges for four are a character. -/
theorem exists_char_of_four (ha : 0xF0 ≤ a) (ha' : a < 0xF5) (hb : (if a = 0xF0 then 0x90 else 0x80) ≤ b)
    (hb' : b ≤ if a = 0xF4 then 0x8F else 0xBF) (hc : 0x80 ≤ c) (hc' : c ≤ 0xBF) (hd : 0x80 ≤ d) (hd' : d ≤ 0xBF) :
    ∃ ch, encodeChar ch = [byte a, byte b, byte c, byte d] := by
  have hb₀ : 0x80 ≤ b ∧ b ≤ 0xBF := by
    split at hb <;> split at hb' <;> omega
  obtain ⟨n, hn⟩ : ∃ n, n = (((a - 0xF0) * 0x40 + (b - 0x80)) * 0x40 + (c - 0x80)) * 0x40 + (d - 0x80) := ⟨_, rfl⟩
  have hrange : 0x10000 ≤ n ∧ n < 0x110000 := by
    split at hb <;> split at hb' <;> omega
  have hvalue : (Char.ofNat n).toNat = n := toNat_ofNat_of_valid (by omega)
  have h₁ : ¬n < 0x80 := by omega
  have h₂ : ¬n < 0x800 := by omega
  have h₃ : ¬n < 0x10000 := by omega
  have hfirst : 0xF0 + n / 0x40000 = a := by omega
  have hsecond : 0x80 + n / 0x1000 % 0x40 = b := by omega
  have hthird : 0x80 + n / 0x40 % 0x40 = c := by omega
  have hlast : 0x80 + n % 0x40 = d := by omega
  refine ⟨Char.ofNat n, ?_⟩
  simp only [encodeChar, hvalue, h₁, h₂, h₃, if_false, hfirst, hsecond, hthird, hlast]

end Whole

/-! ## Characters left open -/

/-- The bytes read so far of a character that is left open, and what the machine knows of it. -/
inductive Opened : Bytes → Begun → Prop
  | two {n : Nat} (hlow : 0xC2 ≤ n) (hhigh : n < 0xE0) : Opened [byte n] ⟨n - 0xC0, 0, 0x80, 0xBF⟩
  | three {n : Nat} (hlow : 0xE0 ≤ n) (hhigh : n < 0xF0) :
      Opened [byte n] ⟨n - 0xE0, 1, if n = 0xE0 then 0xA0 else 0x80, if n = 0xED then 0x9F else 0xBF⟩
  | four {n : Nat} (hlow : 0xF0 ≤ n) (hhigh : n < 0xF5) :
      Opened [byte n] ⟨n - 0xF0, 2, if n = 0xF0 then 0x90 else 0x80, if n = 0xF4 then 0x8F else 0xBF⟩
  | owing {part : Bytes} {s : Begun} {owed n : Nat} (h : Opened part s) (hs : s.owed = owed + 1) (hlow : s.low ≤ n)
      (hhigh : n ≤ s.high) : Opened (part ++ [byte n]) ⟨s.value * 0x40 + (n - 0x80), owed, 0x80, 0xBF⟩

namespace Opened

theorem owed_le (h : Opened part s) : s.owed ≤ 2 := by
  induction h with
  | two => exact Nat.zero_le 2
  | three => exact Nat.le_succ 1
  | four => exact Nat.le_refl 2
  | owing _ hs _ _ ih => dsimp only; omega

/-- Some byte is always taken, and none that is a character of its own. -/
theorem range (h : Opened part s) : 0x80 ≤ s.low ∧ s.low ≤ s.high ∧ s.high ≤ 0xBF := by
  cases h with
  | two => dsimp only; omega
  | three => dsimp only; split <;> split <;> omega
  | four => dsimp only; split <;> split <;> omega
  | owing => dsimp only; omega

/-- The machine goes on from the open character. -/
theorem decodeFrom_append (h : Opened part s) (rest : Bytes) :
    decodeFrom none (part ++ rest) = decodeFrom (some s) rest := by
  induction h generalizing rest with
  | two hlow hhigh => exact decodeFrom_first_of_two rest hlow hhigh
  | three hlow hhigh => exact decodeFrom_first_of_three rest hlow hhigh
  | four hlow hhigh => exact decodeFrom_first_of_four rest hlow hhigh
  | @owing part s owed n h hs hlow hhigh ih =>
    have hn : n < 256 := by
      have := h.range
      omega
    obtain ⟨value, _, low, high⟩ := s
    obtain rfl : _ = owed + 1 := hs
    rw [List.append_assoc, ih, List.singleton_append, decodeFrom_owing rest hn hlow hhigh]

/-- **With the last byte that is owed the character is whole.** -/
theorem exists_char {n : Nat} (h : Opened part s) (hs : s.owed = 0) (hlow : s.low ≤ n) (hhigh : n ≤ s.high) :
    ∃ c, encodeChar c = part ++ [byte n] := by
  cases h with
  | two ha ha' => exact exists_char_of_two ha ha' hlow hhigh
  | three => cases hs
  | four => cases hs
  | owing h howed hb hb' =>
    obtain rfl : _ = 0 := hs
    cases h with
    | two => cases howed
    | three ha ha' => exact exists_char_of_three ha ha' hb hb' hlow hhigh
    | four => cases howed
    | owing h howed' hc hc' =>
      obtain rfl : _ = 1 := howed
      cases h with
      | two => cases howed'
      | three => cases howed'
      | four ha ha' => exact exists_char_of_four ha ha' hc hc' hb hb' hlow hhigh
      | owing h howed'' =>
        -- no character is left open with three more bytes owed
        have := h.owed_le
        obtain rfl : _ = 2 := howed'
        omega

/-- **A character left open can be completed.** -/
theorem exists_longer (h : Opened part s) : ∃ c b rest, encodeChar c = part ++ b :: rest := by
  induction howed : s.owed generalizing part s with
  | zero =>
    obtain ⟨c, hc⟩ := h.exists_char howed (Nat.le_refl s.low) h.range.2.1
    exact ⟨c, byte s.low, [], hc⟩
  | succ owed ih =>
    obtain ⟨c, b, rest, hc⟩ := ih (h.owing howed (Nat.le_refl s.low) h.range.2.1) rfl
    exact ⟨c, byte s.low, b :: rest, by rw [hc, List.append_assoc, List.singleton_append]⟩

theorem beginsChar (h : Opened part s) : BeginsChar part := by
  obtain ⟨c, b, rest, hc⟩ := h.exists_longer
  exact ⟨c, b :: rest, hc.symm⟩

theorem ne_nil (h : Opened part s) : part ≠ [] := by
  cases h <;> simp

end Opened

/-! ## The machine at a byte -/

/-- A byte that an open character does not take closes it as a failed part and is read anew. -/
theorem decodeFrom_refused (h : ¬(s.low ≤ b.toNat ∧ b.toNat ≤ s.high)) (rest : Bytes) :
    decodeFrom (some s) (b :: rest) = replacement :: decodeFrom none (b :: rest) := by
  simp only [decodeFrom, step, if_neg h, List.cons_append]

theorem decodeFrom_some_ne_nil (s : Begun) (bytes : Bytes) : decodeFrom (some s) bytes ≠ [] := by
  induction bytes generalizing s with
  | nil => exact List.cons_ne_nil _ _
  | cons b rest ih =>
    by_cases h : s.low ≤ b.toNat ∧ b.toNat ≤ s.high
    · rw [decodeFrom_cons, step, if_pos h]
      cases s.owed with
      | zero => exact List.cons_ne_nil _ _
      | succ owed => exact ih _
    · rw [decodeFrom_refused h]
      exact List.cons_ne_nil _ _

/-- No byte is passed over. -/
theorem eq_nil_of_decodeFrom_none (h : decodeFrom none bytes = []) : bytes = [] := by
  cases bytes with
  | nil => rfl
  | cons b rest =>
    rw [decodeFrom_cons, List.append_eq_nil_iff] at h
    cases hopen : (step none b).2 with
    | some s =>
      rw [hopen] at h
      exact absurd h.2 (decodeFrom_some_ne_nil s rest)
    | none =>
      -- a byte that leaves nothing open is written at once
      exfalso
      revert h hopen
      simp only [step, first]
      repeat' split
      all_goals simp

/-- **The bytes of no character go on with those of another one.** -/
theorem encodeChar_ne_append (c d : Char) (b : UInt8) (rest : Bytes) : encodeChar c ≠ encodeChar d ++ b :: rest := by
  intro h
  have hc := decodeFrom_encodeChar c []
  rw [List.append_nil, h, decodeFrom_encodeChar] at hc
  exact List.cons_ne_nil _ _ (eq_nil_of_decodeFrom_none (List.cons.inj hc).2)

namespace Opened

theorem not_encodeChar_prefix (h : Opened part s) (c : Char) : ¬encodeChar c <+: part := by
  rintro ⟨more, rfl⟩
  obtain ⟨d, b, rest, hd⟩ := h.exists_longer
  cases more with
  | nil => exact encodeChar_ne_append d c b rest (by rw [hd, List.append_nil])
  | cons x more => exact encodeChar_ne_append d c x (more ++ b :: rest) (by rw [hd, List.append_assoc]; rfl)

/-- **A further byte is taken exactly if some character goes on with it.** -/
theorem beginsChar_append_iff (h : Opened part s) : BeginsChar (part ++ [b]) ↔ s.low ≤ b.toNat ∧ b.toNat ≤ s.high := by
  constructor
  · rintro ⟨c, rest, hc⟩
    refine Decidable.byContradiction fun hrefused => ?_
    -- the bytes of a character would be read as more than one
    have hone := decodeFrom_encodeChar c []
    rw [List.append_nil, ← hc, List.append_assoc, h.decodeFrom_append, List.singleton_append,
      decodeFrom_refused hrefused] at hone
    exact List.cons_ne_nil _ _ (eq_nil_of_decodeFrom_none (List.cons.inj hone).2)
  · rintro ⟨hlow, hhigh⟩
    have hb : byte b.toNat = b := UInt8.ofNat_toNat
    cases howed : s.owed with
    | zero =>
      obtain ⟨c, hc⟩ := h.exists_char howed hlow hhigh
      rw [hb] at hc
      exact ⟨c, hc ▸ List.prefix_rfl⟩
    | succ owed =>
      have hmore := (h.owing howed hlow hhigh).beginsChar
      rwa [hb] at hmore

end Opened

/-- **All that a byte can be** where no character is open: a character, a failed part, or the begin of a character. -/
theorem first_cases (b : UInt8) :
    (∃ c, encodeChar c = [b]) ∨
      (¬BeginsChar [b] ∧ ∀ rest, decodeFrom none (b :: rest) = replacement :: decodeFrom none rest) ∨
      ∃ s, Opened [b] s := by
  have hb : byte b.toNat = b := UInt8.ofNat_toNat
  have hlt : b.toNat < 256 := b.toNat_lt
  by_cases h₁ : b.toNat < 0x80
  · have hvalue : (Char.ofNat b.toNat).toNat = b.toNat := toNat_ofNat_of_valid (by omega)
    refine Or.inl ⟨Char.ofNat b.toNat, ?_⟩
    rw [encodeChar_of_lt (by omega), hvalue, hb]
  by_cases h₂ : b.toNat < 0xC2 ∨ 0xF5 ≤ b.toNat
  · have hread : ∀ rest, decodeFrom none (b :: rest) = replacement :: decodeFrom none rest := by
      intro rest
      have hfirst : first b.toNat = ([replacement], none) := by
        rcases h₂ with hlow | hhigh
        · simp only [first, h₁, hlow, if_true, if_false]
        · have h₃ : ¬b.toNat < 0xC2 ∧ ¬b.toNat < 0xE0 ∧ ¬b.toNat < 0xF0 ∧ ¬b.toNat < 0xF5 := by omega
          simp only [first, h₁, h₃, if_false]
      rw [decodeFrom_cons, step, hfirst]
      rfl
    refine Or.inr (Or.inl ⟨?_, hread⟩)
    rintro ⟨c, rest, hc⟩
    have hone := decodeFrom_encodeChar c []
    rw [List.append_nil, ← hc, List.singleton_append, hread] at hone
    obtain ⟨hmark, hrest⟩ := List.cons.inj hone
    rw [eq_nil_of_decodeFrom_none hrest, ← hmark] at hc
    have hlength : 1 = (encodeChar replacement).length := congrArg List.length hc
    exact absurd hlength (by decide)
  · refine Or.inr (Or.inr ?_)
    rw [← hb]
    by_cases h₃ : b.toNat < 0xE0
    · exact ⟨_, .two (by omega) h₃⟩
    by_cases h₄ : b.toNat < 0xF0
    · exact ⟨_, .three (by omega) h₄⟩
    · exact ⟨_, .four (by omega) (by omega)⟩

/-! ## Failed parts -/

/-- Where no character begins with a part and the byte behind it, none begins with more than the part. -/
theorem BeginsChar.prefix_of_refused (h : BeginsChar front) (hno : ¬BeginsChar (part ++ [b]))
    (hfront : front <+: part ++ b :: rest) : front <+: part := by
  have hlonger : part ++ [b] <+: part ++ b :: rest := ⟨rest, by simp⟩
  rcases List.prefix_or_prefix_of_prefix hfront hlonger with hshort | hlong
  · rcases List.prefix_concat_iff.mp hshort with rfl | hpart
    · exact absurd h hno
    · exact hpart
  · exact absurd (h.of_prefix hlong) hno

theorem beginsChar_encodeChar (c : Char) : BeginsChar (encodeChar c) := ⟨c, List.prefix_rfl⟩

theorem encodeChar_ne_nil (c : Char) : encodeChar c ≠ [] := by
  intro h
  have hone := decodeFrom_encodeChar c []
  rw [h] at hone
  cases hone

/-- The machine writes one mark for a failed part, whatever it has read of it. -/
theorem Opened.decodeFrom_failed (h : Opened part s) {more : Bytes} (hpart : FailedPart (part ++ more) rest) :
    decodeFrom (some s) (more ++ rest) = replacement :: decodeFrom none rest := by
  induction more generalizing part s with
  | nil =>
    cases rest with
    | nil => rfl
    | cons b rest =>
      refine decodeFrom_refused (fun htaken => ?_) rest
      have hlength := hpart.longest (part ++ [b]) ⟨rest, by simp⟩ (h.beginsChar_append_iff.mpr htaken)
      simp only [List.length_append, List.length_nil, List.length_singleton] at hlength
      omega
  | cons b more ih =>
    have hb : byte b.toNat = b := UInt8.ofNat_toNat
    have hbegins : BeginsChar (part ++ [b]) := by
      rcases hpart.begins with hone | hbegins
      · have := List.length_pos_iff.mpr h.ne_nil
        simp only [List.length_append, List.length_cons] at hone
        omega
      · exact hbegins.of_prefix ⟨more, by simp⟩
    obtain ⟨hlow, hhigh⟩ := h.beginsChar_append_iff.mp hbegins
    cases howed : s.owed with
    | zero =>
      obtain ⟨c, hc⟩ := h.exists_char howed hlow hhigh
      rw [hb] at hc
      exact absurd ⟨more ++ rest, by simp [hc]⟩ (hpart.no_char c)
    | succ owed =>
      have hopen := h.owing howed hlow hhigh
      rw [hb] at hopen
      rw [List.cons_append, ← ih hopen (by simpa using hpart), ← hopen.decodeFrom_append, ← h.decodeFrom_append,
        List.append_assoc, List.singleton_append]

/-- **One mark stands for a failed part.** -/
theorem FailedPart.decodeFrom_append (h : FailedPart part rest) :
    decodeFrom none (part ++ rest) = replacement :: decodeFrom none rest := by
  obtain ⟨b, more, rfl⟩ := List.exists_cons_of_ne_nil h.ne_nil
  have hfront : [b] <+: b :: more := ⟨more, rfl⟩
  rcases first_cases b with ⟨c, hc⟩ | ⟨hno, hread⟩ | ⟨s, hopen⟩
  · exact absurd (hc ▸ ⟨more ++ rest, rfl⟩) (h.no_char c)
  · rcases h.begins with hone | hbegins
    · obtain rfl : more = [] := by simpa using hone
      exact hread rest
    · exact absurd (hbegins.of_prefix hfront) hno
  · have hread := hopen.decodeFrom_append (more ++ rest)
    rw [List.singleton_append] at hread
    rw [List.cons_append, hread]
    exact hopen.decodeFrom_failed h

/-- Behind an open character there is a whole one, or a failed part. -/
theorem Opened.exists_front (h : Opened part s) (rest : Bytes) :
    (∃ c, encodeChar c <+: part ++ rest) ∨ ∃ bad more, part ++ rest = bad ++ more ∧ FailedPart bad more := by
  induction rest generalizing part s with
  | nil =>
    refine Or.inr ⟨part, [], rfl, fun c hc => ?_, h.ne_nil, Or.inr h.beginsChar, fun front hfront _ => ?_⟩
    · exact h.not_encodeChar_prefix c (by simpa using hc)
    · exact (List.append_nil part ▸ hfront).length_le
  | cons b rest ih =>
    by_cases htaken : s.low ≤ b.toNat ∧ b.toNat ≤ s.high
    · have hb : byte b.toNat = b := UInt8.ofNat_toNat
      have happend : part ++ b :: rest = part ++ [b] ++ rest := by simp
      rw [happend]
      cases howed : s.owed with
      | zero =>
        obtain ⟨c, hc⟩ := h.exists_char howed htaken.1 htaken.2
        rw [hb] at hc
        exact Or.inl ⟨c, hc ▸ List.prefix_append _ _⟩
      | succ owed =>
        have hopen := h.owing howed htaken.1 htaken.2
        rw [hb] at hopen
        exact ih hopen
    · have hno : ¬BeginsChar (part ++ [b]) := fun hbegins => htaken (h.beginsChar_append_iff.mp hbegins)
      refine Or.inr ⟨part, b :: rest, rfl, ?_, h.ne_nil, Or.inr h.beginsChar, ?_⟩
      · intro c hc
        exact h.not_encodeChar_prefix c ((beginsChar_encodeChar c).prefix_of_refused hno hc)
      · intro front hfront hbegins
        exact (hbegins.prefix_of_refused hno hfront).length_le

/-- **All bytes begin with a character or with a failed part.** -/
theorem exists_front (hne : bytes ≠ []) :
    (∃ c, encodeChar c <+: bytes) ∨ ∃ part rest, bytes = part ++ rest ∧ FailedPart part rest := by
  obtain ⟨b, rest, rfl⟩ := List.exists_cons_of_ne_nil hne
  rcases first_cases b with ⟨c, hc⟩ | ⟨hno, -⟩ | ⟨s, hopen⟩
  · exact Or.inl ⟨c, hc ▸ ⟨rest, rfl⟩⟩
  · have hshort : ∀ front, front <+: [] ++ b :: rest → BeginsChar front → front <+: [] :=
      fun front hfront hbegins => hbegins.prefix_of_refused hno hfront
    refine Or.inr ⟨[b], rest, rfl, fun c hc => ?_, List.cons_ne_nil b [], Or.inl rfl, fun front hfront hbegins => ?_⟩
    · exact encodeChar_ne_nil c (List.prefix_nil.mp (hshort _ hc (beginsChar_encodeChar c)))
    · rw [List.prefix_nil.mp (hshort front hfront hbegins)]
      exact Nat.zero_le _
  · exact hopen.exists_front rest

/-! ## The text that bytes stand for -/

theorem Lossy.eq_decode (h : Lossy bytes t) : t = decode bytes := by
  unfold decode
  induction h with
  | nil => rfl
  | char c _ ih => rw [decodeFrom_encodeChar, ih]
  | failed hpart _ ih => rw [hpart.decodeFrom_append, ih]

theorem exists_lossy (bytes : Bytes) : ∃ t, Lossy bytes t := by
  induction hn : bytes.length using Nat.strongRecOn generalizing bytes with
  | ind n ih =>
    subst hn
    by_cases hne : bytes = []
    · exact ⟨[], hne ▸ .nil⟩
    rcases exists_front hne with ⟨c, rest, rfl⟩ | ⟨part, rest, rfl, hpart⟩
    · have hpos := List.length_pos_iff.mpr (encodeChar_ne_nil c)
      obtain ⟨t, ht⟩ := ih rest.length (by rw [List.length_append]; omega) rest rfl
      exact ⟨c :: t, .char c ht⟩
    · have hpos := List.length_pos_iff.mpr hpart.ne_nil
      obtain ⟨t, ht⟩ := ih rest.length (by rw [List.length_append]; omega) rest rfl
      exact ⟨replacement :: t, .failed hpart ht⟩

/-- **Bytes stand for one text**: the one that is decoded. -/
theorem lossy_iff : Lossy bytes t ↔ t = decode bytes := by
  refine ⟨Lossy.eq_decode, ?_⟩
  rintro rfl
  obtain ⟨t, ht⟩ := exists_lossy bytes
  rwa [← ht.eq_decode]

end RuleCap.Utf8
