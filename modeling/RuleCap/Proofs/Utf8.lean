import RuleCap.Text.Utf8

/-!
# Texts written and read as bytes

Every text that is written as bytes is read back as it was (`decode_encode`), character by character
(`decodeFrom_encodeChar`): the first byte of a character says how many more are owed and in which range the next one
must be, and the bytes that follow are in that range because the character is one. So bytes are UTF-8 exactly if some
text is written so (`decode?_eq_some_iff`).
-/

namespace RuleCap.Utf8

theorem toNat_byte {n : Nat} (h : n < 256) : (byte n).toNat = n :=
  UInt8.toNat_ofNat_of_lt' h

theorem toNat_ofNat_of_valid {n : Nat} (h : n < 0xD800 ∨ (0xDFFF < n ∧ n < 0x110000)) : (Char.ofNat n).toNat = n := by
  rw [Char.ofNat, dif_pos h]
  rfl

/-- A byte is told by the character of its number. -/
theorem eq_byte_of_ofNat {b : UInt8} {c : Char} (h : Char.ofNat b.toNat = c) : b = byte c.toNat := by
  have hlt : b.toNat < 256 := b.toNat_lt
  rw [← h, toNat_ofNat_of_valid (by omega), byte, UInt8.ofNat_toNat]

theorem decodeFrom_cons (state : Option Begun) (b : UInt8) (rest : Bytes) :
    decodeFrom state (b :: rest) = (step state b).1 ++ decodeFrom (step state b).2 rest := by
  cases state <;> rfl

/-! ## The bytes of one character -/

section Steps

variable {n value owed low high : Nat} (rest : Bytes)

/-- A byte of its own. -/
theorem decodeFrom_single (h : n < 0x80) : decodeFrom none (byte n :: rest) = Char.ofNat n :: decodeFrom none rest := by
  simp [decodeFrom_cons, step, first, toNat_byte (show n < 256 by omega), h]

/-- The first of two bytes. -/
theorem decodeFrom_first_of_two (hlow : 0xC2 ≤ n) (hhigh : n < 0xE0) :
    decodeFrom none (byte n :: rest) = decodeFrom (some ⟨n - 0xC0, 0, 0x80, 0xBF⟩) rest := by
  have h₁ : ¬n < 0x80 := by omega
  have h₂ : ¬n < 0xC2 := by omega
  simp [decodeFrom_cons, step, first, toNat_byte (show n < 256 by omega), h₁, h₂, hhigh]

/-- The first of three bytes. -/
theorem decodeFrom_first_of_three (hlow : 0xE0 ≤ n) (hhigh : n < 0xF0) :
    decodeFrom none (byte n :: rest) =
      decodeFrom (some ⟨n - 0xE0, 1, if n = 0xE0 then 0xA0 else 0x80, if n = 0xED then 0x9F else 0xBF⟩) rest := by
  have h₁ : ¬n < 0x80 := by omega
  have h₂ : ¬n < 0xC2 := by omega
  have h₃ : ¬n < 0xE0 := by omega
  simp [decodeFrom_cons, step, first, toNat_byte (show n < 256 by omega), h₁, h₂, h₃, hhigh]

/-- The first of four bytes. -/
theorem decodeFrom_first_of_four (hlow : 0xF0 ≤ n) (hhigh : n < 0xF5) :
    decodeFrom none (byte n :: rest) =
      decodeFrom (some ⟨n - 0xF0, 2, if n = 0xF0 then 0x90 else 0x80, if n = 0xF4 then 0x8F else 0xBF⟩) rest := by
  have h₁ : ¬n < 0x80 := by omega
  have h₂ : ¬n < 0xC2 := by omega
  have h₃ : ¬n < 0xE0 := by omega
  have h₄ : ¬n < 0xF0 := by omega
  simp [decodeFrom_cons, step, first, toNat_byte (show n < 256 by omega), h₁, h₂, h₃, h₄, hhigh]

/-- A byte behind which more are owed. -/
theorem decodeFrom_owing (hn : n < 256) (hlow : low ≤ n) (hhigh : n ≤ high) :
    decodeFrom (some ⟨value, owed + 1, low, high⟩) (byte n :: rest) =
      decodeFrom (some ⟨value * 0x40 + (n - 0x80), owed, 0x80, 0xBF⟩) rest := by
  simp [decodeFrom_cons, step, toNat_byte hn, hlow, hhigh]

/-- The last byte of a character. -/
theorem decodeFrom_last (hn : n < 256) (hlow : low ≤ n) (hhigh : n ≤ high) :
    decodeFrom (some ⟨value, 0, low, high⟩) (byte n :: rest) =
      Char.ofNat (value * 0x40 + (n - 0x80)) :: decodeFrom none rest := by
  simp [decodeFrom_cons, step, toNat_byte hn, hlow, hhigh]

end Steps

/-- **The bytes of a character are read back as the character.** -/
theorem decodeFrom_encodeChar (c : Char) (rest : Bytes) :
    decodeFrom none (encodeChar c ++ rest) = c :: decodeFrom none rest := by
  have hvalid : c.toNat < 0xD800 ∨ (0xDFFF < c.toNat ∧ c.toNat < 0x110000) := c.valid
  have hc : Char.ofNat c.toNat = c := c.ofNat_toNat
  unfold encodeChar
  generalize c.toNat = n at hvalid hc
  subst hc
  by_cases h₁ : n < 0x80
  · simp only [h₁, if_true]
    exact decodeFrom_single rest h₁
  by_cases h₂ : n < 0x800
  · simp only [h₁, h₂, if_true, if_false, List.cons_append, List.nil_append]
    have hvalue : (0xC0 + n / 0x40 - 0xC0) * 0x40 + (0x80 + n % 0x40 - 0x80) = n := by omega
    rw [decodeFrom_first_of_two _ (by omega) (by omega), decodeFrom_last _ (by omega) (by omega) (by omega), hvalue]
  by_cases h₃ : n < 0x10000
  · simp only [h₁, h₂, h₃, if_true, if_false, List.cons_append, List.nil_append]
    have hvalue : ((0xE0 + n / 0x1000 - 0xE0) * 0x40 + (0x80 + n / 0x40 % 0x40 - 0x80)) * 0x40 +
        (0x80 + n % 0x40 - 0x80) = n := by omega
    -- the second byte is in its range: the number needs three bytes, and it is not one of those that are no characters
    rw [decodeFrom_first_of_three _ (by omega) (by omega), decodeFrom_owing _ (by omega) (by split <;> omega)
      (by split <;> omega), decodeFrom_last _ (by omega) (by omega) (by omega), hvalue]
  · simp only [h₁, h₂, h₃, if_false, List.cons_append, List.nil_append]
    have hvalue : (((0xF0 + n / 0x40000 - 0xF0) * 0x40 + (0x80 + n / 0x1000 % 0x40 - 0x80)) * 0x40 +
        (0x80 + n / 0x40 % 0x40 - 0x80)) * 0x40 + (0x80 + n % 0x40 - 0x80) = n := by omega
    rw [decodeFrom_first_of_four _ (by omega) (by omega), decodeFrom_owing _ (by omega) (by split <;> omega)
      (by split <;> omega), decodeFrom_owing _ (by omega) (by omega) (by omega),
      decodeFrom_last _ (by omega) (by omega) (by omega), hvalue]

/-- A character of one byte. -/
theorem encodeChar_of_lt {c : Char} (h : c.toNat < 0x80) : encodeChar c = [byte c.toNat] := by
  simp only [encodeChar, h, if_true]

/-- A character of several bytes begins with none of the bytes that are characters of their own. -/
theorem exists_head_encodeChar {c : Char} (h : 0x80 ≤ c.toNat) :
    ∃ b rest, encodeChar c = b :: rest ∧ 0x80 ≤ b.toNat := by
  have hvalid : c.toNat < 0x110000 := by
    rcases c.valid with h | h
    · exact Nat.lt_trans h (by decide)
    · exact h.2
  simp only [encodeChar, Nat.not_lt.mpr h, if_false]
  split
  · exact ⟨_, _, rfl, by rw [toNat_byte (by omega)]; omega⟩
  · split
    · exact ⟨_, _, rfl, by rw [toNat_byte (by omega)]; omega⟩
    · exact ⟨_, _, rfl, by rw [toNat_byte (by omega)]; omega⟩

/-! ## Texts -/

theorem encode_cons (c : Char) (t : Text) : encode (c :: t) = encodeChar c ++ encode t := rfl

/-- **A text is read back as it was written.** -/
theorem decode_encode (t : Text) : decode (encode t) = t := by
  unfold decode
  induction t with
  | nil => rfl
  | cons c t ih =>
    have hcons : encode (c :: t) = encodeChar c ++ encode t := by simp [encode]
    rw [hcons, decodeFrom_encodeChar, ih]

/-- **Bytes are UTF-8 exactly if some text is written so.** -/
theorem decode?_eq_some_iff {bytes : Bytes} {t : Text} : decode? bytes = some t ↔ encode t = bytes := by
  unfold decode?
  constructor
  · intro h
    split at h
    · rename_i heq
      rw [Option.some.injEq] at h
      rwa [h] at heq
    · cases h
  · rintro rfl
    rw [decode_encode, if_pos rfl]

end RuleCap.Utf8
