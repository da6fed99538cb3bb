import RuleCap.CommandLine.Request
import RuleCap.Proofs.Spelling
import RuleCap.Proofs.Utf8

/-!
# The limit as a word of the command line

A word is looked at twice: first for whether it is an option (`Reader.word`), then for the limit that it spells
(`Reader.limitValue`). A word without a dash in front is never an option (`word_of_not_dash`), so there the library
alone decides. Of the words with a dash in front only those that look like a number are taken for a limit. A spelling
behind a minus sign is a digit and then digits, underscores and blanks (`exists_digit_of_minus`), and of these only
digits look like a number (`isNumber_eq_all`); any other is refused at its first digit (`word_of_dash_digit`).

Main statement: `ofWords_path_limit`.
-/

namespace RuleCap

/-! ## Spellings behind a minus sign -/

namespace Spelling

variable {s : Spelling}

/-- In a spelling that begins with a minus sign, the groups follow it at once. -/
theorem eq_of_text_eq_minus {rest : Text} (h : s.text = '-' :: rest) : rest = joinGroups s.groups ++ s.after := by
  have hbefore : s.before = [] := by
    cases hs : s.before with
    | nil => rfl
    | cons c more =>
      rw [text, hs, List.cons_append, List.cons_append, List.cons.injEq] at h
      have hblank : isBlank c = true := isBlank_iff.mpr (s.allBlank_before c (by simp [hs]))
      exact absurd (h.1 ▸ hblank) (by decide)
  rw [text, hbefore, List.nil_append] at h
  rcases s.sign_eq with hs | hs | hs
  · -- without a sign the text would begin with a digit
    obtain ⟨c, more, hjoin⟩ := List.exists_cons_of_ne_nil s.joinGroups_ne_nil
    have hdigit : c.isDigit = true := (Numeral.isDigit_of_mem_ends s.isGrouped_joinGroups).1 c (by simp [hjoin])
    rw [hs, hjoin, List.nil_append, List.cons_append, List.cons.injEq] at h
    exact absurd (h.1 ▸ hdigit) (by decide)
  · rw [hs, List.cons_append, List.cons_append, List.cons.injEq] at h
    exact absurd h.1 (by decide)
  · rw [hs, List.cons_append, List.cons_append, List.cons.injEq, List.nil_append] at h
    exact h.2.symm

end Spelling

/-- **What follows the minus sign of a limit**: a digit, and then digits, underscores and blanks. -/
theorem Limit.exists_digit_of_minus {rest : Text} {l : Limit} (h : Limit.ofText? ('-' :: rest) = some l) :
    ∃ d more, rest = d :: more ∧ d.isDigit = true ∧
      ∀ c ∈ rest, c.isDigit = true ∨ c = '_' ∨ isBlank c = true := by
  obtain ⟨n, hn, -⟩ := Option.map_eq_some_iff.mp h
  obtain ⟨s, hs⟩ := Numeral.exists_spelling_of_ofText? hn
  obtain ⟨d, more, hjoin⟩ := List.exists_cons_of_ne_nil s.joinGroups_ne_nil
  have hrest : rest = joinGroups s.groups ++ s.after := Spelling.eq_of_text_eq_minus hs
  refine ⟨d, more ++ s.after, by rw [hrest, hjoin, List.cons_append], ?_, ?_⟩
  · exact (Numeral.isDigit_of_mem_ends s.isGrouped_joinGroups).1 d (by simp [hjoin])
  · intro c hc
    rw [hrest] at hc
    rcases List.mem_append.mp hc with hc | hc
    · rcases Numeral.digit_or_underscore s.isGrouped_joinGroups c hc with hdigit | hunderscore
      · exact Or.inl hdigit
      · exact Or.inr (Or.inl hunderscore)
    · exact Or.inr (Or.inr (isBlank_iff.mpr (s.allBlank_after c hc)))

namespace CommandLine

/-! ## Words -/

namespace Reader

variable {r : Reader}

/-- A text that begins with no dash makes a word that begins with none. -/
theorem head?_encode_ne_dash {t : Text} (h : t.head? ≠ some '-') : (Utf8.encode t).head? ≠ some dash := by
  cases t with
  | nil => exact nofun
  | cons c t =>
    rw [Utf8.encode_cons]
    intro hdash
    by_cases hc : c.toNat < 0x80
    · rw [Utf8.encodeChar_of_lt hc] at hdash
      have hbyte : Utf8.byte c.toNat = dash := by simpa using hdash
      have hnat : c.toNat = 0x2D := by
        rw [← Utf8.toNat_byte (show c.toNat < 256 by omega), hbyte]
        rfl
      have hchar : c = '-' := Char.toNat_inj.mp hnat
      exact h (by rw [hchar]; rfl)
    · obtain ⟨b, rest, hb, hle⟩ := Utf8.exists_head_encodeChar (Nat.le_of_not_lt hc)
      rw [hb] at hdash
      have hbyte : b = dash := by simpa using hdash
      rw [hbyte] at hle
      exact absurd hle (by decide)

/-- A word without a dash in front is no option. -/
theorem word_of_not_dash {w : Bytes} (h : w.head? ≠ some dash) : r.word w = r.plain w := by
  unfold word
  split
  · rfl
  · split
    · exact absurd rfl h
    · exact absurd rfl h
    · exact absurd rfl h
    · rfl

/-- Of digits, underscores and blanks, only digits make a number. -/
theorem isNumber_eq_all {t : Text} (hne : t ≠ []) (h : ∀ c ∈ t, c.isDigit = true ∨ c = '_' ∨ isBlank c = true) :
    isNumber t = t.all Char.isDigit := by
  unfold isNumber
  cases hrest : t.dropWhile Char.isDigit with
  | nil =>
    have hall : t.all Char.isDigit = true := by simpa using hrest
    have htake : t.takeWhile Char.isDigit = t := by
      rw [← List.append_nil (t.takeWhile _), ← hrest, List.takeWhile_append_dropWhile]
    simp [hall, htake, hne]
  | cons c rest =>
    obtain ⟨hmem, hc⟩ := of_dropWhile_isDigit hrest
    have hall : t.all Char.isDigit = false := by
      rw [List.all_eq_false]
      exact ⟨c, hmem, by simp [hc]⟩
    -- the first character that is no digit is neither a point nor the mark of an exponent
    have hmark : c ≠ '.' ∧ c ≠ 'e' ∧ c ≠ 'E' := by
      have hclass := h c hmem
      refine ⟨?_, ?_, ?_⟩ <;> rintro rfl <;> revert hclass <;> decide
    simp [hall, hmark]

/-- A digit is the letter of no option. -/
theorem ofLetter?_of_isDigit {d : Char} (h : d.isDigit = true) : Slot.ofLetter? d = none := by
  have hletters : ∀ e ∈ Slot.letters, e.1.isDigit = false := by decide
  rw [Slot.ofLetter?, List.lookup_eq_none_iff]
  intro e he
  rw [bne_iff_ne]
  rintro rfl
  rw [hletters e he] at h
  cases h

/-- A word with one dash in front. -/
theorem word_of_dash {b : UInt8} {rest : Bytes} (hr : r.trailing = false) (hb : b ≠ dash) :
    r.word (dash :: b :: rest) =
      if r.next = .limit ∧ isNumber (Utf8.decode (b :: rest)) then r.plain (dash :: b :: rest)
      else r.short (b :: rest) := by
  unfold word
  rw [hr, if_neg (by decide)]
  split
  · rename_i heq
    simp_all [dash]
  · rename_i heq
    simp_all [dash]
  · rename_i heq
    simp_all [dash]
  · rename_i hno
    exact absurd rfl (hno b rest)

theorem encode_cons_of_isDigit {d : Char} (hd : d.isDigit = true) (more : Text) :
    Utf8.encode (d :: more) = Utf8.byte d.toNat :: Utf8.encode more := by
  have hrange := isDigit_iff_toNat.mp hd
  rw [Utf8.encode_cons, Utf8.encodeChar_of_lt (by omega), List.singleton_append]

/-- A digit is no option and is shown as it is. -/
theorem short_of_digit {d : Char} (hd : d.isDigit = true) (more : Text) :
    r.short (Utf8.encode (d :: more)) = refuse (.unknown ['-', d] none []) := by
  have hlt : d.toNat < 0x80 := by
    have := isDigit_iff_toNat.mp hd
    omega
  have hbytes : Utf8.encode (d :: more) = Utf8.byte d.toNat :: Utf8.encode more := encode_cons_of_isDigit hd more
  have hchar : Char.ofNat (Utf8.byte d.toNat).toNat = d := by
    rw [Utf8.toNat_byte (by omega), Char.ofNat_toNat]
  have hfirst : Utf8.decode? [Utf8.byte d.toNat] = some [d] := by
    rw [Utf8.decode?_eq_some_iff, Utf8.encode_cons, Utf8.encodeChar_of_lt hlt]
    rfl
  rw [hbytes, short, hchar, ofLetter?_of_isDigit hd]
  simp [letterText, firstChar?, hfirst]

theorem byte_ne_dash_of_isDigit {d : Char} (hd : d.isDigit = true) : Utf8.byte d.toNat ≠ dash := by
  have hrange := isDigit_iff_toNat.mp hd
  intro h
  have hnat : (Utf8.byte d.toNat).toNat = 0x2D := by rw [h]; rfl
  rw [Utf8.toNat_byte (by omega)] at hnat
  omega

/-- **A word with a dash in front of a digit**: where a limit is to come, a number is no option; anything else is an
option with a letter that there is not. -/
theorem word_of_dash_digit (hr : r.trailing = false) {d : Char} (hd : d.isDigit = true) (more : Text) :
    r.word (Utf8.encode ('-' :: d :: more)) =
      if r.next = .limit ∧ isNumber (d :: more) then r.plain (Utf8.encode ('-' :: d :: more))
      else refuse (.unknown ['-', d] none []) := by
  have hbytes : Utf8.encode (d :: more) = Utf8.byte d.toNat :: Utf8.encode more := encode_cons_of_isDigit hd more
  have hword : Utf8.encode ('-' :: d :: more) = dash :: Utf8.byte d.toNat :: Utf8.encode more := by
    rw [← hbytes]
    rfl
  rw [hword, word_of_dash hr (byte_ne_dash_of_isDigit hd), ← hbytes, Utf8.decode_encode, short_of_digit hd]

/-! ## A path and a limit -/

/-- The reader behind a path. -/
def behindPath (path : Path) : Reader := { start with waiting := some (.path, [path]), next := .limit }

/-- The reader behind a path and a word for the limit. -/
def behindLimit (path : Path) (w : Bytes) : Reader :=
  { start with path := some path, given := [.path], waiting := some (.limit, [w]), next := .ignored }

theorem plain_behindPath {path : Path} (hne : path ≠ []) (w : Bytes) :
    (behindPath path).plain w = .ok (behindLimit path w) := by
  cases path with
  | nil => exact absurd rfl hne
  | cons b rest => rfl

/-- Behind a path, a number with a dash in front is taken for the limit. -/
theorem word_behindPath_of_dash {path : Path} (hne : path ≠ []) {d : Char} {more : Text} (hd : d.isDigit = true) :
    (behindPath path).word (Utf8.encode ('-' :: d :: more)) =
      if isNumber (d :: more) then .ok (behindLimit path (Utf8.encode ('-' :: d :: more)))
      else refuse (.unknown ['-', d] none []) := by
  rw [word_of_dash_digit rfl hd, plain_behindPath hne]
  simp [behindPath]

/-- A word without a dash in front is taken for the limit. -/
theorem word_behindPath_of_not_dash {path : Path} (hne : path ≠ []) {t : Text} (h : t.head? ≠ some '-') :
    (behindPath path).word (Utf8.encode t) = .ok (behindLimit path (Utf8.encode t)) := by
  rw [word_of_not_dash (head?_encode_ne_dash h), plain_behindPath hne]

theorem textValue_encode (t : Text) : textValue (Utf8.encode t) = .ok t := by
  rw [textValue, Utf8.decode?_eq_some_iff.mpr rfl]

/-- **At the end the library decides** what limit the word is. -/
theorem finish_behindLimit (path : Path) (t : Text) :
    (behindLimit path (Utf8.encode t)).finish =
      match Limit.ofText? t with
      | some l => .ok ⟨path, some l, [], none, none, 0⟩
      | none => refuse (.badLimit t) := by
  have hvalue : limitValue (Utf8.encode t) =
      match Limit.ofText? t with
      | some l => .ok l
      | none => refuse (.badLimit t) := by
    rw [limitValue, textValue_encode]
    rfl
  have hsettle : (behindLimit path (Utf8.encode t)).settle = (limitValue (Utf8.encode t)).bind fun l =>
      .ok { behindLimit path [] with limit := some l, given := [.path, .limit], waiting := none } := rfl
  rw [finish, hsettle, hvalue]
  cases Limit.ofText? t <;> rfl

end Reader

theorem headline_badLimit (t : Text) : ∃ lead, (UsageFault.badLimit t).headline = lead ++ notALimitMessage :=
  ⟨s!"invalid value '{String.ofList t}' for '{Slot.limit.label}': ", rfl⟩

/-- What is said of a text that is no limit holds the reason. -/
theorem text_badLimit (t : Text) (medium : Terminal.Medium) :
    ∃ lead rest, (Stop.refused (.badLimit t)).text medium = lead ++ notALimitMessage ++ rest := by
  obtain ⟨lead, hlead⟩ := headline_badLimit (Terminal.shown medium t)
  have hpair : ∀ mark a b : String, mark.intercalate [a, b] = a ++ mark ++ b := fun _ _ _ => rfl
  refine ⟨"error: " ++ lead, "\n\n" ++ "For more information, try '--help'.\n", ?_⟩
  rw [Stop.text, UsageFault.shown, UsageFault.text, UsageFault.details, List.nil_append, hpair, hlead]
  simp only [String.append_assoc]

/-- The two steps of reading a path and a word. -/
theorem ofWords_pair {path : Path} (hdash : path.head? ≠ some Reader.dash) (w : Bytes) :
    Request.ofWords [path, w] = ((Reader.behindPath path).word w).bind Reader.finish := by
  have hpath : Reader.start.word path = .ok (Reader.behindPath path) := by
    rw [Reader.word_of_not_dash hdash]
    rfl
  rw [Request.ofWords, List.foldlM_cons, hpath]
  show ([w].foldlM Reader.word (Reader.behindPath path)).bind Reader.finish = _
  rw [List.foldlM_cons]
  cases (Reader.behindPath path).word w <;> rfl

section PathAndLimit

open Reader

/-- **A path and a limit.** Behind a path, every text that spells a limit is taken for that limit, except where it
begins with a dash and goes on with anything but digits: then it is refused as an option, by its first two characters. A
text that spells none and begins with no dash is refused as no limit, and the reason is said. -/
theorem ofWords_path_limit {path : Path} (hne : path ≠ []) (hdash : path.head? ≠ some dash) (t : Text) :
    (∀ l, Limit.ofText? t = some l →
        Request.ofWords [path, Utf8.encode t] =
          if t.head? = some '-' ∧ t.tail.all Char.isDigit = false then .error (.refused (.unknown (t.take 2) none []))
          else .ok ⟨path, some l, [], none, none, 0⟩) ∧
      (Limit.ofText? t = none → t.head? ≠ some '-' →
        Request.ofWords [path, Utf8.encode t] = .error (.refused (.badLimit t)) ∧
          ∀ medium, ∃ lead rest, (Stop.refused (.badLimit t)).text medium = lead ++ notALimitMessage ++ rest) := by
  rw [ofWords_pair hdash]
  constructor
  · intro l hl
    by_cases hminus : t.head? = some '-'
    · -- a dash: the digit behind it shows what the word is taken for
      obtain ⟨rest, rfl⟩ : ∃ rest, t = '-' :: rest := ⟨t.tail, (List.cons_head?_tail hminus).symm⟩
      obtain ⟨d, more, rfl, hd, hclass⟩ := Limit.exists_digit_of_minus hl
      rw [word_behindPath_of_dash hne hd, isNumber_eq_all (List.cons_ne_nil d more) hclass]
      cases hall : (d :: more).all Char.isDigit with
      | true => simp [hall, Except.bind, finish_behindLimit, hl]
      | false => simp [hall, Except.bind, refuse]
    · rw [word_behindPath_of_not_dash hne hminus]
      simp [hminus, Except.bind, finish_behindLimit, hl]
  · intro hnone hminus
    refine ⟨?_, text_badLimit t⟩
    rw [word_behindPath_of_not_dash hne hminus]
    simp [Except.bind, finish_behindLimit, hnone, refuse]

/-- A thousand from the end is a limit, and taken as one without its underscore, but refused with it. -/
theorem grouped_negative_limit_refused :
    let path : Path := [0x6C]
    (path ≠ [] ∧ path.head? ≠ some dash) ∧ Limit.ofText? "-1_000".toList = some ⟨-1000⟩ ∧
      Request.ofWords [path, Utf8.encode "-1000".toList] = .ok ⟨path, some ⟨-1000⟩, [], none, none, 0⟩ ∧
      Request.ofWords [path, Utf8.encode "-1_000".toList] = .error (.refused (.unknown "-1".toList none [])) := by
  intro path
  have hne : path ≠ [] := List.cons_ne_nil _ _
  have hdash : path.head? ≠ some dash := by decide
  have hgrouped : Limit.ofText? "-1_000".toList = some ⟨-1000⟩ := by decide
  have hbare : Limit.ofText? "-1000".toList = some ⟨-1000⟩ := by decide
  refine ⟨⟨hne, hdash⟩, hgrouped, ?_, ?_⟩
  · rw [(ofWords_path_limit hne hdash _).1 _ hbare, if_neg (by decide)]
  · rw [(ofWords_path_limit hne hdash _).1 _ hgrouped, if_pos (by decide)]
    rfl

end PathAndLimit

end CommandLine

end RuleCap
