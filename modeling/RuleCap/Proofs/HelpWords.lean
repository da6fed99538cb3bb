import RuleCap.Proofs.CommandWords

/-!
# Words that ask for help or the version

The words of a command line are read up to the first one that shows why there is no request: something is wrong with
them (`Faulty`), or something else is asked for. A word asks for help or the version (`Asks`) if it is the name of that
option, or a row of letters in which only wishes for more words stand before the letter of that option. Each step of the
reader fails in one of these two ways (`Reader.word_error`), and a word that asks is heard if nothing is wrong with the
words before it (`Reader.word_asks`) and two dashes alone are not among them (`Reader.foldlM_word_ok`).

Main statement: `ofWords_eq_stop_iff`.
-/

namespace RuleCap.CommandLine

/-! ## Asking -/

/-- What can be asked for instead of a trim. -/
inductive Inquiry
  | help
  | version
deriving DecidableEq, Repr

namespace Inquiry

/-- The option that asks. -/
def slot : Inquiry → Slot
  | help => .help
  | version => .version

/-- The letter of the option. -/
def letter : Inquiry → Char
  | help => 'h'
  | version => 'V'

/-- What comes of it. -/
def stop : Inquiry → Stop
  | help => .help
  | version => .version

theorem slot_inj : ∀ {q q' : Inquiry}, q.slot = q'.slot → q = q'
  | help, help, _ => rfl
  | version, version, _ => rfl

/-- An option that asks is no slot of a word by its place, and takes no value. -/
theorem slot_ne {slot : Slot} (h : slot.isPositional = true ∨ slot.takesValue = true) (q : Inquiry) :
    slot ≠ q.slot := by
  rintro rfl
  cases q <;> exact absurd h (by decide)

theorem stop_inj : ∀ {q q' : Inquiry}, q.stop = q'.stop → q = q'
  | help, help, _ => rfl
  | version, version, _ => rfl

end Inquiry

/-- **A word asks**: it is the name of the option, or a row of letters with the one of the option behind wishes for more
words. What stands behind that letter is not looked at. -/
inductive Asks (q : Inquiry) : Bytes → Prop
  | name : Asks q (Reader.nameWord q.slot)
  | letter (n : Nat) (rest : Bytes) : Asks q (Reader.dash :: (Reader.flags n ++ Utf8.byte q.letter.toNat :: rest))

/-- Something is wrong with a word; that there is no path shows at the end only. -/
def Faulty (stop : Stop) : Prop :=
  ∃ fault, stop = .refused fault ∧ ∀ given, fault ≠ .missingPath given

/-- A command line that makes a request, or does but for a path. -/
def Usable (words : List Bytes) : Prop :=
  (∃ r, Request.ofWords words = .ok r) ∨ ∃ given, Request.ofWords words = .error (.refused (.missingPath given))

/-- The letters of options, by what they stand for. -/
theorem mem_letters_of_ofLetter? {c : Char} {slot : Slot} (h : Slot.ofLetter? c = some slot) :
    (c, slot) ∈ Slot.letters := by
  obtain ⟨before, after, hletters, -⟩ := List.lookup_eq_some_iff.mp h
  simp [hletters]

theorem eq_longName_of_ofName? {name : Text} {slot : Slot} (h : Slot.ofName? name = some slot) :
    name = slot.longName := by
  obtain ⟨before, after, hnames, -⟩ := List.lookup_eq_some_iff.mp h
  have hmem : (name, slot) ∈ Slot.longNames := by simp [hnames]
  have hall : ∀ e ∈ Slot.longNames, e.1 = e.2.longName := by decide
  exact hall _ hmem

namespace Reader

variable {r r' s : Reader} {slot : Slot} {words : List Bytes} {stop : Stop} {q : Inquiry}

/-- No option waits that asks: those take no value. -/
def Calm (r : Reader) : Prop := ∀ (q : Inquiry) (words : List Bytes), r.waiting ≠ some (q.slot, words)

theorem calm_of_settled (h : r.waiting = none) : r.Calm := fun q words hwaiting => by
  rw [h] at hwaiting
  cases hwaiting

theorem calm_of_waiting (h : r.waiting = some (slot, words)) (hslot : ∀ q : Inquiry, slot ≠ q.slot) : r.Calm :=
  fun q words' hwaiting => by
    rw [h, Option.some.injEq, Prod.mk.injEq] at hwaiting
    exact hslot q hwaiting.1

theorem calm_start : start.Calm := calm_of_settled rfl

/-! ## Settling -/

theorem settle_of_settled (h : r.waiting = none) : r.settle = .ok r := by
  rw [settle, h]

/-- Behind a slot that has been filled nothing waits, and options are read as before. -/
theorem settleAndFill_keeps (h : r.settleAndFill slot words = .ok r') :
    (∃ s, r.settle = .ok s) ∧ r'.waiting = none ∧ r'.trailing = r.trailing := by
  obtain ⟨s, hs, h⟩ := bind_eq_ok_iff.mp h
  obtain ⟨hwaiting, -, htrailing⟩ := fill_keeps h
  obtain ⟨hsettled, -, hsame⟩ := settle_keeps hs
  exact ⟨⟨s, hs⟩, hwaiting.trans hsettled, htrailing.trans hsame⟩

theorem settleAndWait_keeps (h : r.settleAndWait slot words = .ok r') :
    r'.waiting = some (slot, words) ∧ r'.trailing = r.trailing := by
  obtain ⟨s, hs, h⟩ := bind_eq_ok_iff.mp h
  cases h
  exact ⟨rfl, (settle_keeps hs).2.2⟩

/-! ## What values and slots can fail with -/

theorem pathValue_error (h : pathValue slot words = .error stop) : Faulty stop := by
  unfold pathValue at h
  split at h <;> cases h <;> exact ⟨_, rfl, by simp⟩

theorem textValue_error {w : Bytes} (h : textValue w = .error stop) : Faulty stop := by
  unfold textValue at h
  split at h <;> cases h
  exact ⟨_, rfl, by simp⟩

theorem limitValue_error {w : Bytes} (h : limitValue w = .error stop) : Faulty stop := by
  obtain h | ⟨t, -, h⟩ := bind_eq_error_iff.mp h
  · exact textValue_error h
  · split at h <;> cases h
    exact ⟨_, rfl, by simp⟩

theorem textValues_error (h : words.mapM textValue = .error stop) : Faulty stop := by
  induction words with
  | nil => cases h
  | cons w words ih =>
    rw [List.mapM_cons] at h
    obtain h | ⟨t, -, h⟩ := bind_eq_error_iff.mp h
    · exact textValue_error h
    · obtain h | ⟨ts, -, h⟩ := bind_eq_error_iff.mp h
      · exact ih h
      · cases h

/-- **What filling a slot can fail with**: a fault, or what the slot asks for. -/
theorem fill_error (h : r.fill slot words = .error stop) :
    Faulty stop ∨ ∃ q : Inquiry, slot = q.slot ∧ stop = q.stop := by
  unfold fill at h
  split at h
  · cases h
    exact Or.inl ⟨_, rfl, by simp⟩
  · cases slot with
    | verbose => cases h
    | help =>
      cases h
      exact Or.inr ⟨.help, rfl, rfl⟩
    | version =>
      cases h
      exact Or.inr ⟨.version, rfl, rfl⟩
    | limit =>
      obtain h | ⟨_, -, h⟩ := bind_eq_error_iff.mp h
      · exact Or.inl (limitValue_error h)
      · cases h
    | ignored =>
      obtain h | ⟨_, -, h⟩ := bind_eq_error_iff.mp h
      · exact Or.inl (textValues_error h)
      · cases h
    | _ =>
      obtain h | ⟨_, -, h⟩ := bind_eq_error_iff.mp h
      · exact Or.inl (pathValue_error h)
      · cases h

theorem fill_inquiry (r : Reader) (q : Inquiry) : r.fill q.slot [] = .error q.stop := by
  cases q <;> rfl

theorem option_inquiry (hs : r.settle = .ok s) (q : Inquiry) : r.option q.slot none = .error q.stop := by
  have hfill : r.settleAndFill q.slot [] = .error q.stop := by
    rw [settleAndFill_of_settle hs, fill_inquiry]
  cases q <;> exact hfill

theorem option_inquiry_ne_ok (q : Inquiry) : r.option q.slot none ≠ .ok r' := by
  intro h
  have hfill : r.settleAndFill q.slot [] = .ok r' := by cases q <;> exact h
  obtain ⟨⟨s, hs⟩, -⟩ := settleAndFill_keeps hfill
  rw [settleAndFill_of_settle hs, fill_inquiry] at hfill
  cases hfill

theorem settle_error (hr : r.Calm) (h : r.settle = .error stop) : Faulty stop := by
  unfold settle at h
  split at h
  · cases h
  · rename_i hwaiting
    obtain h | ⟨q, rfl, -⟩ := fill_error h
    · exact h
    · exact absurd hwaiting (hr q _)

theorem settleAndFill_error (hr : r.Calm) (h : r.settleAndFill slot words = .error stop) :
    Faulty stop ∨ ∃ q : Inquiry, slot = q.slot ∧ stop = q.stop ∧ ∃ s, r.settle = .ok s := by
  obtain h | ⟨s, hs, h⟩ := bind_eq_error_iff.mp h
  · exact Or.inl (settle_error hr h)
  · exact (fill_error h).imp_right fun ⟨q, hslot, hstop⟩ => ⟨q, hslot, hstop, s, hs⟩

theorem settleAndWait_error (hr : r.Calm) (h : r.settleAndWait slot words = .error stop) : Faulty stop := by
  obtain h | ⟨s, -, h⟩ := bind_eq_error_iff.mp h
  · exact settle_error hr h
  · cases h

/-- What an option can fail with. -/
theorem option_error (hr : r.Calm) {value : Option Bytes} (h : r.option slot value = .error stop) :
    Faulty stop ∨ ∃ q : Inquiry, slot = q.slot ∧ stop = q.stop ∧ ∃ s, r.settle = .ok s := by
  unfold option at h
  split at h
  · exact settleAndFill_error hr h
  · exact Or.inl (settleAndWait_error hr h)
  · exact settleAndFill_error hr h

/-! ## What words can fail with -/

/-- **What a long option can fail with.** -/
theorem long_error (hr : r.Calm) {w : Bytes} (h : r.long w = .error stop) :
    Faulty stop ∨ ∃ q : Inquiry, w = Utf8.encode q.slot.longName ∧ stop = q.stop ∧ ∃ s, r.settle = .ok s := by
  unfold long at h
  dsimp only at h
  split at h
  · cases h
    exact Or.inl ⟨_, rfl, by simp⟩
  · rename_i slot hslot
    split at h
    · cases h
      exact Or.inl ⟨_, rfl, by simp⟩
    · rename_i hvalue
      refine (option_error hr h).imp_right ?_
      rintro ⟨q, rfl, hstop, hs⟩
      refine ⟨q, ?_, hstop, hs⟩
      -- an option that asks has no value, so there is no equality sign in the word
      have hplain : equals ∉ w := fun hmem =>
        hvalue _ (by cases q <;> rfl) (if_pos (List.contains_iff_mem.mpr hmem))
      rw [takeWhile_of_plain hplain] at hslot
      obtain ⟨t, ht, hslot⟩ := Option.bind_eq_some_iff.mp hslot
      rw [← Utf8.decode?_eq_some_iff.mp ht, eq_longName_of_ofName? hslot]

/-- What the letters of options stand for, byte by byte. -/
theorem ofLetter?_cases {b : UInt8} (h : Slot.ofLetter? (Char.ofNat b.toNat) = some slot) :
    slot.takesValue = true ∨ (b = Utf8.byte 'v'.toNat ∧ slot = .verbose) ∨
      ∃ q : Inquiry, b = Utf8.byte q.letter.toNat ∧ slot = q.slot := by
  have hmem := mem_letters_of_ofLetter? h
  simp only [Slot.letters, List.mem_cons, Prod.mk.injEq, List.not_mem_nil, or_false] at hmem
  obtain ⟨-, rfl⟩ | ⟨-, rfl⟩ | ⟨hb, rfl⟩ | ⟨hb, rfl⟩ | ⟨hb, rfl⟩ := hmem
  · exact Or.inl rfl
  · exact Or.inl rfl
  · exact Or.inr (Or.inl ⟨Utf8.eq_byte_of_ofNat hb, rfl⟩)
  · exact Or.inr (Or.inr ⟨.help, Utf8.eq_byte_of_ofNat hb, rfl⟩)
  · exact Or.inr (Or.inr ⟨.version, Utf8.eq_byte_of_ofNat hb, rfl⟩)

/-- **What a row of letters can fail with.** -/
theorem short_error (hr : r.Calm) {w : Bytes} (h : r.short w = .error stop) :
    Faulty stop ∨ ∃ (q : Inquiry) (n : Nat) (rest : Bytes),
      w = flags n ++ Utf8.byte q.letter.toNat :: rest ∧ stop = q.stop ∧ ∃ s, r.settle = .ok s := by
  induction w generalizing r with
  | nil => cases h
  | cons b rest ih =>
    rw [short] at h
    split at h
    · cases h
      exact Or.inl ⟨_, rfl, by simp⟩
    · rename_i slot hslot
      obtain hvalue | ⟨rfl, rfl⟩ | ⟨q, rfl, rfl⟩ := ofLetter?_cases hslot
      · rw [if_pos hvalue] at h
        refine (option_error hr h).imp_right ?_
        rintro ⟨q, rfl, -⟩
        cases q <;> cases hvalue
      · obtain h | ⟨r', hfill, h⟩ := bind_eq_error_iff.mp h
        · refine (option_error hr h).imp_right ?_
          rintro ⟨q, hq, -⟩
          cases q <;> cases hq
        · -- one wish for more words, and on with what is behind it
          obtain ⟨hs, hwaiting, -⟩ := settleAndFill_keeps hfill
          refine (ih (calm_of_settled hwaiting) h).imp_right ?_
          rintro ⟨q, n, more, rfl, hstop, -⟩
          exact ⟨q, n + 1, more, rfl, hstop, hs⟩
      · have hvalue : ¬q.slot.takesValue = true := by cases q <;> exact Bool.false_ne_true
        rw [if_neg hvalue] at h
        obtain h | ⟨r', hasked, -⟩ := bind_eq_error_iff.mp h
        · refine (option_error hr h).imp_right ?_
          rintro ⟨q', hq, hstop, hs⟩
          rw [Inquiry.slot_inj hq]
          exact ⟨q', 0, rest, rfl, hstop, hs⟩
        · exact absurd hasked (option_inquiry_ne_ok q)

theorem plain_error (hr : r.Calm) {w : Bytes} (h : r.plain w = .error stop) : Faulty stop := by
  unfold plain at h
  split at h
  · cases h
  · split at h
    · obtain h | ⟨_, -, h⟩ := bind_eq_error_iff.mp h
      · exact settleAndWait_error hr h
      · cases h
    · obtain h | ⟨_, -, h⟩ := bind_eq_error_iff.mp h
      · exact settleAndWait_error hr h
      · cases h
    · cases h
    · exact settleAndWait_error hr h

/-- **What a word can fail with**: a fault, or what it asks for. -/
theorem word_error (hr : r.Calm) {w : Bytes} (h : r.word w = .error stop) :
    Faulty stop ∨ ∃ q : Inquiry, Asks q w ∧ stop = q.stop ∧ r.trailing = false ∧ ∃ s, r.settle = .ok s := by
  unfold word at h
  split at h
  · exact Or.inl (plain_error hr h)
  · rename_i htrailing
    rw [Bool.not_eq_true] at htrailing
    split at h
    · cases h
    · refine (long_error hr h).imp_right ?_
      rintro ⟨q, rfl, hstop, hs⟩
      exact ⟨q, .name, hstop, htrailing, hs⟩
    · split at h
      · exact Or.inl (plain_error hr h)
      · refine (short_error hr h).imp_right ?_
        rintro ⟨q, n, rest, hw, hstop, hs⟩
        rw [hw]
        exact ⟨q, .letter n rest, hstop, htrailing, hs⟩
    · exact Or.inl (plain_error hr h)

/-! ## Words that are heard -/

/-- A row of wishes for more words is read up to the letter behind it. -/
theorem short_flags_append (hs : r.settle = .ok s) (q : Inquiry) (n : Nat) (rest : Bytes) :
    r.short (flags n ++ Utf8.byte q.letter.toNat :: rest) = .error q.stop := by
  induction n generalizing r s with
  | zero =>
    have hshort : r.short (Utf8.byte q.letter.toNat :: rest) = r.option q.slot none >>= fun r' => r'.short rest := by
      cases q <;> rfl
    rw [flags, List.replicate_zero, List.nil_append, hshort, option_inquiry hs]
    rfl
  | succ n ih =>
    have hshort : r.short (flags (n + 1) ++ Utf8.byte q.letter.toNat :: rest) =
        r.settleAndFill .verbose [] >>= fun r' => r'.short (flags n ++ Utf8.byte q.letter.toNat :: rest) := rfl
    have hfill : r.settleAndFill .verbose [] = s.fill .verbose [] := settleAndFill_of_settle hs .verbose []
    have hsettled := (settle_keeps hs).1
    rw [hshort, hfill, fill_verbose]
    exact ih (settle_of_settled hsettled)

/-- A row of letters is no number. -/
theorem isNumber_letter {c : Char} (hc : c.isDigit = false) (hlt : c.toNat < 0x80) (rest : Bytes) :
    isNumber (Utf8.decode (Utf8.byte c.toNat :: rest)) = false := by
  have hdecode : Utf8.decode (Utf8.byte c.toNat :: rest) = c :: Utf8.decode rest := by
    rw [Utf8.decode, Utf8.decodeFrom_single _ hlt, Char.ofNat_toNat]
    rfl
  simp [hdecode, isNumber, hc]

/-- **A word that asks is heard** where options are read and nothing is wrong with what waits. -/
theorem word_asks {w : Bytes} (h : Asks q w) (hr : r.trailing = false) (hs : r.settle = .ok s) :
    r.word w = .error q.stop := by
  cases h with
  | name =>
    rw [word_nameWord hr (by cases q <;> rfl)]
    exact option_inquiry hs q
  | letter n rest =>
    obtain ⟨c, more, hc, hlt, hdash, hrow⟩ : ∃ (c : Char) (more : Bytes), c.isDigit = false ∧ c.toNat < 0x80 ∧
        Utf8.byte c.toNat ≠ dash ∧ flags n ++ Utf8.byte q.letter.toNat :: rest = Utf8.byte c.toNat :: more := by
      cases n with
      | zero => exact ⟨q.letter, rest, by cases q <;> rfl, by cases q <;> decide, by cases q <;> decide, rfl⟩
      | succ n => exact ⟨'v', _, rfl, by decide, by decide, rfl⟩
    rw [hrow, word_of_dash hr hdash, isNumber_letter hc hlt, if_neg (by simp), ← hrow]
    exact short_flags_append hs q n rest

/-! ## Words that are read -/

theorem option_keeps {value : Option Bytes} (h : r.option slot value = .ok r') :
    r'.Calm ∧ r'.trailing = r.trailing := by
  unfold option at h
  split at h
  · obtain ⟨-, hwaiting, htrailing⟩ := settleAndFill_keeps h
    exact ⟨calm_of_settled hwaiting, htrailing⟩
  · rename_i hvalue
    obtain ⟨hwaiting, htrailing⟩ := settleAndWait_keeps h
    exact ⟨calm_of_waiting hwaiting (Inquiry.slot_ne (Or.inr hvalue)), htrailing⟩
  · obtain ⟨-, hwaiting, htrailing⟩ := settleAndFill_keeps h
    exact ⟨calm_of_settled hwaiting, htrailing⟩

theorem long_keeps {w : Bytes} (h : r.long w = .ok r') : r'.Calm ∧ r'.trailing = r.trailing := by
  unfold long at h
  dsimp only at h
  split at h
  · cases h
  · split at h
    · cases h
    · exact option_keeps h

theorem short_keeps (hr : r.Calm) {w : Bytes} (h : r.short w = .ok r') : r'.Calm ∧ r'.trailing = r.trailing := by
  induction w generalizing r with
  | nil =>
    cases h
    exact ⟨hr, rfl⟩
  | cons b rest ih =>
    rw [short] at h
    split at h
    · cases h
    · split at h
      · exact option_keeps h
      · obtain ⟨r₁, hoption, h⟩ := bind_eq_ok_iff.mp h
        obtain ⟨hcalm, htrailing⟩ := option_keeps hoption
        obtain ⟨hcalm', htrailing'⟩ := ih hcalm h
        exact ⟨hcalm', htrailing'.trans htrailing⟩

theorem plain_keeps (hr : r.Calm) {w : Bytes} (h : r.plain w = .ok r') : r'.Calm ∧ r'.trailing = r.trailing := by
  unfold plain at h
  split at h
  · rename_i slot hwaiting _
    cases h
    exact ⟨fun q words hq => hr q [] (by cases hq; exact hwaiting), rfl⟩
  · split at h
    · obtain ⟨r₁, hwait, h⟩ := bind_eq_ok_iff.mp h
      obtain ⟨hwaiting, htrailing⟩ := settleAndWait_keeps hwait
      cases h
      exact ⟨calm_of_waiting hwaiting (Inquiry.slot_ne (Or.inl rfl)), htrailing⟩
    · obtain ⟨r₁, hwait, h⟩ := bind_eq_ok_iff.mp h
      obtain ⟨hwaiting, htrailing⟩ := settleAndWait_keeps hwait
      cases h
      exact ⟨calm_of_waiting hwaiting (Inquiry.slot_ne (Or.inl rfl)), htrailing⟩
    · cases h
      exact ⟨calm_of_waiting rfl (Inquiry.slot_ne (Or.inl rfl)), rfl⟩
    · obtain ⟨hwaiting, htrailing⟩ := settleAndWait_keeps h
      exact ⟨calm_of_waiting hwaiting (Inquiry.slot_ne (Or.inl rfl)), htrailing⟩

/-- **A word that is read** lets no option that asks wait, and ends the options if it is two dashes alone. -/
theorem word_ok (hr : r.Calm) {w : Bytes} (h : r.word w = .ok r') :
    r'.Calm ∧ (r'.trailing = true ↔ r.trailing = true ∨ w = [dash, dash]) := by
  have hkeeps (hw : w ≠ [dash, dash]) (hsame : r'.Calm ∧ r'.trailing = r.trailing) :
      r'.Calm ∧ (r'.trailing = true ↔ r.trailing = true ∨ w = [dash, dash]) :=
    ⟨hsame.1, by rw [hsame.2, or_iff_left hw]⟩
  unfold word at h
  split at h
  · rename_i htrailing
    obtain ⟨hcalm, hsame⟩ := plain_keeps hr h
    exact ⟨hcalm, by simp [hsame, htrailing]⟩
  · split at h
    · cases h
      exact ⟨hr, by simp [dash]⟩
    · rename_i hno
      exact hkeeps (fun hw => hno (List.tail_eq_of_cons_eq (List.tail_eq_of_cons_eq hw))) (long_keeps h)
    · rename_i b rest hno _
      have hw : dash :: b :: rest ≠ [dash, dash] := by
        rintro hw
        cases hw
        exact hno rfl rfl
      split at h
      · exact hkeeps hw (plain_keeps hr h)
      · exact hkeeps hw (short_keeps hr h)
    · rename_i hno _ _
      exact hkeeps hno (plain_keeps hr h)

/-- **Words that are read** let no option that asks wait; options are read as long as two dashes alone are not among
them. -/
theorem foldlM_word_ok (hr : r.Calm) (h : words.foldlM word r = .ok r') :
    r'.Calm ∧ (r'.trailing = true ↔ r.trailing = true ∨ [dash, dash] ∈ words) := by
  induction words generalizing r with
  | nil =>
    cases h
    exact ⟨hr, by simp⟩
  | cons w words ih =>
    rw [List.foldlM_cons] at h
    obtain ⟨r₁, hword, h⟩ := bind_eq_ok_iff.mp h
    obtain ⟨hcalm, htrailing⟩ := word_ok hr hword
    obtain ⟨hcalm', htrailing'⟩ := ih hcalm h
    refine ⟨hcalm', ?_⟩
    rw [htrailing', htrailing, or_assoc, List.mem_cons, eq_comm (a := w)]

/-- A command line without a path is refused at its end. -/
theorem finish_without_path (hs : r.settle = .ok s) (hpath : s.path = none) :
    r.finish = refuse (.missingPath (shown s.given)) := by
  refine bind_eq_error_iff.mpr (Or.inr ⟨s, hs, ?_⟩)
  rw [hpath]
  rfl

end Reader

/-! ## Command lines -/

open Reader

variable {words : List Bytes}

/-- **A command line is usable** if nothing is wrong with its words. -/
theorem usable_iff : Usable words ↔ ∃ r s, words.foldlM word start = .ok r ∧ r.settle = .ok s := by
  constructor
  · rintro (⟨request, h⟩ | ⟨given, h⟩)
    · obtain ⟨r, hread, h⟩ := bind_eq_ok_iff.mp h
      obtain ⟨s, hs, -⟩ := bind_eq_ok_iff.mp h
      exact ⟨r, s, hread, hs⟩
    · obtain h | ⟨r, hread, h⟩ := bind_eq_error_iff.mp h
      · -- no word fails for the lack of a path
        obtain ⟨before, w, after, r, -, hbefore, hword⟩ := foldlM_eq_error_iff.mp h
        obtain ⟨fault, hfault, hpath⟩ | ⟨q, -, hstop, -⟩ := word_error (foldlM_word_ok calm_start hbefore).1 hword
        · cases hfault
          exact absurd rfl (hpath given)
        · cases q <;> cases hstop
      · obtain h | ⟨s, hs, -⟩ := bind_eq_error_iff.mp h
        · obtain ⟨fault, hfault, hpath⟩ := settle_error (foldlM_word_ok calm_start hread).1 h
          cases hfault
          exact absurd rfl (hpath given)
        · exact ⟨r, s, hread, hs⟩
  · rintro ⟨r, s, hread, hs⟩
    have hwords : Request.ofWords words = r.finish := by
      rw [Request.ofWords, hread]
      rfl
    cases hpath : s.path with
    | none => exact Or.inr ⟨_, hwords.trans (finish_without_path hs hpath)⟩
    | some path => exact Or.inl ⟨_, hwords.trans (finish_of_settle hs hpath)⟩

/-- **When help or the version is asked for**: some word asks for it, two dashes alone do not stand before it, and the
words before it make a request, or do but for a path. -/
theorem ofWords_eq_stop_iff (q : Inquiry) :
    Request.ofWords words = .error q.stop ↔
      ∃ before w after, words = before ++ w :: after ∧ [dash, dash] ∉ before ∧ Usable before ∧ Asks q w := by
  constructor
  · intro h
    obtain h | ⟨r, hread, h⟩ := bind_eq_error_iff.mp h
    · obtain ⟨before, w, after, r, rfl, hbefore, hword⟩ := foldlM_eq_error_iff.mp h
      obtain ⟨hcalm, hdashes⟩ := foldlM_word_ok calm_start hbefore
      obtain ⟨fault, hfault, -⟩ | ⟨q', hasks, hstop, htrailing, s, hs⟩ := word_error hcalm hword
      · cases q <;> cases hfault
      · rw [Inquiry.stop_inj hstop]
        refine ⟨before, w, after, rfl, fun hmem => ?_, usable_iff.mpr ⟨r, s, hbefore, hs⟩, hasks⟩
        rw [hdashes.mpr (Or.inr hmem)] at htrailing
        cases htrailing
    · obtain h | ⟨s, -, h⟩ := bind_eq_error_iff.mp h
      · obtain ⟨fault, hfault, -⟩ := settle_error (foldlM_word_ok calm_start hread).1 h
        cases q <;> cases hfault
      · split at h <;> cases q <;> cases h
  · rintro ⟨before, w, after, rfl, hdashes, husable, hasks⟩
    obtain ⟨r, s, hbefore, hs⟩ := usable_iff.mp husable
    have htrailing : r.trailing = false := by
      rw [Bool.eq_false_iff, ne_eq, (foldlM_word_ok calm_start hbefore).2, not_or]
      exact ⟨Bool.false_ne_true, hdashes⟩
    have hread : (before ++ w :: after).foldlM word start = .error q.stop :=
      foldlM_eq_error_iff.mpr ⟨before, w, after, r, rfl, hbefore, word_asks hasks htrailing hs⟩
    rw [Request.ofWords, hread]
    rfl

end RuleCap.CommandLine
