import RuleCap.Proofs.Fallible
import RuleCap.Proofs.LimitWord

/-!
# The words of a command line

What waits in a reader is looked at with the next word, so a reader is followed through the one that it settles to. What
a reader knows of the words to come is the same for both (`settle_keeps`); a slot is filled in the settled one
(`settleAndFill_of_settle`), and words wait in it (`settleAndWait_of_settle`).

A word by its place waits for its slot (`plain_path`, `plain_limit`, `plain_ignored`), or goes on with a row of words
that are passed over (`plain_ignored_again`). A text that is taken for a limit is no option (`word_limit`). An option
with a value can be written in three ways: its letter or its name with the value behind it (`word_letter`, `word_name`,
`plain_value`), or its name with the value behind an equality sign (`word_joined`). A wish for more words is a name
(`word_verbose`) or a row of letters, each of which counts (`word_flags`, `short_flags`).
-/

namespace RuleCap.CommandLine

/-- The options that take a value. -/
inductive Valued
  | config
  | output
deriving DecidableEq, Repr

namespace Valued

/-- The slot of an option. -/
def slot : Valued → Slot
  | config => .config
  | output => .output

/-- The letter of an option. -/
def letter : Valued → Char
  | config => 'c'
  | output => 'o'

end Valued

namespace Reader

variable {r r' q : Reader} {slot : Slot} {words : List Bytes}

/-! ## Settling -/

/-- Filling a slot changes nothing about the words to come. -/
theorem fill_keeps (h : r.fill slot words = .ok r') :
    r'.waiting = r.waiting ∧ r'.next = r.next ∧ r'.trailing = r.trailing := by
  unfold fill at h
  split at h
  · cases h
  · cases slot with
    | verbose =>
      cases h
      exact ⟨rfl, rfl, rfl⟩
    | help => cases h
    | version => cases h
    | _ =>
      obtain ⟨_, -, h⟩ := bind_eq_ok_iff.mp h
      cases h
      exact ⟨rfl, rfl, rfl⟩

/-- A settled reader waits for nothing and goes on as before. -/
theorem settle_keeps (h : r.settle = .ok q) : q.waiting = none ∧ q.next = r.next ∧ q.trailing = r.trailing := by
  unfold settle at h
  split at h
  · rename_i hwaiting
    cases h
    exact ⟨hwaiting, rfl, rfl⟩
  · exact fill_keeps h

theorem settleAndFill_of_settle (h : r.settle = .ok q) (slot : Slot) (words : List Bytes) :
    r.settleAndFill slot words = q.fill slot words := by
  rw [settleAndFill, h]
  rfl

theorem settleAndWait_of_settle (h : r.settle = .ok q) (slot : Slot) (words : List Bytes) :
    r.settleAndWait slot words = .ok { q with waiting := some (slot, words) } := by
  rw [settleAndWait, h]
  rfl

/-- Only the slot itself is filled with it. -/
theorem mem_givenWith {other : Slot} (h : other ∈ r.givenWith slot words) : other ∈ r.given ∨ other = slot := by
  unfold givenWith at h
  repeat' split at h
  all_goals simp_all
  exact h.imp_left And.left

/-! ## Filling -/

theorem fill_path (q : Reader) {path : Path} (hne : path ≠ []) :
    q.fill .path [path] = .ok { q with given := q.givenWith .path [path], path := some path } := by
  obtain ⟨b, rest, rfl⟩ := List.exists_cons_of_ne_nil hne
  rfl

theorem fill_limit (q : Reader) {t : Text} {l : Limit} (h : Limit.ofText? t = some l) :
    q.fill .limit [Utf8.encode t] =
      .ok { q with given := q.givenWith .limit [Utf8.encode t], limit := some l } := by
  have hvalue : limitValue (Utf8.encode t) = .ok l := by
    refine bind_eq_ok_iff.mpr ⟨t, textValue_encode t, ?_⟩
    rw [h]
  show (limitValue (Utf8.encode t)).bind _ = _
  rw [hvalue]
  rfl

theorem fill_ignored (q : Reader) (t : Text) :
    q.fill .ignored [Utf8.encode t] =
      .ok { q with given := q.givenWith .ignored [Utf8.encode t], ignored := q.ignored ++ [t] } := by
  have hwords : [Utf8.encode t].mapM textValue = .ok [t] := by
    rw [List.mapM_cons, textValue_encode]
    rfl
  show ([Utf8.encode t].mapM textValue).bind _ = _
  rw [hwords]
  rfl

theorem fill_verbose (q : Reader) :
    q.fill .verbose [] =
      .ok { q with
        given := q.givenWith .verbose []
        verbosity := min (q.verbosity + 1) greatestVerbosity } := rfl

/-- One more word that is passed over. -/
theorem fill_ignored_append {ws : List Bytes} (h : r.fill .ignored ws = .ok q) (t : Text) :
    r.fill .ignored (ws ++ [Utf8.encode t]) = .ok { q with ignored := q.ignored ++ [t] } := by
  obtain ⟨ts, hts, hq⟩ := bind_eq_ok_iff.mp (h : ws.mapM textValue >>= _ = _)
  cases hq
  have hwords : (ws ++ [Utf8.encode t]).mapM textValue = .ok (ts ++ [t]) := by
    rw [List.mapM_append, hts, List.mapM_cons, textValue_encode]
    rfl
  show ((ws ++ [Utf8.encode t]).mapM textValue).bind _ = _
  rw [hwords, List.append_assoc]
  rfl

/-- The value of an option. -/
def valueOf (r : Reader) : Valued → Option Path
  | .config => r.config
  | .output => r.output

/-- The reader with the value of an option. -/
def withValue (q : Reader) (o : Valued) (value : Path) : Reader :=
  let q' := { q with given := q.givenWith o.slot [value] }
  match o with
  | .config => { q' with config := some value }
  | .output => { q' with output := some value }

section WithValue

variable (q : Reader) (o o' : Valued) (value : Path)

theorem valueOf_withValue : (q.withValue o value).valueOf o' = if o = o' then some value else q.valueOf o' := by
  cases o <;> cases o' <;> rfl

/-- Only the option itself has changed. -/
theorem withValue_keeps :
    (q.withValue o value).path = q.path ∧ (q.withValue o value).limit = q.limit ∧
      (q.withValue o value).ignored = q.ignored ∧ (q.withValue o value).verbosity = q.verbosity ∧
      (q.withValue o value).given = q.givenWith o.slot [value] := by
  cases o <;> exact ⟨rfl, rfl, rfl, rfl, rfl⟩

end WithValue

/-- An option is filled if it was not before. -/
theorem fill_value {o : Valued} (hfree : o.slot ∉ q.given) {value : Path} (hne : value ≠ []) :
    q.fill o.slot [value] = .ok (q.withValue o value) := by
  obtain ⟨b, rest, rfl⟩ := List.exists_cons_of_ne_nil hne
  rw [fill, if_neg fun h => hfree (List.contains_iff_mem.mp h.2.2)]
  cases o <;> rfl

/-! ## Words by their place -/

section Plain

variable (hfull : ∀ slot, r.waiting ≠ some (slot, [])) (hq : r.settle = .ok q) (w : Bytes)

include hfull hq

theorem plain_path (hnext : r.next = .path) :
    r.plain w = .ok { q with waiting := some (.path, [w]), next := .limit } := by
  unfold plain
  split
  · rename_i hwaiting _
    exact absurd hwaiting (hfull _)
  · rw [hnext]
    show (r.settleAndWait .path [w]).bind _ = _
    rw [settleAndWait_of_settle hq]
    rfl

theorem plain_limit (hnext : r.next = .limit) :
    r.plain w = .ok { q with waiting := some (.limit, [w]), next := .ignored } := by
  unfold plain
  split
  · rename_i hwaiting _
    exact absurd hwaiting (hfull _)
  · rw [hnext]
    show (r.settleAndWait .limit [w]).bind _ = _
    rw [settleAndWait_of_settle hq]
    rfl

/-- A word that is passed over, the first of a row. -/
theorem plain_ignored (hnext : r.next = .ignored) (hfirst : ∀ words, r.waiting ≠ some (.ignored, words)) :
    r.plain w = .ok { q with waiting := some (.ignored, [w]) } := by
  unfold plain
  split
  · rename_i hwaiting _
    exact absurd hwaiting (hfull _)
  · rw [hnext]
    split
    · rename_i heq
      cases heq
    · rename_i heq
      cases heq
    · rename_i hwaiting _ _
      exact absurd hwaiting (hfirst _)
    · exact settleAndWait_of_settle hq .ignored [w]

end Plain

/-- A word that is passed over, behind others. -/
theorem plain_ignored_again (hnext : r.next = .ignored) (hwaiting : r.waiting = some (.ignored, words))
    (hne : words ≠ []) (w : Bytes) : r.plain w = .ok { r with waiting := some (.ignored, words ++ [w]) } := by
  obtain ⟨b, rest, rfl⟩ := List.exists_cons_of_ne_nil hne
  rw [plain, hwaiting, hnext]

/-- The word behind an option that waits is its value. -/
theorem plain_value (hr : r.trailing = false) (hwaiting : r.waiting = some (slot, [])) (w : Bytes) :
    r.plain w = .ok { r with waiting := some (slot, [w]) } := by
  rw [plain, hwaiting, hr]

/-- **A text for a limit is no option**, not even digits with a dash in front, where a limit is to come. -/
theorem word_limit (hr : r.trailing = false) (hnext : r.next = .limit) {t : Text} {l : Limit}
    (ht : Limit.ofText? t = some l) (hdigits : t.head? = some '-' → t.tail.all Char.isDigit = true) :
    r.word (Utf8.encode t) = r.plain (Utf8.encode t) := by
  by_cases hminus : t.head? = some '-'
  · obtain ⟨rest, rfl⟩ : ∃ rest, t = '-' :: rest := ⟨t.tail, (List.cons_head?_tail hminus).symm⟩
    obtain ⟨d, more, rfl, hd, hclass⟩ := Limit.exists_digit_of_minus ht
    have hnumber : isNumber (d :: more) = true := by
      rw [isNumber_eq_all (List.cons_ne_nil d more) hclass]
      exact hdigits hminus
    rw [word_of_dash_digit hr hd, if_pos ⟨hnext, hnumber⟩]
  · exact word_of_not_dash (head?_encode_ne_dash hminus)

/-! ## Names -/

theorem word_of_dashes (hr : r.trailing = false) {rest : Bytes} (hne : rest ≠ []) :
    r.word (dash :: dash :: rest) = r.long rest := by
  unfold word
  rw [hr, if_neg (by decide)]
  split
  · rename_i heq
    simp_all
  · rename_i heq
    simp_all
  · rename_i hno _ heq
    simp_all [dash]
  · rename_i hno _
    exact absurd rfl (hno _)

/-- A word without an equality sign is a name as a whole. -/
theorem takeWhile_of_plain {name : Bytes} (hplain : equals ∉ name) : name.takeWhile (· ≠ equals) = name := by
  rw [List.takeWhile_eq_self_iff]
  intro b hb
  have hb' : b ≠ equals := ne_of_mem_of_not_mem hb hplain
  simpa using hb'

section Long

variable {name : Bytes} (hslot : (Utf8.decode? name).bind Slot.ofName? = some slot) (hplain : equals ∉ name)

include hslot hplain

/-- A name by itself. -/
theorem long_name : r.long name = r.option slot none := by
  have hvalue : name.contains equals = false := by simpa using hplain
  rw [long, takeWhile_of_plain hplain, hslot, hvalue]
  cases hv : slot.takesValue <;> simp [hv]

/-- A name with a value behind an equality sign. -/
theorem long_joined (hvalue : slot.takesValue = true) (value : Bytes) :
    r.long (name ++ equals :: value) = r.option slot (some value) := by
  have htake : (name ++ equals :: value).takeWhile (· ≠ equals) = name := by
    rw [List.takeWhile_append_of_pos]
    · simp
    · intro b hb
      have hb' : b ≠ equals := ne_of_mem_of_not_mem hb hplain
      simpa using hb'
  have hcontains : (name ++ equals :: value).contains equals = true := by simp
  have hdrop : (name ++ equals :: value).drop (name.length + 1) = value := by simp
  rw [long, htake, hslot, hcontains, if_pos rfl, hdrop]
  simp [hvalue]

end Long

/-- The name of an option behind two dashes. -/
def nameWord (slot : Slot) : Bytes := dash :: dash :: Utf8.encode slot.longName

/-- An option is found by its name, in which there is no equality sign. -/
theorem ofName?_longName (hslot : slot.isPositional = false) :
    (Utf8.decode? (Utf8.encode slot.longName)).bind Slot.ofName? = some slot ∧
      equals ∉ Utf8.encode slot.longName ∧ Utf8.encode slot.longName ≠ [] := by
  revert hslot
  cases slot <;> decide

theorem word_nameWord (hr : r.trailing = false) (hslot : slot.isPositional = false) :
    r.word (nameWord slot) = r.option slot none := by
  obtain ⟨hname, hplain, hne⟩ := ofName?_longName hslot
  rw [nameWord, word_of_dashes hr hne, long_name hname hplain]

/-- **An option by its name** waits for its value. -/
theorem word_name (hr : r.trailing = false) (o : Valued) : r.word (nameWord o.slot) = r.settleAndWait o.slot [] := by
  cases o with
  | config => exact word_nameWord hr rfl
  | output => exact word_nameWord hr rfl

/-- **A wish for more words by its name.** -/
theorem word_verbose (hr : r.trailing = false) : r.word (nameWord .verbose) = r.settleAndFill .verbose [] :=
  word_nameWord hr rfl

/-- **An option by its name, with a value behind an equality sign.** -/
theorem word_joined (hr : r.trailing = false) (o : Valued) (value : Bytes) :
    r.word (nameWord o.slot ++ equals :: value) = r.settleAndFill o.slot [value] := by
  obtain ⟨hname, hplain, -⟩ := ofName?_longName (show o.slot.isPositional = false by cases o <;> rfl)
  have hvalue : o.slot.takesValue = true := by cases o <;> rfl
  have hne : Utf8.encode o.slot.longName ++ equals :: value ≠ [] := by simp
  rw [nameWord, List.cons_append, List.cons_append, word_of_dashes hr hne, long_joined hname hplain hvalue]
  cases o <;> rfl

/-! ## Letters -/

/-- The letter of an option behind a dash. -/
def letterWord (o : Valued) : Bytes := [dash, Utf8.byte o.letter.toNat]

/-- **An option by its letter** waits for its value. -/
theorem word_letter (hr : r.trailing = false) (o : Valued) : r.word (letterWord o) = r.settleAndWait o.slot [] := by
  have hno : isNumber (Utf8.decode [Utf8.byte o.letter.toNat]) = false := by cases o <;> decide
  have hb : Utf8.byte o.letter.toNat ≠ dash := by cases o <;> decide
  rw [letterWord, word_of_dash hr hb, hno, if_neg (by simp)]
  cases o <;> rfl

/-- Wishes for more words, by their letter. -/
def flags (n : Nat) : Bytes := List.replicate n (Utf8.byte 'v'.toNat)

theorem short_flags (n : Nat) :
    r.short (flags (n + 1)) = r.settleAndFill .verbose [] >>= fun r' => r'.short (flags n) := rfl

/-- **A row of wishes for more words** is no number. -/
theorem word_flags (hr : r.trailing = false) (n : Nat) : r.word (dash :: flags (n + 1)) = r.short (flags (n + 1)) := by
  have hno : isNumber (Utf8.decode (flags (n + 1))) = false := rfl
  rw [flags, List.replicate_succ, word_of_dash hr (by decide), ← List.replicate_succ, ← flags, hno, if_neg (by simp)]

/-! ## Reading words -/

theorem foldlM_word_singleton (r : Reader) (w : Bytes) : [w].foldlM word r = r.word w := by
  rw [List.foldlM_cons]
  cases r.word w <;> rfl

theorem foldlM_word_append {ws : List Bytes} (h : ws.foldlM word r = .ok r') (more : List Bytes) :
    (ws ++ more).foldlM word r = more.foldlM word r' := by
  rw [List.foldlM_append, h]
  rfl

/-- At the end there is a request if there is a path. -/
theorem finish_of_settle (hq : r.settle = .ok q) {path : Path} (hpath : q.path = some path) :
    r.finish = .ok ⟨path, q.limit, q.ignored, q.config, q.output, q.verbosity⟩ := by
  refine bind_eq_ok_iff.mpr ⟨q, hq, ?_⟩
  rw [hpath]

end Reader

end RuleCap.CommandLine
