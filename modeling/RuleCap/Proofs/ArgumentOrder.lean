import RuleCap.Proofs.CommandWords

/-!
# The order of the words of a command line

The words of a command line are put together from `Part`s: a word by its place, an option with its value, or a wish for
more words. `Arranges` says that some parts hold the content of a command line, in any order that keeps the words by
place in theirs; how an option is written, and how many wishes share a word, makes no difference either.

A reader *stands* behind what has been said (`Stands`) if it settles to a reader that holds just that (`Holds`) and no
option waits for its value. Each way to fill a slot keeps what is held (`Holds.fill_place`, `Holds.fill_value`,
`Holds.fill_flag`), so each part is read (`Stands.part`), and so are parts one behind the other (`Stands.parts`), as
long as each word by its place comes where its slot is next (`InOrder`) and no option has two values.

Main statement: `ofWords_of_arranges`.
-/

namespace RuleCap.CommandLine

/-! ## Arrangements -/

/-- A word for a path: it is not empty and begins with no dash. -/
structure PathWord where
  bytes : Path
  ne_nil : bytes ≠ []
  not_dash : bytes.head? ≠ some Reader.dash

/-- A word for a limit: behind a dash it holds only digits. -/
structure LimitWord where
  text : Text
  limit : Limit
  spells : Limit.ofText? text = some limit
  digits : text.head? = some '-' → text.tail.all Char.isDigit = true

/-- A word that is passed over: it is a text and begins with no dash. -/
structure ExtraWord where
  text : Text
  not_dash : text.head? ≠ some '-'

/-- A word that is there by its place. -/
inductive Place
  | path (w : PathWord)
  | limit (w : LimitWord)
  | extra (w : ExtraWord)

namespace Place

/-- The slot that a word by its place fills. -/
@[simp]
def slot : Place → Slot
  | path _ => .path
  | limit _ => .limit
  | extra _ => .ignored

/-- The word as it stands in the command line. -/
@[simp]
def word : Place → Bytes
  | path w => w.bytes
  | limit w => Utf8.encode w.text
  | extra w => Utf8.encode w.text

/-- The slot of the next word by its place. -/
@[simp]
def next : Place → Slot
  | path _ => .limit
  | limit _ => .ignored
  | extra _ => .ignored

@[simp]
def path? : Place → Option Path
  | path w => some w.bytes
  | limit _ => none
  | extra _ => none

@[simp]
def limit? : Place → Option Limit
  | path _ => none
  | limit w => some w.limit
  | extra _ => none

@[simp]
def extra? : Place → Option Text
  | path _ => none
  | limit _ => none
  | extra w => some w.text

end Place

/-- Something that a command line says. -/
inductive Item
  | place (p : Place)
  | value (o : Valued) (w : PathWord)
  | flag

namespace Item

@[simp]
def place? : Item → Option Place
  | place p => some p
  | value _ _ => none
  | flag => none

@[simp]
def value? (o : Valued) : Item → Option Path
  | place _ => none
  | value o' w => if o' = o then some w.bytes else none
  | flag => none

@[simp]
def isFlag : Item → Bool
  | place _ => false
  | value _ _ => false
  | flag => true

end Item

/-- The words by place, in order. -/
def places (items : List Item) : List Place := items.filterMap Item.place?

/-- The values of an option. -/
def values (o : Valued) (items : List Item) : List Path := items.filterMap (Item.value? o)

/-- How often more words are wished for. -/
def flagCount (items : List Item) : Nat := items.countP Item.isFlag

theorem places_append (a b : List Item) : places (a ++ b) = places a ++ places b := List.filterMap_append

theorem values_append (o : Valued) (a b : List Item) : values o (a ++ b) = values o a ++ values o b :=
  List.filterMap_append

/-- How an option is written with its value. -/
inductive Writing
  | letter
  | name
  | joined

/-- Words next to each other that say something together. -/
inductive Part
  | place (p : Place)
  | option (o : Valued) (writing : Writing) (w : PathWord)
  | verbose
  /-- A letter, and more of the same in one word. -/
  | flags (more : Nat)

namespace Part

/-- What is said, thing by thing. -/
@[simp]
def items : Part → List Item
  | place p => [.place p]
  | option o _ w => [.value o w]
  | verbose => [.flag]
  | flags more => List.replicate (more + 1) .flag

/-- The words that say it. -/
@[simp]
def words : Part → List Bytes
  | place p => [p.word]
  | option o .letter w => [Reader.letterWord o, w.bytes]
  | option o .name w => [Reader.nameWord o.slot, w.bytes]
  | option o .joined w => [Reader.nameWord o.slot ++ Reader.equals :: w.bytes]
  | verbose => [Reader.nameWord .verbose]
  | flags more => [Reader.dash :: Reader.flags (more + 1)]

end Part

/-- The content of a command line, apart from the order of its words. -/
structure Content where
  path : PathWord
  /-- A limit, and behind it the words that are passed over. -/
  behind : Option (LimitWord × List ExtraWord)
  config : Option PathWord
  output : Option PathWord
  flagCount : Nat

namespace Content

/-- The words by their place, in order. -/
def places (c : Content) : List Place :=
  .path c.path :: (c.behind.elim [] fun b => .limit b.1 :: b.2.map .extra)

/-- The value of an option, if it has one. -/
def value (c : Content) : Valued → Option PathWord
  | .config => c.config
  | .output => c.output

end Content

/-- The parts say the content, in any order that keeps the words by place in theirs. -/
structure Arranges (parts : List Part) (c : Content) : Prop where
  places : places (parts.flatMap Part.items) = c.places
  values : ∀ o, values o (parts.flatMap Part.items) = ((c.value o).map PathWord.bytes).toList
  flagCount : flagCount (parts.flatMap Part.items) = c.flagCount

theorem Content.filterMap_places (c : Content) :
    c.places.filterMap Place.path? = [c.path.bytes] ∧
      c.places.filterMap Place.limit? = (c.behind.map (·.1.limit)).toList ∧
      c.places.filterMap Place.extra? = (c.behind.elim [] fun b => b.2.map ExtraWord.text) := by
  unfold places
  cases c.behind with
  | none => exact ⟨rfl, rfl, rfl⟩
  | some b =>
    refine ⟨?_, ?_, ?_⟩
    all_goals simp [List.filterMap_cons, List.filterMap_map, Function.comp_def]

/-- Each word by place comes where its slot is next. -/
def InOrder : Slot → List Place → Prop
  | _, [] => True
  | next, p :: ps => p.slot = next ∧ InOrder p.next ps

theorem Content.inOrder_places (c : Content) : InOrder .path c.places := by
  have hextras : ∀ extras : List ExtraWord, InOrder .ignored (extras.map .extra) := by
    intro extras
    induction extras with
    | nil => trivial
    | cons e extras ih => exact ⟨rfl, ih⟩
  refine ⟨rfl, ?_⟩
  cases c.behind with
  | none => trivial
  | some b => exact ⟨rfl, hextras b.2⟩

namespace Reader

variable {r q : Reader} {items : List Item}

/-! ## What a settled reader holds -/

/-- The reader holds what has been said, and an option is filled only if its value has been said. -/
structure Holds (items : List Item) (q : Reader) : Prop where
  path : q.path = ((places items).filterMap Place.path?).getLast?
  limit : q.limit = ((places items).filterMap Place.limit?).getLast?
  ignored : q.ignored = (places items).filterMap Place.extra?
  value : ∀ o, q.valueOf o = (values o items).getLast?
  verbosity : q.verbosity = min (flagCount items) greatestVerbosity
  given : ∀ o, o.slot ∈ q.given → values o items ≠ []

namespace Holds

theorem start : Holds [] start := by
  refine ⟨rfl, rfl, rfl, fun o => ?_, rfl, fun o ho => ?_⟩
  · cases o <;> rfl
  · cases ho

/-- What is held does not depend on the words to come. -/
theorem turn (h : Holds items q) (waiting : Option (Slot × List Bytes)) (next : Slot) :
    Holds items { q with waiting, next } :=
  ⟨h.path, h.limit, h.ignored, h.value, h.verbosity, h.given⟩

/-- What fills another slot fills no option. -/
theorem given_of_other (h : Holds items q) {slot : Slot} (hslot : ∀ o : Valued, o.slot ≠ slot) {more : List Item}
    (hmore : ∀ o, values o (items ++ more) = values o items) (words : List Bytes) (o : Valued)
    (ho : o.slot ∈ q.givenWith slot words) : values o (items ++ more) ≠ [] := by
  rw [hmore]
  exact h.given o ((mem_givenWith ho).resolve_right (hslot o))

/-- A word by its place. -/
theorem fill_place (h : Holds items q) (p : Place) :
    ∃ q', q.fill p.slot [p.word] = .ok q' ∧ Holds (items ++ [.place p]) q' := by
  have hplaces : places (items ++ [.place p]) = places items ++ [p] := by simp [places]
  have hvalues : ∀ o, values o (items ++ [.place p]) = values o items := by simp [values]
  have hvalue : ∀ o, q.valueOf o = (values o (items ++ [.place p])).getLast? := by
    intro o
    rw [hvalues, h.value]
  have hverbosity : q.verbosity = min (flagCount (items ++ [.place p])) greatestVerbosity := by
    simp [h.verbosity, flagCount]
  have hslot : ∀ o : Valued, o.slot ≠ p.slot := by
    intro o
    cases o <;> cases p <;> nofun
  have hgiven := h.given_of_other hslot hvalues [p.word]
  cases p with
  | path w =>
    refine ⟨_, fill_path q w.ne_nil, ?_, ?_, ?_, hvalue, hverbosity, hgiven⟩
    all_goals simp [hplaces, h.limit, h.ignored]
  | limit w =>
    refine ⟨_, fill_limit q w.spells, ?_, ?_, ?_, hvalue, hverbosity, hgiven⟩
    all_goals simp [hplaces, h.path, h.ignored]
  | extra w =>
    refine ⟨_, fill_ignored q w.text, ?_, ?_, ?_, hvalue, hverbosity, hgiven⟩
    all_goals simp [hplaces, h.path, h.limit, h.ignored]

/-- One more word that is passed over. -/
theorem append_extra (h : Holds items q) (w : ExtraWord) :
    Holds (items ++ [.place (.extra w)]) { q with ignored := q.ignored ++ [w.text] } := by
  refine ⟨?_, ?_, ?_, fun o => (h.value o).trans ?_, ?_, fun o ho => ?_⟩
  · simp [h.path, places]
  · simp [h.limit, places]
  · simp [h.ignored, places]
  · simp [values]
  · simp [h.verbosity, flagCount]
  · simpa [values] using h.given o ho

/-- The value of an option that has none. -/
theorem fill_value (h : Holds items q) {o : Valued} (hfirst : values o items = []) (w : PathWord) :
    ∃ q', q.fill o.slot [w.bytes] = .ok q' ∧ Holds (items ++ [.value o w]) q' := by
  have hplaces : places (items ++ [.value o w]) = places items := by simp [places]
  obtain ⟨hpath, hlimit, hignored, hverbosity, hgiven⟩ := q.withValue_keeps o w.bytes
  refine ⟨_, Reader.fill_value (fun hmem => h.given o hmem hfirst) w.ne_nil, ?_, ?_, ?_, fun o' => ?_, ?_, fun o' => ?_⟩
  · rw [hpath, hplaces, h.path]
  · rw [hlimit, hplaces, h.limit]
  · rw [hignored, hplaces, h.ignored]
  · rw [valueOf_withValue, h.value]
    by_cases ho : o = o' <;> simp [values, ho]
  · simp [hverbosity, h.verbosity, flagCount]
  · rw [hgiven]
    intro hmem
    by_cases ho : o = o'
    · simp [values, ho]
    · have hother : o'.slot ≠ o.slot := by
        cases o <;> cases o' <;> simp_all [Valued.slot]
      simpa [values, ho] using h.given o' ((mem_givenWith hmem).resolve_right hother)

/-- A wish for more words. -/
theorem fill_flag (h : Holds items q) : ∃ q', q.fill .verbose [] = .ok q' ∧ Holds (items ++ [.flag]) q' := by
  have hplaces : places (items ++ [.flag]) = places items := by simp [places]
  have hvalues : ∀ o, values o (items ++ [.flag]) = values o items := by simp [values]
  have hslot : ∀ o : Valued, o.slot ≠ .verbose := by
    intro o
    cases o <;> nofun
  have hgiven := h.given_of_other hslot hvalues []
  refine ⟨_, fill_verbose q, ?_, ?_, ?_, fun o => (h.value o).trans ?_, ?_, hgiven⟩
  · rw [hplaces, ← h.path]
  · rw [hplaces, ← h.limit]
  · rw [hplaces, ← h.ignored]
  · rw [hvalues]
  · simp [h.verbosity, flagCount]
    omega

end Holds

/-! ## Reading words -/

/-- The slot of the next word by place. -/
def nextSlot (items : List Item) : Slot := ((places items).getLast?.map Place.next).getD .path

/-- The reader has read what has been said, and no option waits for its value. -/
structure Stands (items : List Item) (r : Reader) : Prop where
  trailing : r.trailing = false
  next : r.next = nextSlot items
  full : ∀ slot, r.waiting ≠ some (slot, [])
  settles : ∃ q, r.settle = .ok q ∧ Holds items q

theorem nextSlot_place (items : List Item) (p : Place) : nextSlot (items ++ [.place p]) = p.next := by
  simp [nextSlot, places]

theorem nextSlot_append {more : List Item} (h : places more = []) : nextSlot (items ++ more) = nextSlot items := by
  rw [nextSlot, places_append, h, List.append_nil, ← nextSlot]

/-- Of words in order the first has its slot next, and the others stay in order behind it. -/
theorem inOrder_items {p : Part} {rest : List Place} (h : InOrder (nextSlot items) (places p.items ++ rest)) :
    (∀ place ∈ places p.items, place.slot = nextSlot items) ∧ InOrder (nextSlot (items ++ p.items)) rest := by
  have hother (hnone : places p.items = []) :
      (∀ place ∈ places p.items, place.slot = nextSlot items) ∧ InOrder (nextSlot (items ++ p.items)) rest := by
    rw [nextSlot_append hnone]
    rw [hnone] at h ⊢
    exact ⟨nofun, h⟩
  cases p with
  | place p =>
    refine ⟨?_, ?_⟩
    · intro place hmem
      obtain rfl : place = p := List.mem_singleton.mp hmem
      exact h.1
    · rw [Part.items, nextSlot_place]
      exact h.2
  | option o writing w => exact hother rfl
  | verbose => exact hother rfl
  | flags more => exact hother (by simp [places])

/-- **A word by its place is no option.** -/
theorem word_place (htrailing : r.trailing = false) (p : Place) (hnext : r.next = p.slot) :
    r.word p.word = r.plain p.word := by
  cases p with
  | path w => exact word_of_not_dash w.not_dash
  | limit w => exact word_limit htrailing hnext w.spells w.digits
  | extra w => exact word_of_not_dash (head?_encode_ne_dash w.not_dash)

namespace Stands

theorem start : Stands [] start := ⟨rfl, rfl, nofun, Reader.start, rfl, Holds.start⟩

/-- What waits is read if its slot can be filled with it. -/
theorem of_waiting {words : List Bytes} {slot : Slot} (hwaiting : r.waiting = some (slot, words)) (hne : words ≠ [])
    (htrailing : r.trailing = false) (hnext : r.next = nextSlot items)
    (hfill : ∃ q, { r with waiting := none }.fill slot words = .ok q ∧ Holds items q) : Stands items r := by
  refine ⟨htrailing, hnext, fun slot' hempty => ?_, ?_⟩
  · rw [hwaiting, Option.some.injEq, Prod.mk.injEq] at hempty
    exact hne hempty.2
  · rwa [settle, hwaiting]

/-- **A word by its place is read.** -/
theorem place (h : Stands items r) (p : Place) (hp : p.slot = nextSlot items) :
    ∃ r', r.word p.word = .ok r' ∧ Stands (items ++ [.place p]) r' := by
  have hnext : r.next = p.slot := h.next.trans hp.symm
  have hafter : p.next = nextSlot (items ++ [.place p]) := (nextSlot_place items p).symm
  obtain ⟨q, hq, hholds⟩ := h.settles
  obtain ⟨-, hqnext, hqtrailing⟩ := settle_keeps hq
  have htrailing : q.trailing = false := hqtrailing.trans h.trailing
  have hone : [p.word] ≠ [] := List.cons_ne_nil _ _
  have hfill := fun next => (hholds.turn none next).fill_place p
  rw [word_place h.trailing p hnext]
  cases p with
  | path w =>
    exact ⟨_, plain_path h.full hq _ hnext, of_waiting rfl hone htrailing hafter (hfill _)⟩
  | limit w =>
    exact ⟨_, plain_limit h.full hq _ hnext, of_waiting rfl hone htrailing hafter (hfill _)⟩
  | extra w =>
    by_cases hfirst : ∀ words, r.waiting ≠ some (.ignored, words)
    · exact ⟨_, plain_ignored h.full hq _ hnext hfirst,
        of_waiting rfl hone htrailing ((hqnext.trans hnext).trans hafter) (hfill _)⟩
    · -- the words before it have not been looked at either
      simp only [not_forall, not_not] at hfirst
      obtain ⟨words, hwaiting⟩ := hfirst
      have hne : words ≠ [] := by
        rintro rfl
        exact h.full _ hwaiting
      have hold : { r with waiting := none }.fill .ignored words = .ok q := by
        rw [← hq, settle, hwaiting]
      exact ⟨_, plain_ignored_again hnext hwaiting hne _,
        of_waiting rfl (by simp) h.trailing (hnext.trans hafter)
          ⟨_, fill_ignored_append hold w.text, hholds.append_extra w⟩⟩

/-- What is filled at once is read. -/
theorem settleAndFill (h : Stands items r) {slot : Slot} {words : List Bytes} {item : Item}
    (hfill : ∀ q, Holds items q → ∃ q', q.fill slot words = .ok q' ∧ Holds (items ++ [item]) q')
    (hnext : nextSlot (items ++ [item]) = nextSlot items) :
    ∃ r', r.settleAndFill slot words = .ok r' ∧ Stands (items ++ [item]) r' := by
  obtain ⟨q, hq, hholds⟩ := h.settles
  obtain ⟨q', hq', hholds'⟩ := hfill q hholds
  obtain ⟨hwaiting, hqnext, hqtrailing⟩ := settle_keeps hq
  obtain ⟨hwaiting', hqnext', hqtrailing'⟩ := fill_keeps hq'
  have hnone : q'.waiting = none := by rw [hwaiting', hwaiting]
  refine ⟨q', by rw [settleAndFill_of_settle hq, hq'], ?_, ?_, ?_, q', ?_, hholds'⟩
  · rw [hqtrailing', hqtrailing, h.trailing]
  · rw [hqnext', hqnext, h.next, hnext]
  · rw [hnone]
    exact nofun
  · rw [settle, hnone]

/-- **A wish for more words is read.** -/
theorem flag (h : Stands items r) : ∃ r', r.settleAndFill .verbose [] = .ok r' ∧ Stands (items ++ [.flag]) r' :=
  h.settleAndFill (fun _ hq => hq.fill_flag) (nextSlot_append rfl)

/-- **A row of wishes for more words is read.** -/
theorem flags (h : Stands items r) (n : Nat) :
    ∃ r', r.short (Reader.flags n) = .ok r' ∧ Stands (items ++ List.replicate n .flag) r' := by
  induction n generalizing items r with
  | zero => exact ⟨r, rfl, by simpa using h⟩
  | succ n ih =>
    obtain ⟨r₁, hr₁, h₁⟩ := h.flag
    obtain ⟨r₂, hr₂, h₂⟩ := ih h₁
    refine ⟨r₂, ?_, ?_⟩
    · rw [short_flags, hr₁]
      exact hr₂
    · rwa [List.append_assoc, List.singleton_append, ← List.replicate_succ] at h₂

/-- The value behind an option is read with it. -/
theorem value_behind (h : Stands items r) {o : Valued} (hfirst : values o items = []) {first : Bytes}
    (hword : r.word first = r.settleAndWait o.slot []) (w : PathWord) :
    ∃ r', [first, w.bytes].foldlM word r = .ok r' ∧ Stands (items ++ [.value o w]) r' := by
  obtain ⟨q, hq, hholds⟩ := h.settles
  obtain ⟨-, hqnext, hqtrailing⟩ := settle_keeps hq
  have htrailing : q.trailing = false := hqtrailing.trans h.trailing
  have hnext : q.next = nextSlot (items ++ [.value o w]) := by rw [hqnext, h.next, nextSlot_append rfl]
  have hoption : [first].foldlM word r = .ok { q with waiting := some (o.slot, []) } := by
    rw [foldlM_word_singleton, hword, settleAndWait_of_settle hq]
  have hvalue : { q with waiting := some (o.slot, []) }.word w.bytes =
      .ok { q with waiting := some (o.slot, [w.bytes]) } := by
    rw [word_of_not_dash w.not_dash]
    refine plain_value ?_ rfl w.bytes
    exact htrailing
  refine ⟨{ q with waiting := some (o.slot, [w.bytes]) }, ?_, ?_⟩
  · rw [← List.singleton_append, foldlM_word_append hoption, foldlM_word_singleton, hvalue]
  · exact of_waiting rfl (List.cons_ne_nil _ _) htrailing hnext ((hholds.turn none q.next).fill_value hfirst w)

/-- **An option is read with its value**, in all its writings. -/
theorem option (h : Stands items r) {o : Valued} (hfirst : values o items = []) (writing : Writing) (w : PathWord) :
    ∃ r', (Part.option o writing w).words.foldlM word r = .ok r' ∧ Stands (items ++ [.value o w]) r' := by
  cases writing with
  | letter => exact h.value_behind hfirst (word_letter h.trailing o) w
  | name => exact h.value_behind hfirst (word_name h.trailing o) w
  | joined =>
    obtain ⟨r', hr', hstands⟩ := h.settleAndFill (fun _ hq => hq.fill_value hfirst w) (nextSlot_append rfl)
    exact ⟨r', by rw [Part.words, foldlM_word_singleton, word_joined h.trailing, hr'], hstands⟩

/-- **Step**: words that say something together are read. -/
theorem part (h : Stands items r) (p : Part) (hplace : ∀ place ∈ places p.items, place.slot = nextSlot items)
    (hfirst : ∀ o, values o p.items ≠ [] → values o items = []) :
    ∃ r', p.words.foldlM word r = .ok r' ∧ Stands (items ++ p.items) r' := by
  cases p with
  | place place =>
    obtain ⟨r', hr', hstands⟩ := h.place place (hplace place (by simp [places]))
    exact ⟨r', by rw [Part.words, foldlM_word_singleton, hr'], hstands⟩
  | option o writing w => exact h.option (hfirst o (by simp [values])) writing w
  | verbose =>
    obtain ⟨r', hr', hstands⟩ := h.flag
    exact ⟨r', by rw [Part.words, foldlM_word_singleton, word_verbose h.trailing, hr'], hstands⟩
  | flags more =>
    obtain ⟨r', hr', hstands⟩ := h.flags (more + 1)
    exact ⟨r', by rw [Part.words, foldlM_word_singleton, word_flags h.trailing, hr'], hstands⟩

/-- **Run**: parts are read one behind the other, if the words by place are in order and no option has two values. -/
theorem parts (h : Stands items r) (ps : List Part)
    (horder : InOrder (nextSlot items) (places (ps.flatMap Part.items)))
    (honce : ∀ o, (values o (items ++ ps.flatMap Part.items)).length ≤ 1) :
    ∃ r', (ps.flatMap Part.words).foldlM word r = .ok r' ∧ Stands (items ++ ps.flatMap Part.items) r' := by
  induction ps generalizing items r with
  | nil => exact ⟨r, rfl, by simpa using h⟩
  | cons p ps ih =>
    have hfirst : ∀ o, values o p.items ≠ [] → values o items = [] := by
      intro o hne
      have hpos := List.length_pos_iff.mpr hne
      have hlength := honce o
      rw [List.flatMap_cons, values_append, values_append, List.length_append, List.length_append] at hlength
      rw [← List.length_eq_zero_iff]
      omega
    rw [List.flatMap_cons, places_append] at horder
    obtain ⟨hplace, hrest⟩ := inOrder_items horder
    obtain ⟨r₁, hr₁, h₁⟩ := h.part p hplace hfirst
    obtain ⟨r₂, hr₂, h₂⟩ := ih h₁ hrest (by simpa using honce)
    refine ⟨r₂, ?_, by simpa using h₂⟩
    rw [List.flatMap_cons, foldlM_word_append hr₁, hr₂]

end Stands

end Reader

section

variable {ps : List Part} {c : Content}

theorem length_values_le (h : Arranges ps c) (o : Valued) :
    (values o (ps.flatMap Part.items)).length ≤ 1 := by
  rw [h.values]
  cases c.value o <;> simp

/-- What is held behind all parts is the content. -/
theorem Arranges.held (h : Arranges ps c) {q : Reader} (hq : Reader.Holds (ps.flatMap Part.items) q) :
    q.path = some c.path.bytes ∧ q.limit = c.behind.map (·.1.limit) ∧
      q.ignored = (c.behind.elim [] fun b => b.2.map ExtraWord.text) ∧
      (∀ o, q.valueOf o = (c.value o).map PathWord.bytes) ∧ q.verbosity = min c.flagCount 255 := by
  obtain ⟨hpaths, hlimits, hextras⟩ := c.filterMap_places
  refine ⟨?_, ?_, ?_, fun o => ?_, ?_⟩
  · rw [hq.path, h.places, hpaths]
    rfl
  · rw [hq.limit, h.places, hlimits]
    cases c.behind <;> rfl
  · rw [hq.ignored, h.places, hextras]
  · rw [hq.value, h.values]
    cases c.value o <;> rfl
  · rw [hq.verbosity, h.flagCount]
    rfl

/-- **The order of the words makes no difference.** Where the words by place are in theirs and each value is next to its
option, the request is that of the content: the path, the limit that its text spells, the words that are passed over in
order, the values, and the number of wishes for more words, as far as it is counted. What is trimmed goes to the output,
or else to the path. -/
theorem ofWords_of_arranges (h : Arranges ps c) :
    ∃ r, Request.ofWords (ps.flatMap Part.words) = .ok r ∧
      r.path = c.path.bytes ∧
      r.limit = c.behind.map (·.1.limit) ∧
      r.ignored = (c.behind.elim [] fun b => b.2.map ExtraWord.text) ∧
      r.config = c.config.map PathWord.bytes ∧
      r.output = c.output.map PathWord.bytes ∧
      r.verbosity = min c.flagCount 255 ∧
      r.outputPath = (c.output.getD c.path).bytes := by
  have horder : InOrder .path (places (ps.flatMap Part.items)) := by
    rw [h.places]
    exact c.inOrder_places
  obtain ⟨r, hr, hstands⟩ := Reader.Stands.start.parts ps horder (length_values_le h)
  obtain ⟨q, hq, hholds⟩ := hstands.settles
  obtain ⟨hpath, hlimit, hignored, hvalue, hverbosity⟩ := h.held hholds
  have hrequest : Request.ofWords (ps.flatMap Part.words) =
      .ok ⟨c.path.bytes, q.limit, q.ignored, q.config, q.output, q.verbosity⟩ := by
    rw [Request.ofWords, hr]
    exact Reader.finish_of_settle hq hpath
  have houtput : q.output = c.output.map PathWord.bytes := hvalue .output
  refine ⟨_, hrequest, rfl, hlimit, hignored, hvalue .config, houtput, hverbosity, ?_⟩
  rw [Request.outputPath, houtput]
  cases c.output <;> rfl

end

/-- Options before, between and behind the other words: the limit is no option, and the words that are passed over go on
behind one. -/
theorem ofWords_of_scattered_options :
    let words := ["-v", "l", "--config=t", "-3", "less", "-o", "out", "more", "--verbose", "-vv"]
    ∃ r, Request.ofWords (words.map fun word => Utf8.encode word.toList) = .ok r ∧
      r.limit = some ⟨-3⟩ ∧ r.ignored = ["less".toList, "more".toList] ∧ r.verbosity = 4 := by
  intro words
  let path : PathWord := ⟨[0x6C], by decide, by decide⟩
  let config : PathWord := ⟨[0x74], by decide, by decide⟩
  let output : PathWord := ⟨[0x6F, 0x75, 0x74], by decide, by decide⟩
  let limit : LimitWord := ⟨"-3".toList, ⟨-3⟩, by decide, by decide⟩
  let less : ExtraWord := ⟨"less".toList, by decide⟩
  let more : ExtraWord := ⟨"more".toList, by decide⟩
  have h : Arranges
      [.flags 0, .place (.path path), .option .config .joined config, .place (.limit limit), .place (.extra less),
        .option .output .letter output, .place (.extra more), .verbose, .flags 1]
      ⟨path, some (limit, [less, more]), some config, some output, 4⟩ :=
    ⟨rfl, fun o => by cases o <;> rfl, rfl⟩
  obtain ⟨r, hr, -, hlimit, hignored, -, -, hverbosity, -⟩ := ofWords_of_arranges h
  exact ⟨r, hr, hlimit, hignored, hverbosity⟩

end RuleCap.CommandLine
