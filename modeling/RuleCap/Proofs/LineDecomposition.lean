import Mathlib.Data.List.Chain
import RuleCap.Proofs.LineBreaks
import RuleCap.Text.Position

/-!
# The one way to take a text apart into lines

`Decomposes` says what it is for lines with their terminators to make up a text, without saying how to find them. Every
text has one such decomposition, and it is the one that `breakLines` finds (`decomposes_iff`): existence goes from line
to line, uniqueness from pair to pair (`decomposes_cons_iff`). The lines found by positions are the same, and the text can
be cut at each of these positions (`linesByPosition?_eq`).

Main statement: `splitLines_of_unique_decomposition`.
-/

namespace RuleCap

/-- The text that lines with their terminators make up. -/
def joinLines (lines : List BrokenLine) : Text :=
  lines.flatMap fun line => line.text ++ line.terminator

/-- A pair that ends with a carriage return and a pair of the newline alone would be one line taken for two. -/
def PartsPair (p q : BrokenLine) : Prop :=
  p.terminator = ['\r'] ∧ q.text = [] ∧ q.terminator = ['\n']

/-- **Lines with their terminators make up a text**: each line is unbroken and has what ends a line behind it, but the
last one need not if it is not empty; and no carriage return is parted from its newline. -/
structure Decomposes (t : Text) (lines : List BrokenLine) : Prop where
  joined : joinLines lines = t
  unbroken : ∀ line ∈ lines, Unbroken line.text
  terminated : ∀ line ∈ lines.dropLast, Terminator line.terminator
  last : ∀ line ∈ lines.getLast?, Terminator line.terminator ∨ line.terminator = [] ∧ line.text ≠ []
  whole : lines.IsChain fun p q => ¬PartsPair p q

/-! ## Pair by pair -/

theorem decomposes_nil_iff {t : Text} : Decomposes t [] ↔ t = [] := by
  constructor
  · rintro ⟨rfl, -, -, -, -⟩
    rfl
  · rintro rfl
    exact ⟨rfl, nofun, nofun, nofun, .nil⟩

/-- What all but the last of a list have, and the last one has or makes up for: the first one makes up for it only if it
is the last. -/
theorem forall_dropLast_and_getLast?_cons {α : Type} {ends lacks : α → Prop} {a : α} {l : List α} :
    (∀ b ∈ (a :: l).dropLast, ends b) ∧ (∀ b ∈ (a :: l).getLast?, ends b ∨ lacks b) ↔
      (ends a ∨ lacks a ∧ l = []) ∧ (∀ b ∈ l.dropLast, ends b) ∧ ∀ b ∈ l.getLast?, ends b ∨ lacks b := by
  cases l with
  | nil => simp
  | cons b l =>
    rw [List.dropLast_cons_cons, List.getLast?_cons_cons, List.forall_mem_cons]
    simp [and_assoc]

/-- **A decomposition, one pair at a time.** -/
theorem decomposes_cons_iff {t : Text} {p : BrokenLine} {rest : List BrokenLine} :
    Decomposes t (p :: rest) ↔ ∃ u, t = p.text ++ (p.terminator ++ u) ∧ Unbroken p.text ∧
      (Terminator p.terminator ∨ (p.terminator = [] ∧ p.text ≠ []) ∧ rest = []) ∧
      (∀ q ∈ rest.head?, ¬PartsPair p q) ∧ Decomposes u rest := by
  have hjoin : joinLines (p :: rest) = p.text ++ (p.terminator ++ joinLines rest) := by simp [joinLines]
  constructor
  · rintro ⟨rfl, hu, ht, hl, hw⟩
    obtain ⟨hp, ht, hl⟩ := forall_dropLast_and_getLast?_cons.mp ⟨ht, hl⟩
    rw [List.forall_mem_cons] at hu
    rw [List.isChain_cons] at hw
    exact ⟨joinLines rest, hjoin, hu.1, hp, hw.1, rfl, hu.2, ht, hl, hw.2⟩
  · rintro ⟨u, rfl, hu, hp, hs, rfl, hus, hts, hls, hw⟩
    obtain ⟨ht, hl⟩ := forall_dropLast_and_getLast?_cons.mpr ⟨hp, hts, hls⟩
    exact ⟨hjoin, List.forall_mem_cons.mpr ⟨hu, hus⟩, ht, hl, List.isChain_cons.mpr ⟨hs, hw⟩⟩

/-- A text begins with a newline exactly if its first pair is the newline alone. -/
theorem Decomposes.head?_eq_newline_iff {t : Text} {lines : List BrokenLine} (h : Decomposes t lines) :
    t.head? = some '\n' ↔ ∃ q ∈ lines.head?, q.text = [] ∧ q.terminator = ['\n'] := by
  cases lines with
  | nil =>
    rw [decomposes_nil_iff.mp h]
    simp
  | cons q rest =>
    obtain ⟨u, rfl, hu, hq, -, -⟩ := decomposes_cons_iff.mp h
    simp only [List.head?_cons, Option.mem_some_iff, exists_eq_left']
    constructor
    · intro hn
      cases htext : q.text with
      | nil =>
        rw [htext, List.nil_append] at hn
        obtain ht | ⟨⟨-, hne⟩, -⟩ := hq
        · exact ⟨rfl, ht.eq_newline hn⟩
        · exact absurd htext hne
      | cons c line =>
        -- the first character of a line ends no line
        rw [htext] at hu hn
        rw [Option.some.inj hn] at hu
        exact absurd (unbroken_cons.mp hu).1 (by decide)
    · rintro ⟨htext, hterm⟩
      rw [htext, hterm]
      rfl

/-! ## The decomposition of a text -/

/-- A text has no other decomposition than its lines. -/
theorem Decomposes.eq_breakLines {t : Text} {lines : List BrokenLine} (h : Decomposes t lines) :
    lines = breakLines t := by
  induction lines generalizing t with
  | nil =>
    rw [decomposes_nil_iff.mp h]
    rfl
  | cons p rest ih =>
    obtain ⟨u, rfl, hu, hp, hs, hrest⟩ := decomposes_cons_iff.mp h
    obtain hterm | ⟨⟨hterm, hne⟩, rfl⟩ := hp
    · have hseam : p.terminator = ['\r'] → u.head? ≠ some '\n' := fun hr hn => by
        obtain ⟨q, hq, htext, hnewline⟩ := hrest.head?_eq_newline_iff.mp hn
        exact hs q hq ⟨hr, htext, hnewline⟩
      rw [breakLines_append_of_terminator hterm hseam hu, ih hrest]
    · rw [decomposes_nil_iff.mp hrest, hterm, List.append_nil, List.append_nil, breakLines_of_unbroken hu hne, ← hterm]

/-- The lines of a text are a decomposition. -/
theorem decomposes_breakLines (t : Text) : Decomposes t (breakLines t) := by
  induction t using induction_on_lines with
  | unbroken line hu =>
    by_cases hne : line = []
    · rw [hne]
      exact decomposes_nil_iff.mpr rfl
    · rw [breakLines_of_unbroken hu hne]
      exact decomposes_cons_iff.mpr
        ⟨[], by simp, hu, Or.inr ⟨⟨rfl, hne⟩, rfl⟩, nofun, decomposes_nil_iff.mpr rfl⟩
  | ended line term rest hu hterm hs ih =>
    rw [breakLines_append_of_terminator hterm hs hu]
    refine decomposes_cons_iff.mpr ⟨rest, rfl, hu, Or.inl hterm, fun q hq hparts => ?_, ih⟩
    exact hs hparts.1 (ih.head?_eq_newline_iff.mpr ⟨q, hq, hparts.2⟩)

/-- **A text has one decomposition**: that into its lines. -/
theorem decomposes_iff {t : Text} {lines : List BrokenLine} : Decomposes t lines ↔ lines = breakLines t :=
  ⟨Decomposes.eq_breakLines, fun h => h ▸ decomposes_breakLines t⟩

/-! ## Lines by positions -/

theorem findBreak?_of_unbroken : ∀ {t : Text}, Unbroken t → findBreak? t = none
  | [], _ => rfl
  | c :: t, h => by
    obtain ⟨hc, h⟩ := unbroken_cons.mp h
    simp [findBreak?, hc, findBreak?_of_unbroken h]

/-- The first break stands behind the first line. -/
theorem findBreak?_append {c : Char} (hc : isBreak c = true) (rest : Text) :
    ∀ {line : Text}, Unbroken line → findBreak? (line ++ c :: rest) = some (Utf8.size line, c)
  | [], _ => by simp [findBreak?, hc]
  | d :: line, h => by
    obtain ⟨hd, h⟩ := unbroken_cons.mp h
    simp [findBreak?, hd, findBreak?_append hc rest h]

/-- What ends a line begins with a break, by which the number of its bytes is told. -/
theorem Terminator.exists_break {term rest : Text} (ht : Terminator term)
    (hs : term = ['\r'] → rest.head? ≠ some '\n') :
    ∃ c tail, term ++ rest = c :: tail ∧ isBreak c = true ∧ terminatorSize c (c :: tail) = Utf8.size term := by
  cases ht with
  | @single c hc =>
    refine ⟨c, rest, rfl, hc, ?_⟩
    have hpair : ['\r', '\n'].isPrefixOf (c :: rest) = false := by
      rw [Bool.eq_false_iff, ne_eq, List.isPrefixOf_iff_prefix]
      rintro ⟨more, hmore⟩
      obtain ⟨rfl, rfl⟩ := List.cons.inj hmore
      exact hs rfl rfl
    simp [terminatorSize, hpair]
  | pair => exact ⟨'\r', '\n' :: rest, rfl, by decide, rfl⟩

/-- **The lines by positions are the lines of the text.** -/
theorem linesByPosition?_eq (t : Text) : linesByPosition? t = some (splitLines t) := by
  induction t using induction_on_lines with
  | unbroken line hu =>
    rw [linesByPosition?, findBreak?_of_unbroken hu]
    cases line with
    | nil => rfl
    | cons c line =>
      rw [splitLines_of_unbroken hu (List.cons_ne_nil c line)]
      rfl
  | ended line term rest hu hterm hs ih =>
    obtain ⟨c, tail, htail, hc, hsize⟩ := hterm.exists_break hs
    have hfind : findBreak? (line ++ (term ++ rest)) = some (Utf8.size line, c) := by
      rw [htail, findBreak?_append hc tail hu]
    have hline : Utf8.cutAt? (line ++ (term ++ rest)) (Utf8.size line) = some (line, c :: tail) := by
      rw [htail, Utf8.cutAt?_eq_some_iff]
      exact ⟨rfl, rfl⟩
    have hrest : Utf8.cutAt? (line ++ (term ++ rest)) (Utf8.size line + terminatorSize c (c :: tail)) =
        some (line ++ term, rest) := by
      rw [Utf8.cutAt?_eq_some_iff, Utf8.size_append, hsize]
      exact ⟨List.append_assoc .., rfl⟩
    have hne : (line ++ (term ++ rest)).isEmpty = false := by simp [htail]
    have hlines := splitLines_append_of_terminator hterm hs hu
    rw [linesByPosition?, hne, if_neg Bool.false_ne_true, hfind, hlines]
    simp only [hline]
    -- of the second cut the definition keeps the equation, so it is told by cases
    split
    · rename_i hnone
      rw [hrest] at hnone
      cases hnone
    · rename_i hsome
      rw [hrest] at hsome
      cases hsome
      rw [ih]
      rfl

/-- **The lines of a text are the lines of its one decomposition.** There is one way to write a text as unbroken lines,
each with its terminator; the lines that are found are those. They are also the lines that are found by positions: a
text can be cut only behind a front part with as many bytes, and at each of the positions it can. -/
theorem splitLines_of_unique_decomposition (t : Text) :
    (∃ lines, (∀ other, Decomposes t other ↔ other = lines) ∧ splitLines t = lines.map (·.text)) ∧
      linesByPosition? t = some (splitLines t) ∧
      ∀ u n front back, Utf8.cutAt? u n = some (front, back) ↔ front ++ back = u ∧ Utf8.size front = n :=
  ⟨⟨breakLines t, fun _ => decomposes_iff, rfl⟩, linesByPosition?_eq t, fun _ _ _ _ => Utf8.cutAt?_eq_some_iff⟩

end RuleCap
