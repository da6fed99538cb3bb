import RuleCap.Text.Line

/-!
# Lines written and read back

A line is *unbroken* when no character of it ends a line. A text is cut one line at a time: an unbroken text up to its
terminator is the first line (`breakLines_append_of_terminator`). Every line that `splitLines` cuts is unbroken
(`unbroken_of_mem_splitLines`), and unbroken lines that are written with a newline after each are read back as they
were (`splitLines_unlines`), although the reader knows ten characters that end a line and the writer uses one. Of these
ten only the newline stands in what is written (`eq_newline_of_mem_unlines`), once for every line
(`count_newline_unlines`).
-/

namespace RuleCap

/-- No character of the line ends a line. -/
def Unbroken (line : Text) : Prop :=
  ∀ c ∈ line, isBreak c = false

instance {line : Text} : Decidable (Unbroken line) :=
  decidable_of_iff (line.all (!isBreak ·) = true) (by simp [Unbroken])

theorem unbroken_nil : Unbroken [] := fun _ h => absurd h List.not_mem_nil

@[simp]
theorem unbroken_cons {c : Char} {line : Text} : Unbroken (c :: line) ↔ isBreak c = false ∧ Unbroken line :=
  List.forall_mem_cons

@[simp]
theorem unbroken_append {a b : Text} : Unbroken (a ++ b) ↔ Unbroken a ∧ Unbroken b :=
  List.forall_mem_append

/-! ## Cutting -/

/-- A break ends a line by itself, unless it is a carriage return with a newline behind it. -/
theorem breakLines_break {c : Char} (hc : isBreak c = true) {rest : Text}
    (hs : c = '\r' → rest.head? ≠ some '\n') : breakLines (c :: rest) = ⟨[], [c]⟩ :: breakLines rest := by
  rw [breakLines, if_pos hc]
  rintro rest' rfl rfl
  exact hs rfl rfl

/-- A character that ends no line belongs to the line behind it. -/
theorem breakLines_cons {c : Char} (hc : isBreak c = false) (rest : Text) :
    breakLines (c :: rest) = extendFirst c (breakLines rest) := by
  rw [breakLines, if_neg (by simp [hc])]
  rintro _ rfl
  exact absurd hc (by decide)

/-- What ends a line: a character that does, or a carriage return with a newline. -/
inductive Terminator : Text → Prop
  | single {c : Char} (hc : isBreak c = true) : Terminator [c]
  | pair : Terminator ['\r', '\n']

theorem Terminator.length_pos {term : Text} (ht : Terminator term) : 0 < term.length := by
  cases ht <;> exact Nat.succ_pos _

/-- What ends a line is a newline alone if a newline comes first behind the line. -/
theorem Terminator.eq_newline {term rest : Text} (ht : Terminator term) (h : (term ++ rest).head? = some '\n') :
    term = ['\n'] := by
  cases ht with
  | single hc => rw [Option.some.inj h]
  | pair => exact absurd (Option.some.inj h) (by decide)

/-- **An unbroken text up to what ends it is the first line.** -/
theorem breakLines_append_of_terminator {term rest : Text} (ht : Terminator term)
    (hs : term = ['\r'] → rest.head? ≠ some '\n') :
    ∀ {line : Text}, Unbroken line → breakLines (line ++ (term ++ rest)) = ⟨line, term⟩ :: breakLines rest
  | [], _ => by
    cases ht with
    | single hc => exact breakLines_break hc fun h => hs (by rw [h])
    | pair => rfl
  | c :: line, h => by
    obtain ⟨hc, h⟩ := unbroken_cons.mp h
    rw [List.cons_append, breakLines_cons hc, breakLines_append_of_terminator ht hs h]
    rfl

theorem splitLines_append_of_terminator {line term rest : Text} (ht : Terminator term)
    (hs : term = ['\r'] → rest.head? ≠ some '\n') (hu : Unbroken line) :
    splitLines (line ++ (term ++ rest)) = line :: splitLines rest := by
  rw [splitLines, breakLines_append_of_terminator ht hs hu]
  rfl

/-- An unbroken text is a line that nothing ends. -/
theorem breakLines_of_unbroken : ∀ {line : Text}, Unbroken line → line ≠ [] → breakLines line = [⟨line, []⟩]
  | [], _, hne => absurd rfl hne
  | [c], h, _ => by
    rw [breakLines_cons (unbroken_cons.mp h).1]
    rfl
  | c :: d :: line, h, _ => by
    obtain ⟨hc, h⟩ := unbroken_cons.mp h
    rw [breakLines_cons hc, breakLines_of_unbroken h (List.cons_ne_nil _ _)]
    rfl

theorem splitLines_of_unbroken {line : Text} (h : Unbroken line) (hne : line ≠ []) : splitLines line = [line] := by
  rw [splitLines, breakLines_of_unbroken h hne]
  rfl

/-- A text that is not unbroken has a first line with its terminator. -/
theorem exists_first_line (t : Text) :
    Unbroken t ∨ ∃ line term rest, t = line ++ (term ++ rest) ∧ Unbroken line ∧ Terminator term ∧
      (term = ['\r'] → rest.head? ≠ some '\n') := by
  induction t with
  | nil => exact Or.inl unbroken_nil
  | cons c t ih =>
    by_cases hc : isBreak c = true
    · refine Or.inr ?_
      by_cases hpair : c = '\r' ∧ t.head? = some '\n'
      · obtain ⟨rfl, ht⟩ := hpair
        obtain ⟨rest, rfl⟩ := List.head?_eq_some_iff.mp ht
        exact ⟨[], ['\r', '\n'], rest, rfl, unbroken_nil, .pair, fun h => absurd h (by decide)⟩
      · exact ⟨[], [c], t, rfl, unbroken_nil, .single hc, fun h ht => hpair ⟨List.singleton_inj.mp h, ht⟩⟩
    · rw [Bool.not_eq_true] at hc
      obtain h | ⟨line, term, rest, rfl, hline, hterm, hs⟩ := ih
      · exact Or.inl (unbroken_cons.mpr ⟨hc, h⟩)
      · exact Or.inr ⟨c :: line, term, rest, rfl, unbroken_cons.mpr ⟨hc, hline⟩, hterm, hs⟩

/-- **Induction on the lines of a text**: what holds of unbroken texts, and of a text with a line in front that is ended,
holds of every text. -/
@[elab_as_elim]
theorem induction_on_lines {motive : Text → Prop} (unbroken : ∀ line, Unbroken line → motive line)
    (ended : ∀ line term rest, Unbroken line → Terminator term → (term = ['\r'] → rest.head? ≠ some '\n') →
      motive rest → motive (line ++ (term ++ rest))) (t : Text) : motive t := by
  induction hn : t.length using Nat.strongRecOn generalizing t with
  | ind n ih =>
    subst hn
    obtain hu | ⟨line, term, rest, rfl, hu, hterm, hs⟩ := exists_first_line t
    · exact unbroken t hu
    · have hlt : rest.length < (line ++ (term ++ rest)).length := by
        have := hterm.length_pos
        simp only [List.length_append]
        omega
      exact ended line term rest hu hterm hs (ih _ hlt rest rfl)

/-- A text has no more lines than characters. -/
theorem length_splitLines_le (t : Text) : (splitLines t).length ≤ t.length := by
  induction t using induction_on_lines with
  | unbroken line hu =>
    cases line with
    | nil => exact Nat.le_refl 0
    | cons c line => simp [splitLines_of_unbroken hu (List.cons_ne_nil c line)]
  | ended line term rest hu hterm hs ih =>
    have hpos := hterm.length_pos
    rw [splitLines_append_of_terminator hterm hs hu]
    simp only [List.length_cons, List.length_append]
    omega

/-- The first line after a character is put in front holds it, and the others are as before. -/
theorem unbroken_extendFirst {c : Char} (hc : isBreak c = false) {lines : List BrokenLine}
    (h : ∀ line ∈ lines, Unbroken line.text) : ∀ line ∈ extendFirst c lines, Unbroken line.text := by
  cases lines with
  | nil => simpa [extendFirst, unbroken_nil] using hc
  | cons first rest =>
    rw [List.forall_mem_cons] at h
    rw [extendFirst, List.forall_mem_cons]
    exact ⟨unbroken_cons.mpr ⟨hc, h.1⟩, h.2⟩

theorem unbroken_breakLines (t : Text) : ∀ line ∈ breakLines t, Unbroken line.text := by
  induction t using breakLines.induct with
  | case1 => simp [breakLines]
  | case2 rest ih =>
    rw [breakLines, List.forall_mem_cons]
    exact ⟨unbroken_nil, ih⟩
  | case3 c rest hcr hc ih =>
    rw [breakLines, if_pos hc, List.forall_mem_cons]
    · exact ⟨unbroken_nil, ih⟩
    · exact hcr
  | case4 c rest hcr hc ih =>
    rw [breakLines_cons (by simpa using hc)]
    exact unbroken_extendFirst (by simpa using hc) ih

/-- **No line of a text holds a character that ends a line.** -/
theorem unbroken_of_mem_splitLines {t line : Text} (h : line ∈ splitLines t) : Unbroken line := by
  obtain ⟨broken, hb, rfl⟩ := List.mem_map.mp h
  exact unbroken_breakLines t broken hb

/-! ## Writing and reading back -/

@[simp]
theorem unlines_nil : unlines [] = [] := rfl

@[simp]
theorem unlines_cons (line : Text) (rest : List Text) : unlines (line :: rest) = line ++ '\n' :: unlines rest := by
  simp [unlines]

@[simp]
theorem unlines_append (a b : List Text) : unlines (a ++ b) = unlines a ++ unlines b :=
  List.flatMap_append

/-- An unbroken line up to a newline is the first line. -/
theorem splitLines_append_newline {line : Text} (h : Unbroken line) (rest : Text) :
    splitLines (line ++ '\n' :: rest) = line :: splitLines rest :=
  splitLines_append_of_terminator (.single (by decide)) (fun h => absurd h (by decide)) h

/-- **Unbroken lines are read back as they were written.** -/
theorem splitLines_unlines {lines : List Text} (h : ∀ line ∈ lines, Unbroken line) :
    splitLines (unlines lines) = lines := by
  induction lines with
  | nil => rfl
  | cons line rest ih =>
    rw [List.forall_mem_cons] at h
    rw [unlines_cons, splitLines_append_newline h.1, ih h.2]

/-! ## The newlines of what is written -/

/-- Every character that ends a line in the written text is a newline. -/
theorem eq_newline_of_mem_unlines {lines : List Text} (h : ∀ line ∈ lines, Unbroken line) {c : Char}
    (hc : c ∈ unlines lines) (hb : isBreak c = true) : c = '\n' := by
  obtain ⟨line, hl, hc⟩ := List.mem_flatMap.mp hc
  rcases List.mem_append.mp hc with hc | hc
  · rw [h line hl c hc] at hb
    exact absurd hb (by decide)
  · exact List.mem_singleton.mp hc

theorem Unbroken.newline_not_mem {line : Text} (h : Unbroken line) : '\n' ∉ line :=
  fun hm => absurd (h _ hm) (by decide)

/-- There is one newline for every line. -/
theorem count_newline_unlines {lines : List Text} (h : ∀ line ∈ lines, Unbroken line) :
    (unlines lines).count '\n' = lines.length := by
  induction lines with
  | nil => rfl
  | cons line rest ih =>
    rw [List.forall_mem_cons] at h
    have hline : line.count '\n' = 0 := List.count_eq_zero.mpr h.1.newline_not_mem
    rw [unlines_cons, List.count_append, hline, List.count_cons_self, ih h.2, Nat.zero_add, List.length_cons]

/-- A text written from lines of which the last is not empty ends with one newline and not with two. -/
theorem unlines_ends_with_one_newline {lines : List Text} {last : Text} (hl : lines.getLast? = some last)
    (hu : Unbroken last) (hne : last ≠ []) :
    ∃ front, unlines lines = front ++ ['\n'] ∧ front.getLast? ≠ some '\n' := by
  obtain ⟨front, rfl⟩ := List.getLast?_eq_some_iff.mp hl
  refine ⟨unlines front ++ last, by simp, ?_⟩
  have hlast : (unlines front ++ last).getLast? = last.getLast? := by
    rw [List.getLast?_append, List.getLast?_eq_some_getLast hne, Option.some_or]
  rw [hlast]
  intro h
  exact hu.newline_not_mem (List.mem_of_getLast? h)

end RuleCap
