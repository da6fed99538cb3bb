import RuleCap.Proofs.LineBreaks

/-!
# Lines of texts put one behind the other

A text is *closed* when nothing is left open at its end: it is empty, or its last character ends a line. The lines of a
closed text with another one behind it are those of the two (`splitLines_append`). The seam may lie within a carriage
return and its newline: then the newline ends no line of its own (`splitLines_append_of_parted`). In both cases what
follows a closed text only adds lines (`Closed.exists_splitLines_append`).
-/

namespace RuleCap

/-- Nothing is left open at the end of the text. -/
def Closed (t : Text) : Prop :=
  ∀ c ∈ t.getLast?, isBreak c = true

theorem closed_iff {t : Text} : Closed t ↔ t.getLast?.all isBreak = true :=
  (Option.all_eq_true isBreak t.getLast?).symm

instance {t : Text} : Decidable (Closed t) := decidable_of_iff _ closed_iff.symm

theorem closed_nil : Closed [] := nofun

/-- What is behind a line has the end of the whole. -/
theorem Closed.rest {line term rest : Text} (h : Closed (line ++ (term ++ rest))) : Closed rest := by
  cases rest with
  | nil => exact closed_nil
  | cons c rest => simpa [Closed] using h

/-- A closed text stays closed behind a line that is ended. -/
theorem Closed.behind {line term rest : Text} (h : Closed rest) (hterm : Terminator term) :
    Closed (line ++ (term ++ rest)) := by
  cases rest with
  | nil =>
    cases hterm with
    | single hc => simpa [Closed] using hc
    | pair => simpa [Closed] using (by decide : isBreak '\n' = true)
  | cons c rest => simpa [Closed] using h

/-- An unbroken text is closed only if it is empty. -/
theorem Unbroken.eq_nil_of_closed {line : Text} (hu : Unbroken line) (h : Closed line) : line = [] := by
  cases hl : line.getLast? with
  | none => exact List.getLast?_eq_none_iff.mp hl
  | some c =>
    have hc := hu c (List.mem_of_getLast? hl)
    rw [h c hl] at hc
    cases hc

/-- **The lines of a closed text and of the text behind it**, where the seam parts no carriage return from its
newline. -/
theorem splitLines_append {a b : Text} (ha : Closed a) (hs : a.getLast? = some '\r' → b.head? ≠ some '\n') :
    splitLines (a ++ b) = splitLines a ++ splitLines b := by
  induction a using induction_on_lines with
  | unbroken line hu =>
    rw [hu.eq_nil_of_closed ha]
    rfl
  | ended line term rest hu hterm hseam ih =>
    have hfirst := splitLines_append_of_terminator hterm hseam hu
    cases rest with
    | nil =>
      have hb : term = ['\r'] → b.head? ≠ some '\n' := fun h => hs (by simp [h])
      rw [List.append_assoc, List.append_assoc, List.nil_append, splitLines_append_of_terminator hterm hb hu, hfirst]
      rfl
    | cons c rest =>
      have hb : term = ['\r'] → (c :: rest ++ b).head? ≠ some '\n' := hseam
      rw [List.append_assoc, List.append_assoc, splitLines_append_of_terminator hterm hb hu, hfirst,
        ih ha.rest (by simpa using hs), List.cons_append]

/-- **A newline behind a closing carriage return** ends no line of its own. -/
theorem splitLines_append_of_parted {a : Text} (ha : a.getLast? = some '\r') (b : Text) :
    splitLines (a ++ '\n' :: b) = splitLines a ++ splitLines b := by
  induction a using induction_on_lines with
  | unbroken line hu => exact absurd (hu '\r' (List.mem_of_getLast? ha)) (by decide)
  | ended line term rest hu hterm hseam ih =>
    have hfirst := splitLines_append_of_terminator hterm hseam hu
    cases rest with
    | nil =>
      cases hterm with
      | @single c hc =>
        -- the carriage return and the newline are one terminator
        obtain rfl : c = '\r' := by simpa using ha
        have hpair : splitLines (line ++ (['\r', '\n'] ++ b)) = line :: splitLines b :=
          splitLines_append_of_terminator .pair (fun h => absurd h (by decide)) hu
        rw [hfirst, List.append_assoc]
        exact hpair
      | pair => exact absurd ha (by simp)
    | cons c rest =>
      have hb : term = ['\r'] → (c :: rest ++ '\n' :: b).head? ≠ some '\n' := hseam
      rw [List.append_assoc, List.append_assoc, splitLines_append_of_terminator hterm hb hu, hfirst,
        ih (by simpa using ha), List.cons_append]

/-- What is put behind a closed text only adds lines. -/
theorem Closed.exists_splitLines_append {a : Text} (ha : Closed a) (b : Text) :
    ∃ more, splitLines (a ++ b) = splitLines a ++ more := by
  by_cases hs : a.getLast? = some '\r' ∧ b.head? = some '\n'
  · obtain ⟨rest, rfl⟩ := List.head?_eq_some_iff.mp hs.2
    exact ⟨_, splitLines_append_of_parted hs.1 rest⟩
  · exact ⟨_, splitLines_append ha fun hr hn => hs ⟨hr, hn⟩⟩

end RuleCap
