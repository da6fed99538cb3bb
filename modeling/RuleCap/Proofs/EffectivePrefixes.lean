import RuleCap.Proofs.HeaderAndBody
import RuleCap.Proofs.LineBreaks

/-!
# Prefixes that make no difference

Trims under two lists of prefixes agree on all texts exactly if the lists tell the same rules among the unbroken lines
(`trimText_eq_iff`): the lines of a text are all unbroken, and an unbroken line can stand alone as a text. So a prefix
that holds a character that ends a line marks nothing, and one prefix covers another that begins with it: a list covers
a second one exactly if it marks every unbroken line that the second one marks (`covers_iff`).

Main statement: `trimText_eq_of_covers`.
-/

namespace RuleCap

variable {P Q : Prefixes} {line t : Text}

/-! ## Lists of prefixes that cover each other -/

/-- Every prefix of the second list that can mark a line begins with one of the first list that can. -/
def Covers (P Q : Prefixes) : Prop :=
  ∀ q ∈ Q, q ≠ [] → Unbroken q → ∃ p ∈ P, p ≠ [] ∧ p <+: q

instance : Decidable (Covers P Q) :=
  inferInstanceAs (Decidable (∀ q ∈ Q, q ≠ [] → Unbroken q → ∃ p ∈ P, p ≠ [] ∧ p <+: q))

/-- **What it is to cover**: to mark every unbroken line that the other list marks. -/
theorem covers_iff : Covers P Q ↔ ∀ line, Unbroken line → Commented Q line → Commented P line := by
  constructor
  · rintro h line hu ⟨q, hq, hne, hline⟩
    -- a prefix of an unbroken line is unbroken
    obtain ⟨p, hp, hpne, hpq⟩ := h q hq hne fun c hc => hu c (hline.subset hc)
    exact ⟨p, hp, hpne, hpq.trans hline⟩
  · intro h q hq hne hu
    exact h q hu ⟨q, hq, hne, List.prefix_rfl⟩

/-- Lists that cover each other tell the same rules among unbroken lines. -/
theorem ruleLine_iff_of_covers (hPQ : Covers P Q) (hQP : Covers Q P) (hu : Unbroken line) :
    RuleLine P line ↔ RuleLine Q line := by
  have hcomment : Commented P line ↔ Commented Q line := ⟨covers_iff.mp hQP line hu, covers_iff.mp hPQ line hu⟩
  rw [RuleLine, RuleLine, hcomment]

/-- A prefix that adds nothing to a list: it is empty, or holds a character that ends a line, or begins with a prefix
of the list that is not empty. -/
def Idle (P : Prefixes) (q : Text) : Prop :=
  q = [] ∨ ¬Unbroken q ∨ ∃ p ∈ P, p ≠ [] ∧ p <+: q

/-- A list with more prefixes covers it. -/
theorem covers_of_subset (h : P ⊆ Q) : Covers Q P :=
  fun p hp hne _ => ⟨p, h hp, hne, List.prefix_rfl⟩

/-- A list covers another one of which it lacks only prefixes that add nothing. -/
theorem covers_of_idle (h : ∀ q ∈ Q, q ∈ P ∨ Idle P q) : Covers P Q := by
  intro q hq hne hu
  rcases h q hq with hp | hempty | hbroken | hextends
  · exact ⟨q, hp, hne, List.prefix_rfl⟩
  · exact absurd hempty hne
  · exact absurd hu hbroken
  · exact hextends

/-! ## Trims that agree -/

/-- A listing is trimmed alike where the rules of its body are. -/
theorem Listing.trim_congr {l : Listing} (h : ∀ line ∈ l.body, isRule P line = isRule Q line) (m : Marker) :
    l.trim P m = l.trim Q m := by
  have hrules : l.rules P = l.rules Q := List.filter_congr h
  rw [Listing.trim_eq, Listing.trim_eq, hrules]

/-- A text is cut alike where its rules are. -/
theorem Listing.ofText_congr (h : ∀ line ∈ splitLines t, RuleLine P line ↔ RuleLine Q line) :
    Listing.ofText P t = Listing.ofText Q t := by
  have hcut := cut_ofText Q t
  refine ofText_eq_iff.mpr ⟨hcut.append_eq, fun line hl hr => ?_, fun line hl => ?_⟩
  · have hmem : line ∈ splitLines t := hcut.append_eq ▸ List.mem_append_left _ hl
    exact hcut.not_rule_header line hl ((h line hmem).mp hr)
  · have hmem : line ∈ splitLines t := hcut.append_eq ▸ List.mem_append_right _ (List.mem_of_head? hl)
    exact (h line hmem).mpr (hcut.rule_head_body line hl)

/-- An unbroken line that stands alone is header exactly if it is no rule. -/
theorem header_trimText_of_unbroken (limit : Limit) (now : Instant) (hu : Unbroken line) (hne : line ≠ []) :
    (trimText ⟨limit, P⟩ now line).1.header = [line] ↔ ¬RuleLine P line := by
  have hlines : splitLines line = [line] := splitLines_of_unbroken hu hne
  rw [trimText, Listing.trim_eq, ofText_eq, hlines, ← isRule_iff]
  cases h : isRule P line <;> simp [h]

/-- **Trims agree on all texts exactly if the prefixes tell the same rules among unbroken lines.** -/
theorem trimText_eq_iff :
    (∀ limit now t, trimText ⟨limit, P⟩ now t = trimText ⟨limit, Q⟩ now t) ↔
      ∀ line, Unbroken line → (RuleLine P line ↔ RuleLine Q line) := by
  constructor
  · intro h line hu
    by_cases hne : line = []
    · -- the empty line is never a rule
      exact iff_of_false (fun hr => hr.ne_nil hne) fun hr => hr.ne_nil hne
    · let now : Instant := ⟨0, 0, by decide⟩
      have hP : (trimText ⟨⟨0⟩, P⟩ now line).1.header = [line] ↔ ¬RuleLine P line :=
        header_trimText_of_unbroken ⟨0⟩ now hu hne
      rw [h, header_trimText_of_unbroken ⟨0⟩ now hu hne] at hP
      exact (not_iff_not.mp hP).symm
  · intro h limit now t
    have hlines : ∀ line ∈ splitLines t, RuleLine P line ↔ RuleLine Q line := fun line hl =>
      h line (unbroken_of_mem_splitLines hl)
    rw [trimText, trimText, Listing.ofText_congr hlines]
    refine Listing.trim_congr (fun line hl => ?_) _
    have hmem : line ∈ splitLines t := (cut_ofText Q t).append_eq ▸ List.mem_append_right _ hl
    rw [Bool.eq_iff_iff, isRule_iff, isRule_iff]
    exact hlines line hmem

/-- **Only the prefixes that can mark a line matter.** Under two lists of prefixes that cover each other every trim
yields the same list and the same tally. So it does after prefixes are put in another order, repeated, or added that
are empty, or hold a character that ends a line, or begin with a prefix of the list that is not empty. -/
theorem trimText_eq_of_covers (P Q : Prefixes) :
    (Covers P Q → Covers Q P → ∀ limit now t, trimText ⟨limit, P⟩ now t = trimText ⟨limit, Q⟩ now t) ∧
      (P ⊆ Q → (∀ q ∈ Q, q ∈ P ∨ Idle P q) →
        ∀ limit now t, trimText ⟨limit, P⟩ now t = trimText ⟨limit, Q⟩ now t) := by
  have hcover : Covers P Q → Covers Q P → ∀ limit now t, trimText ⟨limit, P⟩ now t = trimText ⟨limit, Q⟩ now t :=
    fun hPQ hQP => trimText_eq_iff.mpr fun _ hu => ruleLine_iff_of_covers hPQ hQP hu
  exact ⟨hcover, fun hsub hidle => hcover (covers_of_idle hidle) (covers_of_subset hsub)⟩

/-- Two lists of which neither holds the other, with an empty prefix, one of two lines and one longer than another. The
line `ab` is a rule under both and is kept, and the lines with a mark in front are none; without the prefix `#` the line
`#h` is a rule as well, and is kept instead. -/
theorem trimText_eq_under_idle_prefixes :
    let P : Prefixes := [['!'], ['!', 'x'], ['#']]
    let Q : Prefixes := [['#'], [], ['a', '\n', 'b'], ['!']]
    let t := "#h\nab\n!x\nc\n".toList
    let start : Instant := ⟨0, 0, by decide⟩
    (Covers P Q ∧ Covers Q P) ∧ (P ⊆ P ++ Q ∧ ∀ q ∈ P ++ Q, q ∈ P ∨ Idle P q) ∧
      (∀ limit now t, trimText ⟨limit, P⟩ now t = trimText ⟨limit, Q⟩ now t ∧
        trimText ⟨limit, P⟩ now t = trimText ⟨limit, P ++ Q⟩ now t) ∧
      trimText ⟨⟨1⟩, P⟩ start t = (⟨["#h".toList], ⟨⟨1⟩, start⟩, ["ab".toList]⟩, ⟨1, 2, 1, 1, 1⟩) ∧
      trimText ⟨⟨1⟩, Q⟩ start t = (⟨["#h".toList], ⟨⟨1⟩, start⟩, ["ab".toList]⟩, ⟨1, 2, 1, 1, 1⟩) ∧
      ¬Covers [['!']] P ∧
        trimText ⟨⟨1⟩, [['!']]⟩ start t = (⟨[], ⟨⟨1⟩, start⟩, ["#h".toList]⟩, ⟨0, 3, 1, 2, 1⟩) := by
  intro P Q t start
  have hPQ : Covers P Q := by decide
  have hQP : Covers Q P := by decide
  have hsub : P ⊆ P ++ Q := List.subset_append_left P Q
  have hidle : ∀ q ∈ P ++ Q, q ∈ P ∨ Idle P q := by
    unfold Idle
    decide
  have hcover := (trimText_eq_of_covers P Q).1 hPQ hQP
  have hextend := (trimText_eq_of_covers P (P ++ Q)).2 hsub hidle
  have hkept : trimText ⟨⟨1⟩, P⟩ start t =
      (⟨["#h".toList], ⟨⟨1⟩, start⟩, ["ab".toList]⟩, ⟨1, 2, 1, 1, 1⟩) := by decide
  exact ⟨⟨hPQ, hQP⟩, ⟨hsub, hidle⟩, fun limit now t => ⟨hcover limit now t, hextend limit now t⟩, hkept,
    (hcover ⟨1⟩ start t).symm.trans hkept, by decide, by decide⟩

end RuleCap
