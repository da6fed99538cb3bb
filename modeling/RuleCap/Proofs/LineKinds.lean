import RuleCap.Line

/-!
# Kinds of lines, as the list format states them

`Commented`, `AllBlank` and `RuleLine` say what a comment, a blank and a rule are, without the tests that decide it.
`kindOf` gives the kind so stated (`kindOf_eq_comment_iff`, `kindOf_eq_blank_iff`, `kindOf_eq_rule_iff`), and the
lines that may stand in a header are those that are no rules (`inHeader_kindOf`).
-/

namespace RuleCap

/-- Some prefix that is not empty begins the line. -/
def Commented (prefixes : Prefixes) (line : Text) : Prop :=
  ∃ p ∈ prefixes, p ≠ [] ∧ p <+: line

/-- Every character of the line is white space or one of the four information separators. -/
def AllBlank (line : Text) : Prop :=
  ∀ c ∈ line, isSpace c = true ∨ ('\x1C' ≤ c ∧ c ≤ '\x1F')

/-- The line is neither a comment nor blank. -/
def RuleLine (prefixes : Prefixes) (line : Text) : Prop :=
  ¬Commented prefixes line ∧ ¬AllBlank line

section Tests

variable {prefixes : Prefixes} {line : Text}

theorem isComment_iff : isComment prefixes line = true ↔ Commented prefixes line := by
  simp [isComment, Commented, List.any_eq_true]

/-- The test for blanks, with the separators told as characters. -/
theorem isBlank_iff {c : Char} : isBlank c = true ↔ isSpace c = true ∨ ('\x1C' ≤ c ∧ c ≤ '\x1F') := by
  simp [isBlank, Char.le_def, UInt32.le_iff_toNat_le]

theorem isBlankLine_iff : isBlankLine line = true ↔ AllBlank line := by
  simp only [isBlankLine, AllBlank, List.all_eq_true, isBlank_iff]

/-! ## The kind of a line -/

/-- What `kindOf` decides, in the order in which it decides. -/
theorem kindOf_cases (prefixes : Prefixes) (line : Text) :
    (Commented prefixes line ∧ kindOf prefixes line = .comment) ∨
      (¬Commented prefixes line ∧ AllBlank line ∧ kindOf prefixes line = .blank) ∨
      (RuleLine prefixes line ∧ kindOf prefixes line = .rule) := by
  rw [RuleLine, ← isComment_iff, ← isBlankLine_iff, kindOf]
  cases isComment prefixes line <;> cases isBlankLine line <;> simp

theorem kindOf_eq_comment_iff : kindOf prefixes line = .comment ↔ Commented prefixes line := by
  rcases kindOf_cases prefixes line with ⟨hc, h⟩ | ⟨hc, _, h⟩ | ⟨hr, h⟩
  · simp [h, hc]
  · simp [h, hc]
  · simp [h, hr.1]

/-- A blank line that is also a comment counts as a comment. -/
theorem kindOf_eq_blank_iff : kindOf prefixes line = .blank ↔ ¬Commented prefixes line ∧ AllBlank line := by
  rcases kindOf_cases prefixes line with ⟨hc, h⟩ | ⟨hc, hb, h⟩ | ⟨hr, h⟩
  · simp [h, hc]
  · simp [h, hc, hb]
  · simp [h, hr.2]

theorem kindOf_eq_rule_iff : kindOf prefixes line = .rule ↔ RuleLine prefixes line := by
  rcases kindOf_cases prefixes line with ⟨hc, h⟩ | ⟨_, hb, h⟩ | ⟨hr, h⟩
  · simp [h, RuleLine, hc]
  · simp [h, RuleLine, hb]
  · simp [h, hr]

theorem isRule_iff : isRule prefixes line = true ↔ RuleLine prefixes line := by
  rw [isRule, beq_iff_eq, kindOf_eq_rule_iff]

instance : Decidable (Commented prefixes line) := decidable_of_iff _ isComment_iff

instance : Decidable (RuleLine prefixes line) := decidable_of_iff _ isRule_iff

/-- The test for rules, as a decision. -/
theorem decide_ruleLine : decide (RuleLine prefixes line) = isRule prefixes line := by
  rw [Bool.eq_iff_iff, decide_eq_true_iff, isRule_iff]

/-- Whatever is no rule may stand in a header. -/
theorem inHeader_kindOf : (kindOf prefixes line).inHeader = !isRule prefixes line := by
  rw [isRule]
  cases kindOf prefixes line <;> rfl

/-- A rule is not empty, since an empty line is blank. -/
theorem RuleLine.ne_nil (h : RuleLine prefixes line) : line ≠ [] := by
  rintro rfl
  exact h.2 fun _ hc => absurd hc List.not_mem_nil

end Tests

end RuleCap
