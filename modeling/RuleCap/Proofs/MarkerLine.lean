import RuleCap.Marker
import RuleCap.Proofs.LineBreaks
import RuleCap.Proofs.LineKinds

/-!
# The marker among the lines

A marker stands in the written list as a line like any other. Whatever its limit and its instant, it holds no character
that ends a line (`Marker.unbroken_toText`) and is not blank (`Marker.not_allBlank_toText`), so that it is read back as
one line, a comment or a rule. It begins with `markerLead`: a prefix that begins these words makes it a comment
(`Marker.commented_toText`).
-/

namespace RuleCap

/-! ## Digits -/

theorem isBreak_of_isDigit {c : Char} (h : c.isDigit = true) : isBreak c = false := by
  have hnot : lineBreaks.all (!·.isDigit) = true := by decide
  rw [isBreak, List.contains_eq_mem, decide_eq_false_iff_not]
  intro hm
  have hc := List.all_eq_true.mp hnot c hm
  rw [h] at hc
  cases hc

theorem unbroken_toDigits (n : Nat) : Unbroken (Nat.toDigits 10 n) :=
  fun _ hc => isBreak_of_isDigit (Nat.isDigit_of_mem_toDigits (by decide) (by decide) hc)

theorem unbroken_padded (width n : Nat) : Unbroken (padded width n) := by
  rw [padded, List.leftpad, unbroken_append]
  refine ⟨fun c hc => ?_, unbroken_toDigits n⟩
  rw [List.eq_of_mem_replicate hc]
  decide

/-! ## The parts of a marker -/

theorem Limit.unbroken_toText (l : Limit) : Unbroken l.toText := by
  rw [Limit.toText]
  split
  · exact unbroken_cons.mpr ⟨by decide, unbroken_toDigits _⟩
  · exact unbroken_toDigits _

theorem unbroken_yearText (year : Int) : Unbroken (yearText year) := by
  rw [yearText]
  split
  · exact unbroken_padded _ _
  · refine unbroken_cons.mpr ⟨?_, unbroken_padded _ _⟩
    split <;> decide

theorem Instant.unbroken_dateTime (i : Instant) : Unbroken i.dateTime := by
  have hmark : isBreak '-' = false ∧ isBreak 'T' = false ∧ isBreak ':' = false := by decide
  simp [Instant.dateTime, Date.toText, unbroken_yearText, unbroken_padded, hmark]

theorem Marker.unbroken_timestamp (m : Marker) : Unbroken m.timestamp := by
  rw [Marker.timestamp, unbroken_append]
  refine ⟨m.trimmedAt.unbroken_dateTime, ?_⟩
  split
  · exact unbroken_nil
  · exact unbroken_cons.mpr ⟨by decide, unbroken_padded _ _⟩

/-! ## The marker -/

/-- The words that every marker begins with. -/
def markerLead : Text := "! Trimmed to ".toList

namespace Marker

/-- The parts of a marker. -/
theorem toText_eq (m : Marker) :
    m.toText = markerLead ++ m.limit.toText ++ " rules on ".toList ++ m.timestamp ++ ['Z'] := rfl

theorem lead_isPrefix (m : Marker) : markerLead <+: m.toText := by
  rw [toText_eq, List.append_assoc, List.append_assoc, List.append_assoc]
  exact List.prefix_append _ _

/-- **A marker is one line**, whatever its limit and its instant. -/
theorem unbroken_toText (m : Marker) : Unbroken m.toText := by
  have hlead : Unbroken markerLead := by decide
  have hmid : Unbroken " rules on ".toList := by decide
  have hend : Unbroken ['Z'] := by decide
  simp only [toText_eq, unbroken_append]
  exact ⟨⟨⟨⟨hlead, m.limit.unbroken_toText⟩, hmid⟩, m.unbroken_timestamp⟩, hend⟩

theorem not_allBlank_toText (m : Marker) : ¬AllBlank m.toText := by
  intro h
  have hmem : '!' ∈ m.toText := m.lead_isPrefix.subset (by decide)
  exact absurd (h '!' hmem) (by decide)

theorem toText_ne_nil (m : Marker) : m.toText ≠ [] := by
  intro h
  exact m.not_allBlank_toText (h ▸ fun _ hc => absurd hc List.not_mem_nil)

/-- A marker that is no comment is a rule. -/
theorem ruleLine_toText_iff {prefixes : Prefixes} (m : Marker) :
    RuleLine prefixes m.toText ↔ ¬Commented prefixes m.toText :=
  and_iff_left m.not_allBlank_toText

/-- **A prefix that begins the words of a marker makes every marker a comment.** -/
theorem commented_toText {prefixes : Prefixes} (h : ∃ p ∈ prefixes, p ≠ [] ∧ p <+: markerLead) (m : Marker) :
    Commented prefixes m.toText := by
  obtain ⟨p, hp, hne, hlead⟩ := h
  exact ⟨p, hp, hne, hlead.trans m.lead_isPrefix⟩

end Marker

end RuleCap
