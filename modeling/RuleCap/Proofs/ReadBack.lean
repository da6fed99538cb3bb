import RuleCap.Proofs.HeaderAndBody
import RuleCap.Proofs.MarkerLine

/-!
# Trimmed lists written and read back

What a trim yields is well-formed (`wellFormed_trimText`): no line holds a character that ends a line, no line of the
header is a rule, and the lines below the marker are rules only. A well-formed list that is written is read back line by
line (`WellFormed.splitLines_render`), and cut in two behind the marker if the marker is a comment
(`WellFormed.ofText_render`), in front of it if it is a rule (`WellFormed.ofText_render_of_rule`).

Main statement: `render_trimText_reads_back`.
-/

namespace RuleCap

/-- A header without rules and rules alone below the marker, all of them unbroken. -/
structure Trimmed.WellFormed (prefixes : Prefixes) (r : Trimmed) : Prop where
  header : ∀ line ∈ r.header, Unbroken line ∧ ¬RuleLine prefixes line
  rules : ∀ line ∈ r.rules, Unbroken line ∧ RuleLine prefixes line

/-- **A trim yields a well-formed list.** -/
theorem wellFormed_trimText (s : Settings) (now : Instant) (t : Text) :
    (trimText s now t).1.WellFormed s.prefixes := by
  have hc := cut_ofText s.prefixes t
  have hu : ∀ line ∈ splitLines t, Unbroken line := fun _ => unbroken_of_mem_splitLines
  rw [← hc.append_eq, List.forall_mem_append] at hu
  rw [trimText, Listing.trim_eq]
  constructor
  · intro line hl
    exact ⟨hu.1 line hl, hc.not_rule_header line hl⟩
  · intro line hl
    obtain ⟨hb, hr⟩ := List.mem_filter.mp ((Limit.slice_isPrefix _ _).subset hl)
    exact ⟨hu.2 line hb, isRule_iff.mp hr⟩

namespace Trimmed.WellFormed

variable {prefixes : Prefixes} {r : Trimmed}

theorem unbroken_lines (h : r.WellFormed prefixes) : ∀ line ∈ r.lines, Unbroken line := by
  rw [Trimmed.lines, List.forall_mem_append, List.forall_mem_cons]
  exact ⟨fun line hl => (h.header line hl).1, r.marker.unbroken_toText, fun line hl => (h.rules line hl).1⟩

/-- **The lines of a list are read back as they were written.** -/
theorem splitLines_render (h : r.WellFormed prefixes) : splitLines r.render = r.lines :=
  splitLines_unlines h.unbroken_lines

/-- The last line is the marker or a rule, and neither is empty. -/
theorem exists_getLast?_lines (h : r.WellFormed prefixes) :
    ∃ last, r.lines.getLast? = some last ∧ Unbroken last ∧ last ≠ [] := by
  have hlast : r.lines.getLast? = (r.marker.toText :: r.rules).getLast? := by
    rw [Trimmed.lines, List.getLast?_append, List.getLast?_cons, Option.some_or]
  rw [hlast, List.getLast?_cons]
  refine ⟨_, rfl, ?_⟩
  cases hr : r.rules.getLast? with
  | none => exact ⟨r.marker.unbroken_toText, r.marker.toText_ne_nil⟩
  | some last =>
    obtain ⟨hu, hrule⟩ := h.rules last (List.mem_of_getLast? hr)
    exact ⟨hu, hrule.ne_nil⟩

/-- Rules alone are a body. -/
theorem rule_of_mem_head?_rules (h : r.WellFormed prefixes) {line : Text} (hl : line ∈ r.rules.head?) :
    RuleLine prefixes line :=
  (h.rules line (List.mem_of_head? hl)).2

/-- The test for rules lets all rules of the list through. -/
theorem filter_rules (h : r.WellFormed prefixes) : r.rules.filter (isRule prefixes) = r.rules :=
  List.filter_eq_self.mpr fun line hl => isRule_iff.mpr (h.rules line hl).2

/-- **If the marker is a comment, it goes to the header** and the rules are the body. -/
theorem ofText_render (h : r.WellFormed prefixes) (hm : Commented prefixes r.marker.toText) :
    Listing.ofText prefixes r.render = ⟨r.header ++ [r.marker.toText], r.rules⟩ := by
  rw [ofText_eq_iff, h.splitLines_render]
  refine ⟨by simp [Trimmed.lines], ?_, fun line hl => h.rule_of_mem_head?_rules hl⟩
  rw [List.forall_mem_append, List.forall_mem_singleton]
  exact ⟨fun line hl => (h.header line hl).2, fun hr => hr.1 hm⟩

/-- **If the marker is a rule, it is the first line of the body.** -/
theorem ofText_render_of_rule (h : r.WellFormed prefixes) (hm : RuleLine prefixes r.marker.toText) :
    Listing.ofText prefixes r.render = ⟨r.header, r.marker.toText :: r.rules⟩ := by
  rw [ofText_eq_iff, h.splitLines_render]
  refine ⟨rfl, fun line hl => (h.header line hl).2, fun line hl => ?_⟩
  obtain rfl : r.marker.toText = line := by simpa using hl
  exact hm

end Trimmed.WellFormed

/-- The number of lines that the tally of a trim gives is that of the lines to write. -/
theorem Listing.outputLines_trim (prefixes : Prefixes) (m : Marker) (l : Listing) :
    (l.trim prefixes m).2.outputLines = (l.trim prefixes m).1.lines.length := by
  simp only [Listing.trim_eq, Tally.outputLines, Trimmed.lines, List.length_append, List.length_cons,
    Limit.length_slice]
  omega

theorem outputLines_trimText (s : Settings) (now : Instant) (t : Text) :
    (trimText s now t).2.outputLines = (trimText s now t).1.lines.length :=
  Listing.outputLines_trim s.prefixes ⟨s.limit, now⟩ _

/-- **What is written is in normal form and is read back exactly.** Of the characters that end a line only the newline
stands in the text; it ends with one newline and not with two; its lines are the header, the marker and the rules; and
there are as many newlines as the tally counts lines. If the marker is a comment, the text is cut in two behind it. -/
theorem render_trimText_reads_back (s : Settings) (now : Instant) (t : Text) :
    let r := (trimText s now t).1
    let tally := (trimText s now t).2
    (∀ c ∈ r.render, isBreak c = true → c = '\n') ∧
      (∃ front, r.render = front ++ ['\n'] ∧ front.getLast? ≠ some '\n') ∧
      splitLines r.render = r.lines ∧ r.lines = r.header ++ [r.marker.toText] ++ r.rules ∧
      r.render.count '\n' = tally.outputLines ∧
      (kindOf s.prefixes r.marker.toText = .comment →
        Listing.ofText s.prefixes r.render = ⟨r.header ++ [r.marker.toText], r.rules⟩) := by
  intro r tally
  have h : r.WellFormed s.prefixes := wellFormed_trimText s now t
  obtain ⟨last, hl, hu, hne⟩ := h.exists_getLast?_lines
  refine ⟨fun c hc hb => eq_newline_of_mem_unlines h.unbroken_lines hc hb, unlines_ends_with_one_newline hl hu hne,
    h.splitLines_render, by simp [Trimmed.lines], ?_, fun hm => h.ofText_render (kindOf_eq_comment_iff.mp hm)⟩
  calc r.render.count '\n' = r.lines.length := count_newline_unlines h.unbroken_lines
    _ = tally.outputLines := (outputLines_trimText s now t).symm

end RuleCap
