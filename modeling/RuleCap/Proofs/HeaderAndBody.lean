import RuleCap.Proofs.KeptCount
import RuleCap.Proofs.LineKinds
import RuleCap.Trim

/-!
# Header, body and the rules kept

`Cut` says how lines are to be cut in two, and there is one such cut: the one that `Listing.ofText` makes
(`ofText_eq_iff`). All rules of a text lie in its body (`Cut.filter_body`), and a trim yields the header, the marker and
the slice of the rules that the limit asks for (`Listing.trim_eq`).

Main statement: `trimText_eq_header_marker_slice`.
-/

namespace RuleCap

/-- The lines are a header without rules, then a body that is empty or begins with a rule. -/
structure Cut (prefixes : Prefixes) (lines header body : List Text) : Prop where
  append_eq : header ++ body = lines
  not_rule_header : ∀ line ∈ header, ¬RuleLine prefixes line
  rule_head_body : ∀ line ∈ body.head?, RuleLine prefixes line

section Cuts

variable {prefixes : Prefixes} {lines header body : List Text}

/-- The cut that a listing makes, told by the test for rules. -/
theorem ofText_eq (prefixes : Prefixes) (t : Text) :
    Listing.ofText prefixes t =
      ⟨(splitLines t).takeWhile (!isRule prefixes ·), (splitLines t).dropWhile (!isRule prefixes ·)⟩ := by
  simp only [Listing.ofText, inHeader_kindOf]

theorem not_isRule_iff {line : Text} : (!isRule prefixes line) = true ↔ ¬RuleLine prefixes line := by
  rw [Bool.not_eq_true', Bool.eq_false_iff, ne_eq, isRule_iff]

/-- The longest run of lines that are no rules, and what follows it, are a cut. -/
theorem cut_takeWhile_dropWhile (prefixes : Prefixes) (lines : List Text) :
    Cut prefixes lines (lines.takeWhile (!isRule prefixes ·)) (lines.dropWhile (!isRule prefixes ·)) where
  append_eq := List.takeWhile_append_dropWhile
  not_rule_header line hl := not_isRule_iff.mp (List.mem_takeWhile_imp (p := (!isRule prefixes ·)) hl)
  rule_head_body line hl := by
    have h := List.head?_dropWhile_not (!isRule prefixes ·) lines
    rw [Option.mem_def.mp hl] at h
    exact isRule_iff.mp (by simpa using h)

/-- **There is one cut**: any other one is the same. -/
theorem cut_iff : Cut prefixes lines header body ↔
    header = lines.takeWhile (!isRule prefixes ·) ∧ body = lines.dropWhile (!isRule prefixes ·) := by
  constructor
  · rintro ⟨rfl, hh, hb⟩
    have hh' : ∀ line ∈ header, (!isRule prefixes line) = true := fun line hl => not_isRule_iff.mpr (hh line hl)
    rw [List.takeWhile_append_of_pos hh', List.dropWhile_append_of_pos hh']
    cases body with
    | nil => simp
    | cons first rest =>
      have hf : isRule prefixes first = true := isRule_iff.mpr (hb first rfl)
      simp [hf]
  · rintro ⟨rfl, rfl⟩
    exact cut_takeWhile_dropWhile prefixes lines

/-- A text is cut in two at its first rule. -/
theorem ofText_eq_iff {t : Text} :
    Listing.ofText prefixes t = ⟨header, body⟩ ↔ Cut prefixes (splitLines t) header body := by
  rw [cut_iff, ofText_eq, Listing.mk.injEq]
  exact and_congr eq_comm eq_comm

theorem cut_ofText (prefixes : Prefixes) (t : Text) :
    Cut prefixes (splitLines t) (Listing.ofText prefixes t).header (Listing.ofText prefixes t).body :=
  ofText_eq_iff.mp rfl

/-- All rules lie in the body. -/
theorem Cut.filter_body (h : Cut prefixes lines header body) :
    body.filter (isRule prefixes) = lines.filter (isRule prefixes) := by
  have hh : header.filter (isRule prefixes) = [] :=
    List.filter_eq_nil_iff.mpr fun line hl hr => h.not_rule_header line hl (isRule_iff.mp hr)
  rw [← h.append_eq, List.filter_append, hh, List.nil_append]

/-- Lines without any rule are all header. -/
theorem Cut.header_eq (h : Cut prefixes lines header body) (hn : ∀ line ∈ lines, ¬RuleLine prefixes line) :
    header = lines := by
  rw [← h.append_eq]
  cases body with
  | nil => exact (List.append_nil _).symm
  | cons first rest => exact absurd (h.rule_head_body first rfl) (hn first (by simp [← h.append_eq]))

end Cuts

/-! ## Trimming -/

variable {prefixes : Prefixes}

/-- The rules of a text are those of its lines. -/
theorem rules_ofText (prefixes : Prefixes) (t : Text) :
    (Listing.ofText prefixes t).rules prefixes = (splitLines t).filter (isRule prefixes) :=
  (cut_ofText prefixes t).filter_body

/-- **What a trim does to a listing**: the lists first, then the tally. -/
theorem Listing.trim_eq (l : Listing) (m : Marker) :
    l.trim prefixes m =
      (⟨l.header, m, m.limit.slice (l.rules prefixes)⟩,
        { headerLines := l.header.length
          rulesFound := (l.rules prefixes).length
          rulesKept := m.limit.keptCount (l.rules prefixes).length
          rulesDiscarded := (l.rules prefixes).length - m.limit.keptCount (l.rules prefixes).length
          bodyLinesDropped := l.body.length - (l.rules prefixes).length }) := by
  simp only [Listing.trim, Limit.take_keptCount, Limit.length_slice]

/-- **A trim by its lines.** There is one cut of the lines of a text into a header without rules and a body that begins
with a rule if there is one. A trim yields that header as it is, the marker, and of all rules of the text the slice that
the limit asks for. What counts as a comment, a blank and a rule is said without the tests that the trim makes. -/
theorem trimText_eq_header_marker_slice (s : Settings) (now : Instant) (t : Text) :
    (∀ line, (kindOf s.prefixes line = .comment ↔ Commented s.prefixes line) ∧
      (kindOf s.prefixes line = .blank ↔ ¬Commented s.prefixes line ∧ AllBlank line) ∧
      (kindOf s.prefixes line = .rule ↔ RuleLine s.prefixes line)) ∧
    ∃ header body rules, (∀ h b, Cut s.prefixes (splitLines t) h b ↔ h = header ∧ b = body) ∧
      rules = (splitLines t).filter (RuleLine s.prefixes ·) ∧ rules = body.filter (RuleLine s.prefixes ·) ∧
      (trimText s now t).1 = ⟨header, ⟨s.limit, now⟩, s.limit.slice rules⟩ ∧
      s.limit.slice rules <+: rules ∧ (rules = [] → header = splitLines t) := by
  refine ⟨fun line => ⟨kindOf_eq_comment_iff, kindOf_eq_blank_iff, kindOf_eq_rule_iff⟩, ?_⟩
  have hc := cut_ofText s.prefixes t
  simp only [decide_ruleLine]
  refine ⟨(Listing.ofText s.prefixes t).header, (Listing.ofText s.prefixes t).body, _, fun h b => ?_, rfl,
    hc.filter_body.symm, ?_, Limit.slice_isPrefix _ _, fun hn => ?_⟩
  · rw [← ofText_eq_iff, ← Listing.mk.injEq, eq_comm]
  · rw [trimText, Listing.trim_eq, rules_ofText]
  · exact hc.header_eq fun line hl hr => List.filter_eq_nil_iff.mp hn line hl (isRule_iff.mpr hr)

end RuleCap
