import RuleCap.Proofs.ReadBack

/-!
# Every line is accounted for

A tally counts the lines of a listing by what became of them. The rules found are some of the lines of the body
(`length_rules_le`) and the rules kept some of those found, so neither of the two differences that a trim takes falls
below zero, and the counts add up whatever the listing is: its header may hold rules and its body begin with comments.
The lines of a listing that is cut from a text are those of the text (`length_header_add_body`).

Main statement: `tally_accounts_for_every_line`.
-/

namespace RuleCap

variable {prefixes : Prefixes}

namespace Listing

theorem length_rules_le (l : Listing) : (l.rules prefixes).length ≤ l.body.length :=
  List.length_filter_le _ _

/-- The rules of a listing are those lines of its body that are neither comments nor blank. -/
theorem rules_eq (l : Listing) : l.rules prefixes = l.body.filter (RuleLine prefixes ·) := by
  simp only [decide_ruleLine]
  rfl

/-- What is kept and what is discarded are the rules found. -/
theorem kept_add_discarded (l : Listing) (m : Marker) :
    (l.trim prefixes m).2.rulesKept + (l.trim prefixes m).2.rulesDiscarded = (l.trim prefixes m).2.rulesFound := by
  rw [trim_eq]
  exact Nat.add_sub_cancel' (m.limit.keptCount_le _)

/-- The rules found and the lines dropped are the body. -/
theorem found_add_dropped (l : Listing) (m : Marker) :
    (l.trim prefixes m).2.rulesFound + (l.trim prefixes m).2.bodyLinesDropped = l.body.length := by
  rw [trim_eq]
  exact Nat.add_sub_cancel' l.length_rules_le

/-- Header and body have the lines of the text. -/
theorem length_header_add_body (prefixes : Prefixes) (t : Text) :
    (ofText prefixes t).header.length + (ofText prefixes t).body.length = (splitLines t).length := by
  rw [← (cut_ofText prefixes t).append_eq, List.length_append]

end Listing

/-- **The tally accounts for every line.** Of any listing, by any prefixes and any marker: the rules kept are no more
than those found, and these no more than the lines of the body, so that the counts of what is discarded and of what is
dropped are true differences; each count is that of the lines it stands for; header and marker are as given, and the
rules kept are the first of the body's rules, as many as the limit allows. Of a text, the header, the rules kept and
discarded and the lines dropped are all the lines. -/
theorem tally_accounts_for_every_line (prefixes : Prefixes) :
    (∀ (l : Listing) (m : Marker),
      let r := (l.trim prefixes m).1
      let tally := (l.trim prefixes m).2
      (tally.rulesKept ≤ tally.rulesFound ∧ tally.rulesFound ≤ l.body.length) ∧
        tally.rulesKept + tally.rulesDiscarded = tally.rulesFound ∧
        tally.rulesFound + tally.bodyLinesDropped = l.body.length ∧
        tally.headerLines = l.header.length ∧
        tally.rulesFound = (l.body.filter (RuleLine prefixes ·)).length ∧
        tally.rulesKept = r.rules.length ∧ tally.rulesKept = m.limit.keptCount tally.rulesFound ∧
        tally.outputLines = r.lines.length ∧
        r.header = l.header ∧ r.marker = m ∧ r.rules <+: l.body.filter (RuleLine prefixes ·)) ∧
      ∀ (limit : Limit) (now : Instant) (t : Text),
        let tally := (trimText ⟨limit, prefixes⟩ now t).2
        tally.headerLines + tally.rulesKept + tally.rulesDiscarded + tally.bodyLinesDropped = (splitLines t).length := by
  constructor
  · intro l m r tally
    have hkept : tally.rulesKept + tally.rulesDiscarded = tally.rulesFound := l.kept_add_discarded m
    have hfound : tally.rulesFound + tally.bodyLinesDropped = l.body.length := l.found_add_dropped m
    have hrules : r.rules <+: l.body.filter (RuleLine prefixes ·) := by
      rw [← l.rules_eq]
      exact List.take_prefix _ _
    refine ⟨⟨by omega, by omega⟩, hkept, hfound, rfl, ?_, rfl, ?_, l.outputLines_trim prefixes m, rfl, rfl, hrules⟩
    · rw [← l.rules_eq]
      rfl
    · show ((l.rules prefixes).take (m.limit.keptCount (l.rules prefixes).length)).length = _
      rw [Limit.take_keptCount, Limit.length_slice]
      rfl
  · intro limit now t tally
    let l := Listing.ofText prefixes t
    have hkept : tally.rulesKept + tally.rulesDiscarded = tally.rulesFound := l.kept_add_discarded ⟨limit, now⟩
    have hfound : tally.rulesFound + tally.bodyLinesDropped = l.body.length := l.found_add_dropped ⟨limit, now⟩
    have hlines : l.header.length + l.body.length = (splitLines t).length := Listing.length_header_add_body prefixes t
    have hheader : tally.headerLines = l.header.length := rfl
    omega

end RuleCap
