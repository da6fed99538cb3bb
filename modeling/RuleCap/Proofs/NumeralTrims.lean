import RuleCap.Proofs.HeaderAndBody
import RuleCap.Proofs.LineBreaks
import RuleCap.Proofs.MarkerText
import RuleCap.Proofs.WordCount

/-!
# Trims by numerals

A trim goes by a limit, which is an integer. A numeral, as it comes from outside, counts in words of 64 bits and is
shown by its sign and its digits; `Listing.trimByNumeral` is a trim that goes by these. Both are those of the limit
that the numeral denotes, so the two trims write the same lines and count the same (`Listing.trimByNumeral_eq`), as
long as a word holds the number of rules. That it does of every text with no more characters than the greatest word
(`length_rules_ofText_le`).

Main statement: `trimText_eq_trimByNumeral`.
-/

namespace RuleCap

/-! ## Trimming by sign and digits -/

/-- The marker line of a trim by a numeral. -/
def Numeral.markerText (n : Numeral) (now : Instant) : Text :=
  markerLead ++ n.toText ++ " rules on ".toList ++ Marker.timestamp ⟨.ofNumeral n, now⟩ ++ ['Z']

/-- **Trims by a numeral**: the lines to write, among them the numeral as it is, and the tally. The rules kept are
counted in words. -/
def Listing.trimByNumeral (prefixes : Prefixes) (n : Numeral) (now : Instant) (l : Listing) : List Text × Tally :=
  let found := (l.rules prefixes).length
  let kept := (l.rules prefixes).take (n.keptCount found)
  (l.header ++ n.markerText now :: kept,
    { headerLines := l.header.length
      rulesFound := found
      rulesKept := kept.length
      rulesDiscarded := found - kept.length
      bodyLinesDropped := l.body.length - found })

namespace Numeral.Canonical

variable {n : Numeral} (h : n.Canonical)

include h

theorem toText_ofNumeral : (Limit.ofNumeral n).toText = n.toText := by
  rw [Limit.toText_eq, Limit.value_ofNumeral, ← h.eq_ofInt]

/-- The numeral stands in the marker line as the limit that it denotes does. -/
theorem markerText_eq (now : Instant) : n.markerText now = Marker.toText ⟨.ofNumeral n, now⟩ := by
  rw [Numeral.markerText, Marker.toText_eq, h.toText_ofNumeral]

end Numeral.Canonical

/-! ## The two trims -/

variable {prefixes : Prefixes} {n : Numeral}

/-- **A trim by a numeral is the trim by the limit that it denotes**, where a word holds the number of rules. -/
theorem Listing.trimByNumeral_eq (h : n.Canonical) (now : Instant) {l : Listing}
    (hrules : (l.rules prefixes).length ≤ Numeral.greatestWord) :
    l.trimByNumeral prefixes n now =
      ((l.trim prefixes ⟨.ofNumeral n, now⟩).1.lines, (l.trim prefixes ⟨.ofNumeral n, now⟩).2) := by
  have hcount := h.keptCount_eq hrules
  have hmarker := h.markerText_eq now
  simp only [trimByNumeral, trim, Trimmed.lines, hcount, hmarker]

/-- A text has no more rules than characters. -/
theorem length_rules_ofText_le (prefixes : Prefixes) (t : Text) :
    ((Listing.ofText prefixes t).rules prefixes).length ≤ t.length := by
  rw [rules_ofText]
  calc ((splitLines t).filter (isRule prefixes)).length ≤ (splitLines t).length := List.length_filter_le _ _
    _ ≤ t.length := length_splitLines_le t

/-- **Trims may count in words and show sign and digits.** Every limit is denoted by a numeral that a caller can come by.
By any such numeral a trim writes the same lines as by the limit, with the same tally, for all settings and for every
text with no more characters than the greatest word. -/
theorem trimText_eq_trimByNumeral (s : Settings) (now : Instant) {t : Text} (ht : t.length ≤ Numeral.greatestWord) :
    (∃ n : Numeral, n.Obtainable ∧ s.limit = .ofNumeral n) ∧
      ∀ n : Numeral, n.Obtainable → s.limit = .ofNumeral n →
        (Listing.ofText s.prefixes t).trimByNumeral s.prefixes n now =
          ((trimText s now t).1.lines, (trimText s now t).2) := by
  refine ⟨⟨.ofInt s.limit.value, .ofInt _, ?_⟩, fun n hn hlimit => ?_⟩
  · rw [Limit.ofNumeral, Numeral.value_ofInt]
  · have hrules := Nat.le_trans (length_rules_ofText_le s.prefixes t) ht
    rw [Listing.trimByNumeral_eq hn.canonical now hrules, ← hlimit]
    rfl

/-- A numeral that no word holds keeps all rules, and its digits stand in the marker line. -/
example : (Listing.ofText Settings.defaultPrefixes "a\nb".toList).trimByNumeral Settings.defaultPrefixes
    ⟨false, "18446744073709551616".toList⟩ ⟨0, 0, by decide⟩ =
      (["! Trimmed to 18446744073709551616 rules on 1970-01-01T00:00:00Z".toList, ['a'], ['b']],
        ⟨0, 2, 2, 0, 0⟩) := by decide

end RuleCap
