import RuleCap.Proofs.HeaderAndBody
import RuleCap.Proofs.LineSeams

/-!
# Texts of which the rest does not matter

Once a text has a rule, its header is fixed, and lines behind it only go to the body (`Cut.append`). Once it has as many
rules as a limit keeps from the front, rules behind these are cut off (`Limit.slice_append`). So a closed text with both
is trimmed as if nothing came behind it, whatever does (`trimText_stops_early`).
-/

namespace RuleCap

variable {prefixes : Prefixes} {lines header body : List Text}

/-- Lines behind a rule go to the body. -/
theorem Cut.append (h : Cut prefixes lines header body) (hne : body ≠ []) (more : List Text) :
    Cut prefixes (lines ++ more) header (body ++ more) where
  append_eq := by rw [← h.append_eq, List.append_assoc]
  not_rule_header := h.not_rule_header
  rule_head_body := by
    rw [List.head?_append_of_ne_nil _ hne]
    exact h.rule_head_body

/-- Lines with a rule among them have a body. -/
theorem Cut.body_ne_nil (h : Cut prefixes lines header body) (hr : lines.filter (isRule prefixes) ≠ []) :
    body ≠ [] := by
  rintro rfl
  exact hr h.filter_body.symm

/-- What is behind the rules that a limit keeps from the front does not matter to it. -/
theorem Limit.slice_append {α : Type} {l : Limit} (hl : 0 ≤ l.value) {rules : List α}
    (h : l.value.toNat ≤ rules.length) (more : List α) : l.slice (rules ++ more) = l.slice rules := by
  rw [Limit.slice_of_nonneg hl, Limit.slice_of_nonneg hl, List.take_append_of_le_length h]

/-- **A trim may stop early.** If the limit `n` is not negative, and a closed text has at least `n` rules, and one at
least so that its header is over, then whatever comes behind the text changes nothing of the trimmed list, and so of what
is written: not even if it begins with the newline of a carriage return that ends the text. -/
theorem trimText_stops_early (s : Settings) (hs : 0 ≤ s.limit.value) (now : Instant) (t : Text)
    (hend : ∃ c ∈ t.getLast?, isBreak c = true)
    (hrules : max s.limit.value.toNat 1 ≤ ((splitLines t).filter (RuleLine s.prefixes ·)).length) (rest : Text) :
    (trimText s now (t ++ rest)).1 = (trimText s now t).1 ∧
      (trimText s now (t ++ rest)).1.render = (trimText s now t).1.render := by
  simp only [decide_ruleLine] at hrules
  have hclosed : Closed t := fun c hc => by
    obtain ⟨d, hd, hbreak⟩ := hend
    rwa [Option.some.inj (hc.symm.trans hd)]
  obtain ⟨more, hmore⟩ := hclosed.exists_splitLines_append rest
  have hcut := cut_ofText s.prefixes t
  have hbody : (Listing.ofText s.prefixes t).body ≠ [] :=
    hcut.body_ne_nil (List.length_pos_iff.mp (Nat.le_trans (Nat.le_max_right _ 1) hrules))
  -- the header is the same, and the rules of `rest` come behind those of `t`
  have hlisting : Listing.ofText s.prefixes (t ++ rest) =
      ⟨(Listing.ofText s.prefixes t).header, (Listing.ofText s.prefixes t).body ++ more⟩ := by
    rw [ofText_eq_iff, hmore]
    exact hcut.append hbody more
  have hkept : s.limit.slice ((Listing.ofText s.prefixes (t ++ rest)).rules s.prefixes) =
      s.limit.slice ((Listing.ofText s.prefixes t).rules s.prefixes) := by
    rw [rules_ofText, rules_ofText, hmore, List.filter_append]
    exact Limit.slice_append hs (Nat.le_trans (Nat.le_max_left _ 1) hrules) _
  have hsame : (trimText s now (t ++ rest)).1 = (trimText s now t).1 := by
    rw [trimText, trimText, Listing.trim_eq, Listing.trim_eq, hkept, hlisting]
  exact ⟨hsame, by rw [hsame]⟩

/-- A text that ends within a line break and has as many rules as the limit keeps: the rule behind it does not come
in. -/
theorem trimText_stops_within_line_break :
    let s : Settings := ⟨⟨1⟩, Settings.defaultPrefixes⟩
    let now : Instant := ⟨0, 0, by decide⟩
    let t := "! h\r\na\r".toList
    let rest := "\nb\n! c\n".toList
    0 ≤ s.limit.value ∧ (∃ c ∈ t.getLast?, isBreak c = true) ∧
      max s.limit.value.toNat 1 ≤ ((splitLines t).filter (RuleLine s.prefixes ·)).length ∧
      (trimText s now (t ++ rest)).1 = (trimText s now t).1 ∧ (trimText s now (t ++ rest)).1.rules = [['a']] := by
  intro s now t rest
  have hs : 0 ≤ s.limit.value := by decide
  have hend : ∃ c ∈ t.getLast?, isBreak c = true := ⟨'\r', by decide, by decide⟩
  have hrules : max s.limit.value.toNat 1 ≤ ((splitLines t).filter (RuleLine s.prefixes ·)).length := by decide
  have hstop := (trimText_stops_early s hs now t hend hrules rest).1
  refine ⟨hs, hend, hrules, hstop, ?_⟩
  rw [hstop]
  decide

end RuleCap
