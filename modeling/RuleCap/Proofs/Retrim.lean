import RuleCap.Proofs.ReadBack

/-!
# Trimming again and again

Each step of `retrim` reads what the step before has written. Where the marker is a comment, it joins the header, and
the rules below it are all that is left to trim. So every step of a run is told by the first text alone
(`retrimOutcome`): one step (`trimText_eq_retrimOutcome`, `retrimOutcome_shift`), hence a whole run
(`retrim_eq_mapIdx`).

Where the marker is no comment, it is taken for the first rule. Trimming twice by the same limit then keeps the rules
only if all of them are copies of the marker (`trim_twice_rules_eq_iff`).

Main statements: `retrim_run`, `trim_twice_rules_eq_iff`.
-/

namespace RuleCap

/-! ## What a step yields -/

/-- The markers of steps as lines, in order. -/
def markerLines (steps : List (Limit × Instant)) : List Text :=
  steps.map fun step => (Marker.mk step.1 step.2).toText

/-- The number of rules that steps leave out of `total`. -/
def rulesLeft (steps : List (Limit × Instant)) (total : Nat) : Nat :=
  Limit.leftAfter (steps.map Prod.fst) total

/-- **What step `i` of a run yields**, told from how the first text is cut in two: the header with the markers of the
steps before, its own marker, and as many of the first rules as the limits up to its own leave. Only the first step
meets comments and blanks in the body. -/
def retrimOutcome (prefixes : Prefixes) (first : Listing) (steps : List (Limit × Instant)) (i : Nat)
    (step : Limit × Instant) : Trimmed × Tally :=
  let rules := first.rules prefixes
  let found := rulesLeft (steps.take i) rules.length
  let kept := rulesLeft (steps.take (i + 1)) rules.length
  (⟨first.header ++ markerLines (steps.take i), ⟨step.1, step.2⟩, rules.take kept⟩,
    { headerLines := first.header.length + i
      rulesFound := found
      rulesKept := kept
      rulesDiscarded := found - kept
      bodyLinesDropped := if i = 0 then first.body.length - rules.length else 0 })

variable {prefixes : Prefixes}

/-- The first step. -/
theorem trimText_eq_retrimOutcome (limit : Limit) (now : Instant) (rest : List (Limit × Instant)) (t : Text) :
    trimText ⟨limit, prefixes⟩ now t =
      retrimOutcome prefixes (Listing.ofText prefixes t) ((limit, now) :: rest) 0 (limit, now) := by
  rw [trimText, Listing.trim_eq, ← Limit.take_keptCount]
  simp [retrimOutcome, rulesLeft, markerLines, Limit.leftAfter]

/-- One step more in front lets that much less through. -/
theorem rulesLeft_take_succ (step : Limit × Instant) (rest : List (Limit × Instant)) (i total : Nat) :
    rulesLeft ((step :: rest).take (i + 1)) total = rulesLeft (rest.take i) (step.1.keptCount total) := rfl

theorem rulesLeft_le (steps : List (Limit × Instant)) (total : Nat) : rulesLeft steps total ≤ total :=
  Limit.leftAfter_le _ _

/-- The steps of what the first step has written are the later steps of the first text. -/
theorem retrimOutcome_shift (first : Listing) (limit : Limit) (now : Instant) (rest : List (Limit × Instant)) :
    retrimOutcome prefixes
        ⟨first.header ++ [(Marker.mk limit now).toText], limit.slice (first.rules prefixes)⟩ rest =
      fun i => retrimOutcome prefixes first ((limit, now) :: rest) (i + 1) := by
  funext i step
  have hrules : Listing.rules prefixes
      ⟨first.header ++ [(Marker.mk limit now).toText], limit.slice (first.rules prefixes)⟩ =
        limit.slice (first.rules prefixes) :=
    List.filter_eq_self.mpr fun line hl => (List.mem_filter.mp ((Limit.slice_isPrefix _ _).subset hl)).2
  -- the rules that a later step keeps are among those that the first one has kept
  have htake : ∀ j, (limit.slice (first.rules prefixes)).take
      (rulesLeft (rest.take j) (limit.keptCount (first.rules prefixes).length)) =
        (first.rules prefixes).take (rulesLeft (rest.take j) (limit.keptCount (first.rules prefixes).length)) :=
    fun j => by
      rw [← Limit.take_keptCount, List.take_take, Nat.min_eq_left (rulesLeft_le _ _)]
  have hheader : first.header ++ [(Marker.mk limit now).toText] ++ markerLines (rest.take i) =
      first.header ++ markerLines (((limit, now) :: rest).take (i + 1)) := by simp [markerLines]
  have hcount : (first.header ++ [(Marker.mk limit now).toText]).length + i = first.header.length + (i + 1) := by
    rw [List.length_append, List.length_singleton, Nat.add_assoc, Nat.add_comm 1]
  simp only [retrimOutcome, hrules, htake, hheader, hcount, Limit.length_slice, rulesLeft_take_succ, Nat.sub_self,
    ite_self, if_neg (Nat.succ_ne_zero i)]

/-! ## Whole runs -/

/-- **A run, step by step**: every step yields what the first text and the steps so far tell. -/
theorem retrim_eq_mapIdx (hm : ∀ m : Marker, Commented prefixes m.toText) (steps : List (Limit × Instant)) (t : Text) :
    retrim prefixes steps t = steps.mapIdx (retrimOutcome prefixes (Listing.ofText prefixes t) steps) := by
  induction steps generalizing t with
  | nil => rfl
  | cons step rest ih =>
    obtain ⟨limit, now⟩ := step
    have hread : Listing.ofText prefixes (trimText ⟨limit, prefixes⟩ now t).1.render =
        ⟨(Listing.ofText prefixes t).header ++ [(Marker.mk limit now).toText],
          limit.slice ((Listing.ofText prefixes t).rules prefixes)⟩ := by
      rw [(wellFormed_trimText ⟨limit, prefixes⟩ now t).ofText_render (hm _), trimText, Listing.trim_eq]
    rw [retrim, ih, hread, List.mapIdx_cons, retrimOutcome_shift, trimText_eq_retrimOutcome limit now rest t]

/-- The rules that a run leaves in the end, if it has a step. -/
def finalRules (prefixes : Prefixes) (steps : List (Limit × Instant)) (t : Text) : Option (List Text) :=
  (retrim prefixes steps t).getLast?.map fun result => result.1.rules

theorem finalRules_eq (hm : ∀ m : Marker, Commented prefixes m.toText) {steps : List (Limit × Instant)}
    (hne : steps ≠ []) (t : Text) :
    finalRules prefixes steps t =
      some (((Listing.ofText prefixes t).rules prefixes).take
        (rulesLeft steps ((Listing.ofText prefixes t).rules prefixes).length)) := by
  have hlen : steps.length - 1 + 1 = steps.length := Nat.sub_add_cancel (List.length_pos_iff.mpr hne)
  rw [finalRules, retrim_eq_mapIdx hm, List.getLast?_mapIdx, List.getLast?_eq_some_getLast hne]
  simp [retrimOutcome, hlen]

/-- **Runs of trims.** Where a prefix begins the words of a marker, the steps of a run yield what the first text tells:
step `i` keeps the header with the `i` markers before it, and as many of the first rules as the limits up to its own
leave. Limits that are not negative leave the least of them, in whatever order they come; negative ones take away the sum
of their magnitudes. -/
theorem retrim_run (hp : ∃ p ∈ prefixes, p ≠ [] ∧ p <+: markerLead) {steps : List (Limit × Instant)}
    (hne : steps ≠ []) (t : Text) :
    let first := Listing.ofText prefixes t
    let rules := first.rules prefixes
    let limits := steps.map Prod.fst
    retrim prefixes steps t = steps.mapIdx (retrimOutcome prefixes first steps) ∧
      ((∀ l ∈ limits, 0 ≤ l.value) →
        finalRules prefixes steps t = some (rules.take ((limits.map fun l => l.value.toNat).foldl min rules.length)) ∧
          ∀ other, limits.Perm (other.map Prod.fst) → finalRules prefixes other t = finalRules prefixes steps t) ∧
      ((∀ l ∈ limits, l.value < 0) →
        finalRules prefixes steps t = some (rules.take (rules.length - (limits.map fun l => l.value.natAbs).sum))) := by
  intro first rules limits
  have hm := Marker.commented_toText hp
  refine ⟨retrim_eq_mapIdx hm steps t, fun hpos => ⟨?_, fun other hperm => ?_⟩, fun hneg => ?_⟩
  · rw [finalRules_eq hm hne, rulesLeft, Limit.leftAfter_of_nonneg hpos]
  · have hother : other ≠ [] := by
      rintro rfl
      exact hne (List.map_eq_nil_iff.mp hperm.eq_nil)
    rw [finalRules_eq hm hne, finalRules_eq hm hother, rulesLeft, rulesLeft, Limit.leftAfter_perm hperm hpos]
  · rw [finalRules_eq hm hne, rulesLeft, Limit.leftAfter_of_neg hneg]

/-- A run of mixed signs under the default prefixes: of four rules three are kept, then all but one of these, then all
that are left. -/
theorem retrim_run_mixed_signs :
    let steps : List (Limit × Instant) :=
      [(⟨3⟩, ⟨0, 0, by decide⟩), (⟨-1⟩, ⟨60, 0, by decide⟩), (⟨9⟩, ⟨120, 0, by decide⟩)]
    (∃ p ∈ Settings.defaultPrefixes, p ≠ [] ∧ p <+: markerLead) ∧ steps ≠ [] ∧
      (retrim Settings.defaultPrefixes steps "! h\na\n! c\nb\n\nc\nd".toList).map
          (fun result => (result.1.rules, result.2.headerLines)) =
        [([['a'], ['b'], ['c']], 1), ([['a'], ['b']], 2), ([['a'], ['b']], 3)] := by
  intro steps
  have hp : ∃ p ∈ Settings.defaultPrefixes, p ≠ [] ∧ p <+: markerLead := by decide
  have hne : steps ≠ [] := List.cons_ne_nil _ _
  refine ⟨hp, hne, ?_⟩
  rw [(retrim_run hp hne _).1]
  decide

/-! ## Trimming twice by one limit -/

theorem rules_trimText (s : Settings) (now : Instant) (t : Text) :
    (trimText s now t).1.rules = s.limit.slice ((Listing.ofText s.prefixes t).rules s.prefixes) := by
  rw [trimText, Listing.trim_eq]

section Twice

variable {s : Settings} {r : Trimmed}

/-- A list that was written is trimmed again: a marker that is a comment leaves its rules to the limit. -/
theorem rules_trimText_render (h : r.WellFormed s.prefixes) (hm : Commented s.prefixes r.marker.toText)
    (later : Instant) : (trimText s later r.render).1.rules = s.limit.slice r.rules := by
  rw [rules_trimText, h.ofText_render hm, Listing.rules, h.filter_rules]

/-- A marker that is no comment counts as the first rule. -/
theorem rules_trimText_render_of_rule (h : r.WellFormed s.prefixes) (hm : ¬Commented s.prefixes r.marker.toText)
    (later : Instant) : (trimText s later r.render).1.rules = s.limit.slice (r.marker.toText :: r.rules) := by
  have hr : RuleLine s.prefixes r.marker.toText := r.marker.ruleLine_toText_iff.mpr hm
  rw [rules_trimText, h.ofText_render_of_rule hr, Listing.rules, List.filter_cons_of_pos (isRule_iff.mpr hr),
    h.filter_rules]

/-- To put `a` in front of a list and to cut it back to `n` elements changes nothing only if these are all `a`. -/
theorem take_cons_eq_self_iff {α : Type} {a : α} :
    ∀ {l : List α} {n : Nat}, l.length ≤ n → ((a :: l).take n = l ↔ l = List.replicate n a)
  | [], 0, _ => by simp
  | [], n + 1, _ => by simp
  | b :: l, 0, h => by simp at h
  | b :: l, n + 1, h => by
    have ih := take_cons_eq_self_iff (a := b) (Nat.le_of_succ_le_succ h)
    rw [List.take_succ_cons, List.cons.injEq, List.replicate_succ, List.cons.injEq]
    constructor
    · rintro ⟨rfl, hl⟩
      exact ⟨rfl, ih.mp hl⟩
    · rintro ⟨rfl, hl⟩
      exact ⟨rfl, ih.mpr hl⟩

/-- **Trimming twice by a limit that is not negative** leaves the rules as they are exactly if the marker of the first
trim is a comment, or if all that the limit allows is copies of that marker. -/
theorem trim_twice_rules_eq_iff (hs : 0 ≤ s.limit.value) (now later : Instant) (t : Text) :
    let once := (trimText s now t).1
    (trimText s later once.render).1.rules = once.rules ↔
      Commented s.prefixes once.marker.toText ∨
        once.rules = List.replicate s.limit.value.toNat once.marker.toText := by
  intro once
  have hwf : once.WellFormed s.prefixes := wellFormed_trimText s now t
  have hlen : once.rules.length ≤ s.limit.value.toNat := by
    rw [rules_trimText, Limit.slice_of_nonneg hs]
    exact List.length_take_le _ _
  by_cases hm : Commented s.prefixes once.marker.toText
  · rw [rules_trimText_render hwf hm, Limit.slice_of_nonneg hs, List.take_of_length_le hlen]
    exact iff_of_true rfl (Or.inl hm)
  · -- the marker is read as the first rule, and what the limit allows shifts by one
    rw [rules_trimText_render_of_rule hwf hm, Limit.slice_of_nonneg hs, take_cons_eq_self_iff hlen, or_iff_right hm]

/-- Without a prefix for its marker, a trim by the same limit does not keep the two rules that it has kept before. -/
theorem trim_twice_without_bang :
    let s : Settings := ⟨⟨2⟩, [['#']]⟩
    let once := (trimText s ⟨0, 0, by decide⟩ "a\nb\n".toList).1
    0 ≤ s.limit.value ∧ once.rules = [['a'], ['b']] ∧
      (trimText s ⟨60, 0, by decide⟩ once.render).1.rules ≠ once.rules := by
  intro s once
  have hs : 0 ≤ s.limit.value := by decide
  refine ⟨hs, by decide, fun h => ?_⟩
  exact absurd ((trim_twice_rules_eq_iff hs _ _ _).mp h) (by decide)

end Twice

end RuleCap
