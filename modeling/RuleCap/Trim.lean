import RuleCap.Listing
import RuleCap.Settings

/-!
# Trimming a text

`trimText` takes a list as text, trims it by the settings, and says what became of its lines. `retrim` trims again and
again, each time what the time before has written.
-/

namespace RuleCap

/-- **Trims a list given as text.** -/
def trimText (s : Settings) (now : Instant) (t : Text) : Trimmed × Tally :=
  (Listing.ofText s.prefixes t).trim s.prefixes ⟨s.limit, now⟩

/-- Trims a text by the first limit and its instant, what comes out by the second, and so on. -/
def retrim (prefixes : Prefixes) : List (Limit × Instant) → Text → List (Trimmed × Tally)
  | [], _ => []
  | (limit, now) :: rest, t =>
    let result := trimText ⟨limit, prefixes⟩ now t
    result :: retrim prefixes rest result.1.render

end RuleCap
