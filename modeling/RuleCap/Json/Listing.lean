import RuleCap.Listing
import RuleCap.Json.Marker

/-!
# Tallies and lists in JSON

Every record is written as an object (`toJson`) and read by its `RecordFormat` (`ofJson`); no field may be missing.
-/

namespace RuleCap

open Json (RecordFormat readTexts readCount required)

/-! ## Tallies -/

namespace Tally

/-- The name of the count of header lines. -/
def headerLinesField : Text := "header_lines".toList

/-- The name of the count of rules in the body. -/
def rulesFoundField : Text := "rules_found".toList

/-- The name of the count of rules kept. -/
def rulesKeptField : Text := "rules_kept".toList

/-- The name of the count of rules past the limit. -/
def rulesDiscardedField : Text := "rules_discarded".toList

/-- The name of the count of comments and blanks in the body. -/
def bodyLinesDroppedField : Text := "body_lines_dropped".toList

/-- A tally being read. -/
structure Draft where
  headerLines : Option Nat
  rulesFound : Option Nat
  rulesKept : Option Nat
  rulesDiscarded : Option Nat
  bodyLinesDropped : Option Nat

/-- Reads a count of a tally. -/
def Draft.put (name : Text) (v : Json) (d : Draft) : Except DecodeFault Draft :=
  if name = headerLinesField then do .ok { d with headerLines := some (← readCount v) }
  else if name = rulesFoundField then do .ok { d with rulesFound := some (← readCount v) }
  else if name = rulesKeptField then do .ok { d with rulesKept := some (← readCount v) }
  else if name = rulesDiscardedField then do .ok { d with rulesDiscarded := some (← readCount v) }
  else if name = bodyLinesDroppedField then do .ok { d with bodyLinesDropped := some (← readCount v) }
  else .ok d

/-- The tally of a draft. -/
def Draft.finish (d : Draft) : Except DecodeFault Tally := do
  let headerLines ← required headerLinesField d.headerLines
  let rulesFound ← required rulesFoundField d.rulesFound
  let rulesKept ← required rulesKeptField d.rulesKept
  let rulesDiscarded ← required rulesDiscardedField d.rulesDiscarded
  let bodyLinesDropped ← required bodyLinesDroppedField d.bodyLinesDropped
  .ok ⟨headerLines, rulesFound, rulesKept, rulesDiscarded, bodyLinesDropped⟩

/-- How tallies are read. -/
def format : RecordFormat Draft Tally where
  name := "TrimReport"
  fields := [headerLinesField, rulesFoundField, rulesKeptField, rulesDiscardedField, bodyLinesDroppedField]
  empty := ⟨none, none, none, none, none⟩
  put := Draft.put
  finish := Draft.finish
  optional := false

/-- **Writes a tally.** -/
def toJson (t : Tally) : Json :=
  .object
    [(bodyLinesDroppedField, .int t.bodyLinesDropped), (headerLinesField, .int t.headerLines),
      (rulesDiscardedField, .int t.rulesDiscarded), (rulesFoundField, .int t.rulesFound),
      (rulesKeptField, .int t.rulesKept)]

/-- **Reads a tally.** -/
def ofJson : Json → Except DecodeFault Tally := format.read

end Tally

/-! ## Lists -/

namespace Listing

/-- The name of the header in a document. -/
def headerField : Text := "header".toList

/-- The name of the body in a document. -/
def bodyField : Text := "body".toList

/-- A listing being read. -/
structure Draft where
  header : Option (List Text)
  body : Option (List Text)

/-- Reads a part of a listing. -/
def Draft.put (name : Text) (v : Json) (d : Draft) : Except DecodeFault Draft :=
  if name = headerField then do .ok { d with header := some (← readTexts v) }
  else if name = bodyField then do .ok { d with body := some (← readTexts v) }
  else .ok d

/-- The listing of a draft. -/
def Draft.finish (d : Draft) : Except DecodeFault Listing := do
  let header ← required headerField d.header
  let body ← required bodyField d.body
  .ok ⟨header, body⟩

/-- How listings are read. -/
def format : RecordFormat Draft Listing where
  name := "FilterList"
  fields := [headerField, bodyField]
  empty := ⟨none, none⟩
  put := Draft.put
  finish := Draft.finish
  optional := false

/-- **Writes a listing.** -/
def toJson (l : Listing) : Json :=
  .object [(bodyField, .ofTexts l.body), (headerField, .ofTexts l.header)]

/-- **Reads a listing.** -/
def ofJson : Json → Except DecodeFault Listing := format.read

end Listing

namespace Trimmed

/-- The name of the header in a document. -/
def headerField : Text := "header".toList

/-- The name of the marker in a document. -/
def markerField : Text := "marker".toList

/-- The name of the rules in a document. -/
def rulesField : Text := "rules".toList

/-- A trimmed list being read. -/
structure Draft where
  header : Option (List Text)
  marker : Option Marker
  rules : Option (List Text)

/-- Reads a part of a trimmed list. -/
def Draft.put (name : Text) (v : Json) (d : Draft) : Except DecodeFault Draft :=
  if name = headerField then do .ok { d with header := some (← readTexts v) }
  else if name = markerField then do .ok { d with marker := some (← Marker.ofJson v) }
  else if name = rulesField then do .ok { d with rules := some (← readTexts v) }
  else .ok d

/-- The trimmed list of a draft. -/
def Draft.finish (d : Draft) : Except DecodeFault Trimmed := do
  let header ← required headerField d.header
  let marker ← required markerField d.marker
  let rules ← required rulesField d.rules
  .ok ⟨header, marker, rules⟩

/-- How trimmed lists are read. -/
def format : RecordFormat Draft Trimmed where
  name := "TrimmedList"
  fields := [headerField, markerField, rulesField]
  empty := ⟨none, none, none⟩
  put := Draft.put
  finish := Draft.finish
  optional := false

/-- **Writes a trimmed list.** -/
def toJson (t : Trimmed) : Json :=
  .object [(headerField, .ofTexts t.header), (markerField, t.marker.toJson), (rulesField, .ofTexts t.rules)]

/-- **Reads a trimmed list.** -/
def ofJson : Json → Except DecodeFault Trimmed := format.read

end Trimmed

end RuleCap
