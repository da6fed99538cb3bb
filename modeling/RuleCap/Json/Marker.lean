import RuleCap.Marker
import RuleCap.Json.Limit

/-!
# Markers in JSON

A marker is written as its limit and its moment, the moment as `Rfc3339.write` has it.
-/

namespace RuleCap

open Json (RecordFormat readInstant required)

namespace Marker

/-- The name of the limit in a document. -/
def limitField : Text := "max_rules".toList

/-- The name of the moment in a document. -/
def trimmedAtField : Text := "trimmed_at".toList

/-- A marker being read. -/
structure Draft where
  limit : Option Limit
  trimmedAt : Option Instant

/-- Reads a field of a marker. -/
def Draft.put (name : Text) (v : Json) (d : Draft) : Except DecodeFault Draft :=
  if name = limitField then do .ok { d with limit := some (← Limit.ofJson v) }
  else if name = trimmedAtField then do .ok { d with trimmedAt := some (← readInstant v) }
  else .ok d

/-- The marker of a draft. -/
def Draft.finish (d : Draft) : Except DecodeFault Marker := do
  let limit ← required limitField d.limit
  let trimmedAt ← required trimmedAtField d.trimmedAt
  .ok ⟨limit, trimmedAt⟩

/-- How markers are read. -/
def format : RecordFormat Draft Marker where
  name := "TrimMarker"
  fields := [limitField, trimmedAtField]
  empty := ⟨none, none⟩
  put := Draft.put
  finish := Draft.finish
  optional := false

/-- **Writes a marker.** -/
def toJson (m : Marker) : Json :=
  .object [(limitField, m.limit.toJson), (trimmedAtField, .string (Rfc3339.write m.trimmedAt))]

/-- **Reads a marker.** -/
def ofJson : Json → Except DecodeFault Marker := format.read

end Marker

end RuleCap
