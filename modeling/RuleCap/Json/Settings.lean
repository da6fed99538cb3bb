import RuleCap.Settings
import RuleCap.Json.Limit

/-!
# Settings in JSON

Settings are written with both fields and read with any of them: what a document does not set has its default.
-/

namespace RuleCap

open Json (RecordFormat readTexts)

namespace Settings

/-- Reads a field of settings. -/
def Draft.put (name : Text) (v : Json) (d : Draft) : Except DecodeFault Draft :=
  if name = limitField then do .ok { d with limit := some (← Limit.ofJson v) }
  else if name = prefixesField then do .ok { d with prefixes := some (← readTexts v) }
  else .ok d

/-- How settings are read. -/
def format : RecordFormat Draft Settings where
  name := "TrimConfig"
  fields := [limitField, prefixesField]
  empty := Draft.empty
  put := Draft.put
  finish d := .ok d.toSettings
  optional := true

/-- **Writes settings.** -/
def toJson (s : Settings) : Json :=
  .object [(prefixesField, .ofTexts s.prefixes), (limitField, s.limit.toJson)]

/-- **Reads settings.** -/
def ofJson : Json → Except DecodeFault Settings := format.read

end Settings

end RuleCap
