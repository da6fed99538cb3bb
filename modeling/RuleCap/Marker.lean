import RuleCap.Limit
import RuleCap.Instant.DateTime

/-!
# Markers

The line that a trim puts between the header and the rules it keeps: the limit asked for and the moment of the trim,
down to the microsecond.
-/

namespace RuleCap

/-- The limit asked for and the moment of the trim. -/
structure Marker where
  limit : Limit
  trimmedAt : Instant
deriving DecidableEq

namespace Marker

/-- The microseconds of an instant, from the nanoseconds as they are counted: a leap second has a million or more. -/
def micros (i : Instant) : Nat := i.nanos / 1000

/-- The moment of the trim, with microseconds only where there are some. -/
def timestamp (m : Marker) : Text :=
  m.trimmedAt.dateTime ++
    if micros m.trimmedAt = 0 then [] else '.' :: padded 6 (micros m.trimmedAt)

/-- **The marker as a line.** -/
def toText (m : Marker) : Text :=
  "! Trimmed to ".toList ++ m.limit.toText ++ " rules on ".toList ++ m.timestamp ++ ['Z']

end Marker

end RuleCap
