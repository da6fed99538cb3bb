import RuleCap.Binary64
import RuleCap.Instant.Rfc3339
import RuleCap.Text.Quoted

/-!
# Faults of documents

A document that is well formed may still not hold what a record needs. `Found` is what stands in the place of something
else, `DecodeFault` the cause for which a value is refused, and `DecodeFault.message` its wording. Documents of both
formats, JSON and YAML, are refused in these words.
-/

namespace RuleCap

/-- What a document holds where something else belongs. -/
inductive Found
  /-- The null of a JSON document. -/
  | null
  /-- The null of a YAML document. -/
  | unit
  | bool (b : Bool)
  | integer (n : Int)
  /-- An integer beyond 64 bits. -/
  | wide (n : Int)
  | float (x : Binary64)
  | text (t : Text)
  | sequence
  | map
deriving Repr

/-- The wording of what was found. -/
def Found.message : Found → String
  | .null => "null"
  | .unit => "unit value"
  | .bool b => s!"boolean `{b}`"
  | .integer n => s!"integer `{n}`"
  | .wide n => if n < 0 then s!"integer `{n}` as i128" else s!"integer `{n}` as u128"
  | .float x => "floating point `" ++ String.ofList x.toText ++ "`"
  | .text t => "string " ++ String.ofList (Quoted.encode t)
  | .sequence => "sequence"
  | .map => "map"

/-- Why a value is refused. -/
inductive DecodeFault
  /-- A value of another type. -/
  | wrongType (found : Found) (expected : String)
  /-- A value of the right type that will not do. -/
  | wrongValue (found : Found) (expected : String)
  /-- A sequence of the wrong length. -/
  | wrongLength (length : Nat) (expected : String)
  /-- A field that is not there. -/
  | missing (field : Text)
  /-- A field given twice. -/
  | repeated (field : Text)
  /-- A name of no kind of line. -/
  | unknownKind (name : Text)
  /-- A text that is no limit. -/
  | notALimit
  /-- A value of no type that a limit may have. -/
  | noLimitForm
  /-- A limit under a tag. -/
  | taggedLimit
  /-- A text that is no instant. -/
  | badInstant (fault : Rfc3339.Fault)
deriving Repr

/-- What is said of a text that is no limit. -/
def notALimitMessage : String := "max_rules must be an integer"

/-- The wording of a fault. -/
def DecodeFault.message : DecodeFault → String
  | .wrongType found expected => s!"invalid type: {found.message}, expected {expected}"
  | .wrongValue found expected => s!"invalid value: {found.message}, expected {expected}"
  | .wrongLength length expected => s!"invalid length {length}, expected {expected}"
  | .missing field => "missing field `" ++ String.ofList field ++ "`"
  | .repeated field => "duplicate field `" ++ String.ofList field ++ "`"
  | .unknownKind name =>
    "unknown variant `" ++ String.ofList name ++ "`, expected one of `Comment`, `Blank`, `Rule`"
  | .notALimit => notALimitMessage
  | .noLimitForm => "data did not match any variant of untagged enum RawRuleLimit"
  | .taggedLimit => "untagged and internally tagged enums do not support enum input"
  | .badInstant fault => fault.message

end RuleCap
