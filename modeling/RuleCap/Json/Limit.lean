import RuleCap.Limit
import RuleCap.Line
import RuleCap.Json.Record

/-!
# Limits and kinds of lines in JSON

A limit is written as a number where 64 bits hold it and as a text otherwise, and read from either; a text may be
spelled in any way that `Numeral.ofText?` reads. A kind of line is written as its name, and read also as an object with
that one key and null.
-/

namespace RuleCap

/-- Writes the form of a limit. -/
def Limit.Form.toJson : Limit.Form → Json
  | .integer n => .int n
  | .text t => .string t

/-- **Writes a numeral.** -/
def Numeral.toJson (n : Numeral) : Json := (Limit.Form.ofNumeral n).toJson

/-- **Writes a limit.** -/
def Limit.toJson (l : Limit) : Json := l.form.toJson

/-- Reads the form of a limit: an integer of 64 bits, or a text. -/
def Limit.Form.ofJson : Json → Except DecodeFault Limit.Form
  | .int n => if Limit.fits n then .ok (.integer n) else .error .noLimitForm
  | .string t => .ok (.text t)
  | _ => .error .noLimitForm

/-- **Reads a numeral.** -/
def Numeral.ofJson (v : Json) : Except DecodeFault Numeral := do
  match (← Limit.Form.ofJson v).numeral? with
  | some n => .ok n
  | none => .error .notALimit

/-- **Reads a limit.** -/
def Limit.ofJson (v : Json) : Except DecodeFault Limit := (Numeral.ofJson v).map ofNumeral

/-- The name of a kind of line. -/
def LineKind.name : LineKind → Text
  | .comment => "Comment".toList
  | .blank => "Blank".toList
  | .rule => "Rule".toList

/-- The kind of line with a name. -/
def LineKind.ofName (name : Text) : Except DecodeFault LineKind :=
  match [LineKind.comment, .blank, .rule].find? (·.name == name) with
  | some kind => .ok kind
  | none => .error (.unknownKind name)

/-- Writes a kind of line. -/
def LineKind.toJson (kind : LineKind) : Json := .string kind.name

/-- Reads a kind of line. -/
def LineKind.ofJson : Json → Except DecodeFault LineKind
  | .string name => LineKind.ofName name
  | .object [(name, value)] => do
    let kind ← LineKind.ofName name
    match value with
    | .null => .ok kind
    | v => .error (.wrongType v.found "unit")
  | .object _ => .error (.wrongValue .map "map with a single key")
  | v => .error (.wrongType v.found "string or map")

end RuleCap
