import RuleCap.Json

/-!
# Records in JSON

A record is read from an object, whose keys that it does not know are passed over, or from an array of its fields in
order. `RecordFormat` says how one kind of record is read: a draft that starts empty takes one field after the other
(`put`) and becomes a record at the end (`finish`). The first field that cannot be read decides the fault; only when all
can be read does a missing field count.
-/

namespace RuleCap.Json

/-- Reads a text. -/
def readText : Json → Except DecodeFault Text
  | .string t => .ok t
  | v => .error (.wrongType v.found "a string")

/-- Reads a list of texts. -/
def readTexts : Json → Except DecodeFault (List Text)
  | .array items => items.mapM readText
  | v => .error (.wrongType v.found "a sequence")

/-- Writes a list of texts. -/
def ofTexts (ts : List Text) : Json := .array (ts.map .string)

/-- Reads a number of lines. -/
def readCount : Json → Except DecodeFault Nat
  | .int (.ofNat n) => .ok n
  | .int n => .error (.wrongValue (.integer n) "usize")
  | v => .error (.wrongType v.found "usize")

/-- Reads an instant. -/
def readInstant : Json → Except DecodeFault Instant
  | .string t => (Rfc3339.read? t).mapError .badInstant
  | v => .error (.wrongType v.found "an RFC 3339 formatted date and time string")

/-- How records of one kind are read. -/
structure RecordFormat (δ α : Type) where
  /-- What the record is called in messages. -/
  name : String
  /-- The names of the fields, in order. -/
  fields : List Text
  /-- The draft without any field. -/
  empty : δ
  /-- Reads a field into the draft; a name that the record does not know leaves the draft alone. -/
  put : Text → Json → δ → Except DecodeFault δ
  /-- The record of a draft, if nothing is missing. -/
  finish : δ → Except DecodeFault α
  /-- Whether fields that are not there have values all the same. -/
  optional : Bool

namespace RecordFormat

variable {δ α : Type}

/-- Reads named values into a draft, one after the other. -/
def fill (f : RecordFormat δ α) (entries : List (Text × Json)) : Except DecodeFault δ :=
  entries.foldlM (fun draft e => f.put e.1 e.2 draft) f.empty

/-- Reads the fields in order. -/
def readArray (f : RecordFormat δ α) (items : List Json) : Except DecodeFault α := do
  let draft ← f.fill (f.fields.zip items)
  if f.fields.length < items.length then .error (.wrongLength items.length "fewer elements in array")
  else if items.length < f.fields.length ∧ ¬f.optional then
    .error (.wrongLength items.length s!"struct {f.name} with {f.fields.length} elements")
  else f.finish draft

/-- **Reads a record.** -/
def read (f : RecordFormat δ α) : Json → Except DecodeFault α
  | .object entries => do f.finish (← f.fill entries)
  | .array items => f.readArray items
  | v => .error (.wrongType v.found s!"struct {f.name}")

end RecordFormat

/-- A field of a draft that has to be there. -/
def required {α : Type} (name : Text) : Option α → Except DecodeFault α
  | some a => .ok a
  | none => .error (.missing name)

end RuleCap.Json
