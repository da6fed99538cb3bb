import RuleCap.Decode
import RuleCap.Yaml.Node

/-!
# Values of scalars

What a scalar means. One in quotes or in a block is a text. One without marks is null, a boolean, an integer, a number
with a fraction, or a text when it is none of these (`Value.ofPlain`). Integers have 128 bits at most, and leading zeros
make a text of a number. A tag of the core schema asks for one of the types (`Value.ofScalar`).
-/

namespace RuleCap.Yaml

/-- What a scalar means. -/
inductive Value
  | null
  | bool (b : Bool)
  | int (n : Int)
  | float (x : Binary64)
  | text (t : Text)
deriving DecidableEq, Repr

namespace Value

/-! ## Plain scalars -/

/-- The spellings of null, the empty one apart. -/
def nullTexts : List Text := ["null", "Null", "NULL", "~"].map (·.toList)

/-- The spellings of true. -/
def trueTexts : List Text := ["true", "True", "TRUE"].map (·.toList)

/-- The spellings of false. -/
def falseTexts : List Text := ["false", "False", "FALSE"].map (·.toList)

/-- A boolean. -/
def bool? (t : Text) : Option Bool :=
  if trueTexts.contains t then some true else if falseTexts.contains t then some false else none

/-- A text without one of the given characters in front. -/
def dropSign (signs : List Char) : Text → Text
  | [] => []
  | c :: rest => if signs.contains c then rest else c :: rest

/-- Whether a text is a number with a zero too many in front. -/
def hasLeadingZero (t : Text) : Bool :=
  match dropSign ['+', '-'] t with
  | '0' :: d :: rest => (d :: rest).all Char.isDigit
  | _ => false

/-- The value of digits in a base, of which there has to be one at least. -/
def digits? (base : Nat) (t : Text) : Option Nat :=
  if t.isEmpty then none
  else t.foldlM (fun n c => do
    let d ← hexValue c
    if d < base then some (n * base + d) else none) 0

/-- A number without a sign, in base ten or after the mark of another base. -/
def magnitude? (written : Text) (t : Text) : Option Nat :=
  match t with
  | '0' :: 'x' :: rest => digits? 16 rest
  | '0' :: 'o' :: rest => digits? 8 rest
  | '0' :: 'b' :: rest => digits? 2 rest
  | _ => if hasLeadingZero written then none else digits? 10 t

/-- An integer of 128 bits, with a sign or without. -/
def int? (t : Text) : Option Int :=
  match t with
  | '-' :: rest => (magnitude? t rest).bind fun n => if n ≤ Nat.pow 2 127 then some (-n) else none
  | _ => (magnitude? t (dropSign ['+'] t)).bind fun n => if n < Nat.pow 2 128 then some n else none

/-- The exponent of a number: nothing, or a letter, a sign if any, and digits. -/
def exponent? : Text → Option Int
  | [] => some 0
  | e :: rest =>
    if e = 'e' ∨ e = 'E' then
      match rest with
      | '-' :: rest => (digits? 10 rest).map fun n => -n
      | '+' :: rest => (digits? 10 rest).map fun n => n
      | rest => (digits? 10 rest).map fun n => n
    else none

/-- A number with a point, an exponent, both or neither, and with digits on one side of the point at least. -/
def decimal? (negative : Bool) (t : Text) : Option Binary64 :=
  let whole := t.takeWhile Char.isDigit
  let rest := t.dropWhile Char.isDigit
  let (places, rest) := match rest with
    | '.' :: rest => (rest.takeWhile Char.isDigit, rest.dropWhile Char.isDigit)
    | rest => ([], rest)
  if whole.isEmpty ∧ places.isEmpty then none
  else (exponent? rest).map fun e =>
    Binary64.ofDecimal negative (Nat.ofDigitChars 10 (whole ++ places) 0) (e - places.length)

/-- The spellings of infinity. -/
def infinityTexts : List Text := [".inf", ".Inf", ".INF"].map (·.toList)

/-- The spellings of the value that is no number. -/
def notANumberTexts : List Text := [".nan", ".NaN", ".NAN"].map (·.toList)

/-- A number with a fraction; one too large for the format is none. -/
def float? (t : Text) : Option Binary64 :=
  let bare := dropSign ['+'] t
  if bare ≠ t ∧ bare.head?.any (fun c => c = '+' || c = '-') then none
  else if infinityTexts.contains bare then some (.infinite false)
  else if (infinityTexts.map ('-' :: ·)).contains t then some (.infinite true)
  else if notANumberTexts.contains t then some .notANumber
  else
    (match bare with
      | '-' :: rest => decimal? true rest
      | rest => decimal? false rest).filter (·.isFinite)

/-- **What a plain scalar means.** -/
def ofPlain (t : Text) : Value :=
  if t.isEmpty ∨ nullTexts.contains t then .null
  else match bool? t with
  | some b => .bool b
  | none => match int? t with
  | some n => .int n
  | none => match (if hasLeadingZero t then none else float? t) with
  | some x => .float x
  | none => .text t

/-! ## Tags -/

/-- A tag of the core schema. -/
def coreTag (name : String) : Bytes := coreSchema ++ Utf8.encode name.toList

/-- What a value is called where another belongs. -/
def found : Value → Found
  | null => .unit
  | bool b => .bool b
  | int n => if -Nat.pow 2 63 ≤ n ∧ n < Nat.pow 2 64 then .integer n else .wide n
  | float x => .float x
  | text t => .text t

/-- Whether a tag is one that the document gives a meaning of its own: an exclamation mark and a text. -/
def isOwnTag : Option Bytes → Bool
  | some (b :: rest) => b = 0x21 && (Utf8.decode? rest).isSome
  | _ => false

/-- **What a scalar means.** A tag of the core schema has to fit the text. -/
def ofScalar (tag : Option Bytes) (isPlain : Bool) (t : Text) : Except DecodeFault Value :=
  let refuse (expected : String) : Except DecodeFault Value := .error (.wrongValue (.text t) expected)
  match tag with
  | none => .ok (if isPlain then ofPlain t else .text t)
  | some tag =>
    if tag = coreTag "bool" then
      match bool? t with
      | some b => .ok (.bool b)
      | none => refuse "a boolean"
    else if tag = coreTag "int" then
      match int? t with
      | some n => .ok (.int n)
      | none => refuse "an integer"
    else if tag = coreTag "float" then
      match float? t with
      | some x => .ok (.float x)
      | none => refuse "a float"
    else if tag = coreTag "null" then
      if nullTexts.contains t then .ok .null else refuse "null"
    else if tag.head? = some 0x21 ∧ isPlain then .ok (ofPlain t)
    else .ok (.text t)

example : ofPlain "0x1F".toList = .int 31 ∧ ofPlain "-007".toList = .text "-007".toList := by decide

example : ofPlain "1_000".toList = .text "1_000".toList ∧ ofPlain "+0".toList = .int 0 := by decide +kernel

end Value

end RuleCap.Yaml
