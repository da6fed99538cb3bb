import RuleCap.Instant.DateTime
import RuleCap.Text.Blank

/-!
# Instants in RFC 3339

The form in which records hold an instant. `write` puts down Universal Time with as many groups of three fraction
digits as the instant needs. `read?` also takes an offset from Universal Time, a small `t` or a space between date and
time, numbers without leading zeros, white space in front of a number, and digits past the ninth of a fraction, which
it drops. Of several faults it reports the first one from the left, and a date that the calendar lacks only after them.
-/

namespace RuleCap.Rfc3339

/-! ## Writing -/

/-- The nanoseconds within the second, leap second or not. -/
def fraction (i : Instant) : Nat := i.nanos % secondNanos

/-- The fraction of a second: none, or three, six or nine digits. -/
def fractionText (nanos : Nat) : Text :=
  if nanos = 0 then []
  else if nanos % 1000000 = 0 then '.' :: padded 3 (nanos / 1000000)
  else if nanos % 1000 = 0 then '.' :: padded 6 (nanos / 1000)
  else '.' :: padded 9 nanos

/-- **An instant in Universal Time.** -/
def write (i : Instant) : Text :=
  i.dateTime ++ fractionText (fraction i) ++ ['Z']

/-! ## Reading -/

/-- Why a text is no instant. -/
inductive Fault
  /-- The text ends early. -/
  | tooShort
  /-- A character is out of place. -/
  | invalid
  /-- A number is too large or too small. -/
  | outOfRange
  /-- Something follows the instant. -/
  | tooLong
  /-- The offset leads out of the years that an instant may have. -/
  | impossible
deriving DecidableEq, Repr

/-- The wording of a fault. -/
def Fault.message : Fault → String
  | .tooShort => "premature end of input"
  | .invalid => "input contains invalid characters"
  | .outOfRange => "input is out of range"
  | .tooLong => "trailing input"
  | .impossible => "no possible date and time matching input"

/-- Whether a character is one of the ten digits. -/
def isDigit (c : Char) : Bool := '0' ≤ c && c ≤ '9'

/-- The number in a run of digits. -/
def digitsValue (digits : Text) : Nat := Nat.ofDigitChars 10 digits 0

/-- A number of one digit up to `width`, and the rest. -/
def number (width : Nat) (t : Text) : Except Fault (Nat × Text) :=
  let digits := (t.take width).takeWhile isDigit
  match t, digits with
  | [], _ => .error .tooShort
  | _, [] => .error .invalid
  | _, _ => .ok (digitsValue digits, t.drop digits.length)

/-- A number in a range, with white space allowed in front. -/
def field (width low high : Nat) (t : Text) : Except Fault (Nat × Text) := do
  let (n, rest) ← number width (t.dropWhile isSpace)
  if low ≤ n ∧ n ≤ high then .ok (n, rest) else .error .outOfRange

/-- A mark between two numbers, with white space allowed in front. -/
def mark (c : Char) (t : Text) : Except Fault Text :=
  match t.dropWhile isSpace with
  | [] => .error .tooShort
  | d :: rest => if d = c then .ok rest else .error .invalid

/-- A year: up to four digits, or any number of them after a sign. -/
def year (t : Text) : Except Fault (Int × Text) :=
  match t.dropWhile isSpace with
  | '-' :: rest => do
    let (n, rest) ← number rest.length rest
    if n ≤ Nat.pow 2 31 then .ok (-n, rest) else .error .outOfRange
  | '+' :: rest => do
    let (n, rest) ← number rest.length rest
    if n < Nat.pow 2 31 then .ok (n, rest) else .error .outOfRange
  | rest => do
    let (n, rest) ← number 4 rest
    .ok (n, rest)

/-- The date, as three numbers. -/
def date (t : Text) : Except Fault (Date × Text) := do
  let (y, t) ← year t
  let t ← mark '-' t
  let (m, t) ← field 2 1 12 t
  let t ← mark '-' t
  let (d, t) ← field 2 1 31 t
  .ok (⟨y, m, d⟩, t)

/-- What stands between date and time. -/
def separator : Text → Except Fault Text
  | [] => .error .tooShort
  | c :: rest => if c = 'T' ∨ c = 't' ∨ c = ' ' then .ok rest else .error .invalid

/-- The nanoseconds of a fraction; digits past the ninth count for nothing. -/
def nanoseconds : Text → Except Fault (Nat × Text)
  | '.' :: rest => do
    let (n, after) ← number 9 rest
    .ok (n * Nat.pow 10 (9 - (rest.length - after.length)), after.dropWhile isDigit)
  | t => .ok (0, t)

/-- Two digits, as the hours and the minutes of an offset have them. -/
def twoDigits : Text → Except Fault (Char × Char × Text)
  | [] => .error .tooShort
  | [c] => if c.toNat < 0x80 then .error .tooShort else .error .invalid
  | c :: d :: rest => .ok (c, d, rest)

/-- The seconds of an offset, after its sign. -/
def offsetSeconds (t : Text) : Except Fault (Nat × Text) := do
  let (h, h', t) ← twoDigits t
  if ¬(isDigit h ∧ isDigit h') then .error .invalid
  else
    let (m, m', t) ← twoDigits (t.dropWhile fun c => c = ':' || isSpace c)
    if ¬(isDigit m ∧ isDigit m') then .error .invalid
    else if '5' < m then .error .outOfRange
    else .ok (digitsValue [h, h'] * 3600 + digitsValue [m, m'] * 60, t)

/-- The seconds by which the clock is ahead of Universal Time. -/
def offset (t : Text) : Except Fault (Int × Text) :=
  match t.dropWhile isSpace with
  | [] => .error .tooShort
  | c :: rest =>
    if (c :: rest.take 2).map Char.toUpper = ['U', 'T', 'C'] then .ok (0, rest.drop 2)
    else if c = 'Z' ∨ c = 'z' then .ok (0, rest)
    else if c = '+' then do
      let (n, rest) ← offsetSeconds rest
      .ok (n, rest)
    else if c = '-' ∨ c = '\u2212' then do
      let (n, rest) ← offsetSeconds rest
      .ok (-n, rest)
    else .error .invalid

/-- The instant that the numbers of a text name. -/
def assemble (date : Date) (hour minute second nanos : Nat) (offset : Int) : Except Fault Instant :=
  if ¬(date.Valid ∧ -262143 ≤ date.year ∧ date.year ≤ 262142 ∧ offset.natAbs < daySeconds) then
    .error .outOfRange
  else
    let leap : Nat := if second = 60 then 1 else 0
    let seconds := date.dayNumber * daySeconds + (hour * 3600 + minute * 60 + (second - leap)) - offset
    match Instant.ofTimestamp? seconds (nanos + leap * secondNanos) with
    | some i => .ok i
    | none => .error .impossible

/-- **Reads an instant.** -/
def read? (t : Text) : Except Fault Instant := do
  let (d, t) ← date t
  let t ← separator t
  let (h, t) ← field 2 0 23 t
  let t ← mark ':' t
  let (m, t) ← field 2 0 59 t
  let t ← mark ':' t
  let (s, t) ← field 2 0 60 t
  let (n, t) ← nanoseconds t
  let (o, t) ← offset t
  if t.all isSpace then assemble d h m s n o else .error .tooLong

end RuleCap.Rfc3339
