import RuleCap.CommandLine.Usage
import RuleCap.Path

/-!
# Requests

A command line, word by word, becomes a request for a trim, or a reason for none (`Request.ofWords`). The words that are
no options are the path, the limit, and others that are passed over. A word with a dash in front is a row of one-letter
options, one with two dashes a long option; behind two dashes alone there are no options. Where the limit is to come, a
word that looks like a negative number is none either. The value of an option is the rest of its word, or else the next
word unless that is an option.

A value is looked at when the next word has shown what it is, so of two faults the one that shows first is reported.
-/

namespace RuleCap.CommandLine

/-- What a command line asks for. -/
structure Request where
  path : Path
  limit : Option Limit
  ignored : List Text
  config : Option Path
  output : Option Path
  verbosity : Nat
deriving DecidableEq, Repr

/-- Where the trimmed list goes. -/
def Request.outputPath (r : Request) : Path := r.output.getD r.path

/-- How often the wish for more words is counted. -/
def greatestVerbosity : Nat := 255

/-- A command line being read. -/
structure Reader where
  path : Option Path
  limit : Option Limit
  ignored : List Text
  config : Option Path
  output : Option Path
  verbosity : Nat
  /-- The slots filled, in order. -/
  given : List Slot
  /-- The slot that the next word fills which is no option. -/
  next : Slot
  /-- A slot whose words have not been looked at. -/
  waiting : Option (Slot × List Bytes)
  /-- Whether no word can be an option any more. -/
  trailing : Bool
deriving Repr

/-- A step of reading. -/
abbrev Step := Except Stop Reader

namespace Reader

/-- Nothing read. -/
def start : Reader := ⟨none, none, [], none, none, 0, [], .path, none, false⟩

/-- Refuses a command line. -/
def refuse {α : Type} (fault : UsageFault) : Except Stop α := .error (.refused fault)

/-! ## Values -/

/-- A path, which may not be empty. -/
def pathValue (slot : Slot) : List Bytes → Except Stop Path
  | [] => refuse (.noValue slot)
  | [] :: _ => refuse (.noValue slot)
  | path :: _ => .ok path

/-- A word that has to be text. -/
def textValue (word : Bytes) : Except Stop Text :=
  match Utf8.decode? word with
  | some t => .ok t
  | none => refuse .notUtf8

/-- A limit. -/
def limitValue (word : Bytes) : Except Stop Limit := do
  let t ← textValue word
  match Limit.ofText? t with
  | some l => .ok l
  | none => refuse (.badLimit t)

/-- The slots filled once a slot is filled by some words. -/
def givenWith (r : Reader) (slot : Slot) (words : List Bytes) : List Slot :=
  if slot.takesValue then
    if words.isEmpty then r.given
    else if r.given.contains slot then r.given.filter (· ≠ slot)
    else r.given ++ [slot]
  else if slot = .verbose then r.given.filter (· ≠ slot) ++ [slot]
  else if r.given.contains slot then r.given
  else r.given ++ [slot]

/-- Fills a slot. -/
def fill (r : Reader) (slot : Slot) (words : List Bytes) : Step :=
  if slot.takesValue ∧ ¬words.isEmpty ∧ r.given.contains slot then refuse (.repeated slot)
  else
    let r' := { r with given := r.givenWith slot words }
    match slot with
    | .path => do .ok { r' with path := some (← pathValue slot words) }
    | .limit => do .ok { r' with limit := some (← limitValue (words.head?.getD [])) }
    | .ignored => do .ok { r' with ignored := r'.ignored ++ (← words.mapM textValue) }
    | .config => do .ok { r' with config := some (← pathValue slot words) }
    | .output => do .ok { r' with output := some (← pathValue slot words) }
    | .verbose => .ok { r' with verbosity := min (r'.verbosity + 1) greatestVerbosity }
    | .help => .error .help
    | .version => .error .version

/-- Looks at the words that wait. -/
def settle (r : Reader) : Step :=
  match r.waiting with
  | none => .ok r
  | some (slot, words) => fill { r with waiting := none } slot words

/-- Fills a slot once nothing waits. -/
def settleAndFill (r : Reader) (slot : Slot) (words : List Bytes) : Step := do
  (← r.settle).fill slot words

/-- Lets words wait once nothing else does. -/
def settleAndWait (r : Reader) (slot : Slot) (words : List Bytes) : Step := do
  .ok { (← r.settle) with waiting := some (slot, words) }

/-- Fills the slot of an option, or waits for its value. -/
def option (r : Reader) (slot : Slot) (value : Option Bytes) : Step :=
  match slot.takesValue, value with
  | true, some value => r.settleAndFill slot [value]
  | true, none => r.settleAndWait slot []
  | false, _ => r.settleAndFill slot []

/-! ## Words -/

/-- The byte of a dash. -/
def dash : UInt8 := 0x2D

/-- The byte of an equality sign. -/
def equals : UInt8 := 0x3D

/-- Whether digits, a point after the first of them and an exponent with digits make a number. -/
def isNumber (t : Text) : Bool :=
  let whole := t.takeWhile Char.isDigit
  let rest := t.dropWhile Char.isDigit
  let rest := match rest with
    | '.' :: rest => rest.dropWhile Char.isDigit
    | rest => rest
  !whole.isEmpty &&
    match rest with
    | [] => true
    | e :: digits => (e == 'e' || e == 'E') && !digits.isEmpty && digits.all Char.isDigit

/-- The slots filled that are worth a mention: the words passed over never are. -/
def shown (given : List Slot) : List Slot := given.filter (· ≠ .ignored)

/-- Refuses a long option that there is not. -/
def unknownLong (r : Reader) (name : Text) : Step :=
  let given := match r.waiting with
    | some (slot, words) => r.givenWith slot words
    | none => r.given
  let near := (nearest name (Slot.longNames.map (·.1))).bind Slot.ofName?
  refuse (.unknown ('-' :: '-' :: name) near (shown given))

/-- A long option, less the dashes. -/
def long (r : Reader) (word : Bytes) : Step :=
  let name := word.takeWhile (· ≠ equals)
  let value := if word.contains equals then some (word.drop (name.length + 1)) else none
  let shownName := Utf8.decode name
  match (Utf8.decode? name).bind Slot.ofName? with
  | none => r.unknownLong shownName
  | some slot =>
    match slot.takesValue, value with
    | false, some value =>
      refuse (.unneeded (Utf8.decode value) slot !r.given.isEmpty)
    | _, _ => r.option slot value

/-- The first character of some bytes, if they begin with one. -/
def firstChar? (bytes : Bytes) : Option Char :=
  [1, 2, 3, 4].findSome? fun n =>
    match Utf8.decode? (bytes.take n) with
    | some [c] => some c
    | _ => none

/-- A letter that is no option, as it is shown. -/
def letterText (bytes : Bytes) : Text :=
  match firstChar? bytes with
  | some c => ['-', c]
  | none => '-' :: Utf8.decode bytes

/-- The value of a one-letter option that the rest of its word holds. -/
def attached : Bytes → Option Bytes
  | [] => none
  | b :: rest => if b = equals then some rest else some (b :: rest)

/-- A row of one-letter options, less the dash. -/
def short (r : Reader) : Bytes → Step
  | [] => .ok r
  | b :: rest =>
    match Slot.ofLetter? (Char.ofNat b.toNat) with
    | none => refuse (.unknown (letterText (b :: rest)) none [])
    | some slot =>
      if slot.takesValue then r.option slot (attached rest)
      else do short (← r.option slot none) rest

/-- A word that is no option: the value of the option that waits for one, or the next of the others. -/
def plain (r : Reader) (word : Bytes) : Step :=
  match r.waiting, r.trailing with
  | some (slot, []), false => .ok { r with waiting := some (slot, [word]) }
  | _, _ =>
    match r.next, r.waiting with
    | .path, _ => do .ok { (← r.settleAndWait .path [word]) with next := .limit }
    | .limit, _ => do .ok { (← r.settleAndWait .limit [word]) with next := .ignored }
    | _, some (.ignored, words) => .ok { r with waiting := some (.ignored, words ++ [word]) }
    | _, _ => r.settleAndWait .ignored [word]

/-- **Reads a word.** -/
def word (r : Reader) (w : Bytes) : Step :=
  if r.trailing then r.plain w
  else
    match w with
    | 0x2D :: 0x2D :: [] => .ok { r with trailing := true }
    | 0x2D :: 0x2D :: rest => r.long rest
    | 0x2D :: b :: rest =>
      if r.next = .limit ∧ isNumber (Utf8.decode (b :: rest)) then r.plain w else r.short (b :: rest)
    | _ => r.plain w

/-- The request at the end of the words. -/
def finish (r : Reader) : Except Stop Request := do
  let r ← r.settle
  match r.path with
  | none => refuse (.missingPath (shown r.given))
  | some path => .ok ⟨path, r.limit, r.ignored, r.config, r.output, r.verbosity⟩

end Reader

/-- **The request of a command line.** -/
def Request.ofWords (words : List Bytes) : Except Stop Request := do
  (← words.foldlM Reader.word Reader.start).finish

end RuleCap.CommandLine
