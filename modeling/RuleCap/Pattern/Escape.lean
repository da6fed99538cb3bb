import RuleCap.Pattern.Tree

/-!
# Escapes and other small parts of a pattern

An `Atom` is a part of a pattern without parts of its own. `escape` reads the one behind a backslash: a character by its
number or its letter, a character that would mean something else without the backslash, a set of characters, or an
assertion.
-/

namespace RuleCap.Pattern

/-- A part of a pattern without parts of its own. -/
inductive Atom
  | literal (l : Literal)
  | dot (span : Span)
  | assertion (span : Span) (kind : Assertion)
  | shorthand (span : Span) (kind : Shorthand) (negated : Bool)
  | property (span : Span) (name : Text)
deriving Repr

namespace Atom

/-- The span of an atom. -/
def span : Atom → Span
  | literal l => l.span
  | dot span => span
  | assertion span _ => span
  | shorthand span .. => span
  | property span _ => span

/-- An atom as a pattern. -/
def tree : Atom → Tree
  | literal l => .literal l
  | dot span => .dot span
  | assertion span kind => .assertion span kind
  | shorthand span kind negated => .shorthand span kind negated
  | property span name => .property span name

end Atom

/-! ## Characters by number -/

/-- The value of a hexadecimal digit. -/
def hexValue? (c : Char) : Option Nat :=
  if '0' ≤ c ∧ c ≤ '9' then some (c.toNat - '0'.toNat)
  else if 'a' ≤ c ∧ c ≤ 'f' then some (c.toNat - 'a'.toNat + 10)
  else if 'A' ≤ c ∧ c ≤ 'F' then some (c.toNat - 'A'.toNat + 10)
  else none

/-- Whether a character is a hexadecimal digit. -/
def isHexDigit (c : Char) : Bool := (hexValue? c).isSome

/-- The character with a number in hexadecimal digits. -/
def hexChar? (digits : Text) : Option Char :=
  let n := digits.foldl (fun n d => n * 16 + (hexValue? d).getD 0) 0
  if n.isValidChar then some (Char.ofNat n) else none

/-- A number of hexadecimal digits. -/
def hexDigits : Nat → Cursor → Except Fault (Text × Cursor)
  | 0, c => .ok ([], c)
  | n + 1, c =>
    match c.rest with
    | [] => fault .escapeUnfinished c.here
    | d :: _ =>
      if isHexDigit d then do
        let (digits, c) ← hexDigits n c.step
        .ok (d :: digits, c)
      else fault .hexDigit c.one

/-- A character by a number between braces, at the first of them. -/
def bracedHex (first : Spot) (c : Cursor) : Except Fault (Atom × Cursor) :=
  let (digits, last) := c.step.collect isHexDigit
  match last.char? with
  | none => fault .escapeUnfinished (last.since c.spot)
  | some '\x7D' =>
    if digits.isEmpty then fault .hexEmpty (last.step.since c.spot)
    else
      match hexChar? digits with
      | some d => .ok (.literal ⟨last.step.since first, d, false⟩, last.step)
      | none => fault .hexNoCharacter (last.since c.next.spot)
  | some _ => fault .hexDigit last.one

/-- A character by its number: the cursor stands at the letter that says how many digits there are without braces. -/
def hex (first : Spot) (letter : Char) (c : Cursor) : Except Fault (Atom × Cursor) :=
  let inside := c.step
  match inside.char? with
  | none => fault .escapeUnfinished inside.here
  | some '\x7B' => bracedHex first inside
  | some _ => do
    let (digits, last) ← hexDigits (if letter = 'x' then 2 else if letter = 'u' then 4 else 8) inside
    match hexChar? digits with
    | some d => .ok (.literal ⟨last.since first, d, letter == 'x'⟩, last)
    | none => fault .hexNoCharacter (last.since inside.spot)

/-! ## Sets of characters -/

/-- A set of characters by a property, at the letter behind the backslash. -/
def property (first : Spot) (c : Cursor) : Except Fault (Atom × Cursor) :=
  let inside := c.step
  match inside.char? with
  | none => fault .escapeUnfinished inside.here
  | some '\x7B' =>
    let (name, last) := inside.step.collect (· != '\x7D')
    if last.atEnd then fault .escapeUnfinished last.here
    else .ok (.property (last.next.since first) name, last.next)
  | some '\\' => fault .propertyInvalid inside.one
  | some d => .ok (.property (inside.step.since first) [d], inside.step)

/-- The set of characters that a letter stands for. -/
def shorthandOf? (c : Char) : Option (Shorthand × Bool) :=
  [('d', .digit, false), ('s', .space, false), ('w', .word, false), ('D', .digit, true), ('S', .space, true),
    ('W', .word, true)].lookup c

/-! ## Assertions -/

/-- The assertions on words that have a name. -/
def boundaryNames : List (Text × Assertion) :=
  [("start".toList, .wordStart), ("end".toList, .wordEnd), ("start-half".toList, .wordStartHalf),
    ("end-half".toList, .wordEndHalf)]

/-- An assertion on words, behind its letter. A name between braces makes it a special one; any other brace is the begin
of a repetition. -/
def boundary (first : Spot) (c : Cursor) : Except Fault (Atom × Cursor) :=
  let plain : Except Fault (Atom × Cursor) := .ok (.assertion (c.since first) .wordBoundary, c)
  let isNamed (d : Char) : Bool := d.isAlpha || d == '-'
  match c.char? with
  | some '\x7B' =>
    let inside := c.step
    match inside.char? with
    | none => fault .boundaryUnfinished (inside.since first)
    | some d =>
      if !isNamed d then plain
      else
        let (name, last) := inside.collect isNamed
        if last.char? ≠ some '\x7D' then fault .boundaryUnclosed (last.since c.spot)
        else
          match boundaryNames.lookup name with
          | some kind => .ok (.assertion (last.next.since first) kind, last.next)
          | none => fault .boundaryUnknown (last.since inside.spot)
  | _ => plain

/-- The assertions with a letter of their own. -/
def assertionOf? (c : Char) : Option Assertion :=
  [('A', .textStart), ('z', .textEnd), ('B', .noWordBoundary), ('<', .wordStart), ('>', .wordEnd)].lookup c

/-! ## Escapes -/

/-- The characters with a letter of their own. -/
def controlOf? (c : Char) : Option Char :=
  [('a', '\x07'), ('f', '\x0C'), ('t', '\t'), ('n', '\n'), ('r', '\r'), ('v', '\x0B')].lookup c

/-- Whether a character stands for itself behind a backslash: those of ASCII do that are no letters, digits or angles. -/
def isEscapable (c : Char) : Bool := c.toNat < 0x80 && !c.isAlphanum && c != '<' && c != '>'

/-- **An escape**, at its backslash. -/
def escape (c : Cursor) : Except Fault (Atom × Cursor) :=
  let first := c.spot
  let c := c.next
  let span := c.next.since first
  match c.char? with
  | none => fault .escapeUnfinished (c.since first)
  | some d =>
    if d.isDigit then fault .backreference span
    else if d = 'x' ∨ d = 'u' ∨ d = 'U' then hex first d c
    else if d = 'p' ∨ d = 'P' then property first c
    else if d = 'b' then boundary first c.next
    else if isEscapable d then .ok (.literal ⟨span, d, false⟩, c.next)
    else
      match shorthandOf? d, controlOf? d, assertionOf? d with
      | some (kind, negated), _, _ => .ok (.shorthand span kind negated, c.next)
      | _, some e, _ => .ok (.literal ⟨span, e, false⟩, c.next)
      | _, _, some kind => .ok (.assertion span kind, c.next)
      | _, _, _ => fault .escapeUnknown span

/-- An atom outside brackets. -/
def atom (c : Cursor) (d : Char) : Except Fault (Atom × Cursor) :=
  match d with
  | '\\' => escape c
  | '.' => .ok (.dot c.one, c.next)
  | '^' => .ok (.assertion c.one .lineStart, c.next)
  | '$' => .ok (.assertion c.one .lineEnd, c.next)
  | _ => .ok (.literal ⟨c.one, d, false⟩, c.next)

/-- An atom between brackets: there only the backslash is special. -/
def classAtom (c : Cursor) (d : Char) : Except Fault (Atom × Cursor) :=
  if d = '\\' then escape c else .ok (.literal ⟨c.one, d, false⟩, c.next)

end RuleCap.Pattern
