import RuleCap.Text

/-!
# Faults of a pattern

A pattern that can not be read has a flaw at a span of its text; a flaw that is a repetition of something also has the
span of what came first. `Fault.report` shows the pattern with its spans marked and says what the flaw is.
-/

namespace RuleCap.Pattern

/-- A place in a pattern: the characters before it, and its line and column, both counted from one. -/
structure Spot where
  offset : Nat
  line : Nat
  column : Nat
deriving DecidableEq, Repr

namespace Spot

/-- The begin of a pattern. -/
def start : Spot := ⟨0, 1, 1⟩

/-- The place after a character. -/
def after (s : Spot) (c : Char) : Spot :=
  if c = '\n' then ⟨s.offset + 1, s.line + 1, 1⟩ else ⟨s.offset + 1, s.line, s.column + 1⟩

end Spot

/-- A part of a pattern. -/
structure Span where
  first : Spot
  last : Spot
deriving DecidableEq, Repr

/-- What can be wrong with a pattern. -/
inductive Flaw
  | classEscape
  | classOrder
  | classBoundary
  | classUnclosed
  | decimalTooLarge
  | countEmpty
  | countOrder
  | countUnclosed
  | operandMissing
  | hexEmpty
  | hexNoCharacter
  | hexDigit
  | escapeUnfinished
  | escapeUnknown
  | flagNegationDangling
  | flagTwice
  | flagNegationTwice
  | flagsUnfinished
  | flagUnknown
  | nameTwice
  | nameEmpty
  | nameCharacter
  | nameUnclosed
  | groupUnclosed
  | groupUnopened
  | tooDeep
  | boundaryUnclosed
  | boundaryUnknown
  | boundaryUnfinished
  | propertyInvalid
  | backreference
  | lookAround
  | unicodeHere
  | notUtf8
  | propertyUnknown
  | propertyValueUnknown
  | shorthandMissing
  | foldingMissing
deriving DecidableEq, Repr

/-- How deep groups, repetitions and classes may be nested. -/
def greatestDepth : Nat := 250

/-- The wording of a flaw. -/
def Flaw.message : Flaw → String
  | classEscape => "invalid escape sequence found in character class"
  | classOrder => "invalid character class range, the start must be <= the end"
  | classBoundary => "invalid range boundary, must be a literal"
  | classUnclosed => "unclosed character class"
  | decimalTooLarge => "decimal literal invalid"
  | countEmpty => "repetition quantifier expects a valid decimal"
  | countOrder => "invalid repetition count range, the start must be <= the end"
  | countUnclosed => "unclosed counted repetition"
  | operandMissing => "repetition operator missing expression"
  | hexEmpty => "hexadecimal literal empty"
  | hexNoCharacter => "hexadecimal literal is not a Unicode scalar value"
  | hexDigit => "invalid hexadecimal digit"
  | escapeUnfinished => "incomplete escape sequence, reached end of pattern prematurely"
  | escapeUnknown => "unrecognized escape sequence"
  | flagNegationDangling => "dangling flag negation operator"
  | flagTwice => "duplicate flag"
  | flagNegationTwice => "flag negation operator repeated"
  | flagsUnfinished => "expected flag but got end of regex"
  | flagUnknown => "unrecognized flag"
  | nameTwice => "duplicate capture group name"
  | nameEmpty => "empty capture group name"
  | nameCharacter => "invalid capture group character"
  | nameUnclosed => "unclosed capture group name"
  | groupUnclosed => "unclosed group"
  | groupUnopened => "unopened group"
  | tooDeep => s!"exceed the maximum number of nested parentheses/brackets ({greatestDepth})"
  | boundaryUnclosed => "special word boundary assertion is either unclosed or contains an invalid character"
  | boundaryUnknown =>
    "unrecognized special word boundary assertion, valid choices are: start, end, start-half or end-half"
  | boundaryUnfinished =>
    "found either the beginning of a special word boundary or a bounded repetition on a \\b with an opening brace, " ++
      "but no closing brace"
  | propertyInvalid => "invalid Unicode character class"
  | backreference => "backreferences are not supported"
  | lookAround => "look-around, including look-ahead and look-behind, is not supported"
  | unicodeHere => "Unicode not allowed here"
  | notUtf8 => "pattern can match invalid UTF-8"
  | propertyUnknown => "Unicode property not found"
  | propertyValueUnknown => "Unicode property value not found"
  | shorthandMissing => "Unicode-aware Perl class not found (make sure the unicode-perl feature is enabled)"
  | foldingMissing =>
    "Unicode-aware case insensitivity matching is not available (make sure the unicode-case feature is enabled)"

/-- A flaw, where it is, and where that is of which it is a repetition. -/
structure Fault where
  flaw : Flaw
  span : Span
  earlier : Option Span
deriving DecidableEq, Repr

/-- A flaw at a span. -/
def fault {α : Type} (flaw : Flaw) (span : Span) : Except Fault α := .error ⟨flaw, span, none⟩

/-! ## Reports -/

/-- The lines of a pattern. A carriage return before a newline belongs to the break, and behind the last newline there is
no line unless something stands there. -/
def linesOf (pattern : Text) : List Text :=
  let lines := pieces '\n' pattern
  let closed := lines.dropLast.map fun line => if line.getLast? = some '\r' then line.dropLast else line
  match lines.getLast? with
  | some (c :: rest) => closed ++ [c :: rest]
  | _ => closed

/-- The marks below a line for spans on it, from a column on. -/
def marksFrom : Nat → List Span → Text
  | _, [] => []
  | column, span :: rest =>
    let length := max 1 (span.last.column - span.first.column)
    List.replicate (span.first.column - column) ' ' ++ List.replicate length '^' ++
      marksFrom (max column span.first.column + length) rest

namespace Fault

/-- The spans of a fault, in order. -/
def spans (f : Fault) : List Span :=
  match f.earlier with
  | some other =>
    if f.span.first.offset < other.first.offset then [f.span, other] else [other, f.span]
  | none => [f.span]

/-- The lines of a pattern, each with the marks of the spans on it, behind a margin. -/
def notes (f : Fault) (pattern : Text) : String :=
  let count := (linesOf pattern).length + (if pattern.getLast? = some '\n' then 1 else 0)
  let width := if count ≤ 1 then 0 else (Nat.toDigits 10 count).length
  String.join ((linesOf pattern).zipIdx.map fun (line, i) =>
    let margin :=
      if width = 0 then [' ', ' ', ' ', ' '] else (Nat.toDigits 10 (i + 1)).leftpad width ' ' ++ [':', ' ']
    let here := f.spans.filter fun s => s.first.line = i + 1 ∧ s.last.line = i + 1
    let marks := if here.isEmpty then [] else List.replicate margin.length ' ' ++ marksFrom 1 here ++ ['\n']
    String.ofList (margin ++ line ++ ['\n'] ++ marks))

/-- The note on a span of several lines. -/
def longSpanNote (s : Span) : String :=
  s!"on line {s.first.line} (column {s.first.column}) through line {s.last.line} (column {s.last.column - 1})"

/-- **The report of a fault**: the pattern with its spans marked, and the flaw. -/
def report (f : Fault) (pattern : Text) : String :=
  let body :=
    if pattern.contains '\n' then
      let divider := String.ofList (List.replicate 79 '~') ++ "\n"
      let long := f.spans.filter fun s => s.first.line ≠ s.last.line
      divider ++ f.notes pattern ++ divider ++
        (if long.isEmpty then "" else "\n".intercalate (long.map longSpanNote) ++ "\n")
    else f.notes pattern
  "regex parse error:\n" ++ body ++ "error: " ++ f.flaw.message

example : report ⟨.groupUnclosed, ⟨⟨1, 1, 2⟩, ⟨2, 1, 3⟩⟩, none⟩ "a(".toList =
    "regex parse error:\n    a(\n     ^\nerror: unclosed group" := by decide +kernel

end Fault

end RuleCap.Pattern
