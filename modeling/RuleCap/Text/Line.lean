import RuleCap.Text

/-!
# Lines

Ten characters end a line, and a carriage return with the newline after it ends one line only. `breakLines` cuts a
text into lines together with what ends them, so nothing is lost; `splitLines` keeps the lines alone. The last line
may lack an end, but then it is not empty.
-/

namespace RuleCap

/-- The characters that end a line. -/
def lineBreaks : List Char :=
  ['\n', '\r', '\x0B', '\x0C', '\x1C', '\x1D', '\x1E', '\u0085', '\u2028', '\u2029']

/-- Whether a character ends a line. -/
def isBreak (c : Char) : Bool := lineBreaks.contains c

/-- A line and what ends it: one break, a carriage return with a newline, or nothing at the end of the text. -/
structure BrokenLine where
  text : Text
  terminator : Text
deriving DecidableEq, Repr

/-- Puts a character in front of the first line. -/
def extendFirst (c : Char) : List BrokenLine → List BrokenLine
  | [] => [⟨[c], []⟩]
  | line :: rest => ⟨c :: line.text, line.terminator⟩ :: rest

/-- **The lines of a text with their terminators.** -/
def breakLines : Text → List BrokenLine
  | [] => []
  | '\r' :: '\n' :: rest => ⟨[], ['\r', '\n']⟩ :: breakLines rest
  | c :: rest => if isBreak c then ⟨[], [c]⟩ :: breakLines rest else extendFirst c (breakLines rest)

/-- **The lines of a text**, without what ends them. -/
def splitLines (t : Text) : List Text :=
  (breakLines t).map (·.text)

example : splitLines "a\r\nb\rc\n\nd".toList = ["a", "b", "c", "", "d"].map (·.toList) := by decide

example : splitLines "\n\r".toList = [[], []] ∧ splitLines "x\n".toList = ["x".toList] := by decide

end RuleCap
