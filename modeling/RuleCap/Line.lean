import RuleCap.Text.Blank
import RuleCap.Text.Line

/-!
# Kinds of lines

A line of a list is a comment, a blank or a rule. A comment begins with one of the configured prefixes, on the line as
it stands; an empty prefix marks nothing. A line that is both a comment and blank counts as a comment.
-/

namespace RuleCap

/-- What a line of a list is. -/
inductive LineKind
  | comment
  | blank
  | rule
deriving DecidableEq, Repr

/-- Comments and blanks may stand in a header. -/
def LineKind.inHeader : LineKind → Bool
  | .comment => true
  | .blank => true
  | .rule => false

/-- The prefixes that mark a comment. -/
abbrev Prefixes := List Text

/-- Whether a line is a comment: a prefix that is not empty begins it. -/
def isComment (prefixes : Prefixes) (line : Text) : Bool :=
  prefixes.any fun p => !p.isEmpty && p.isPrefixOf line

/-- Whether a line is blank. -/
def isBlankLine (line : Text) : Bool := line.all isBlank

/-- **The kind of a line.** -/
def kindOf (prefixes : Prefixes) (line : Text) : LineKind :=
  if isComment prefixes line then .comment
  else if isBlankLine line then .blank
  else .rule

/-- Whether a line is a rule. -/
def isRule (prefixes : Prefixes) (line : Text) : Bool := kindOf prefixes line == .rule

end RuleCap
