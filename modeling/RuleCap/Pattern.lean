import RuleCap.Pattern.Size

/-!
# Patterns

A pattern says which texts it is found in. `Pattern.ofText` reads one: the text becomes a tree, the tree a meaning, and
the meaning is refused if it is too large or asks what can not be told. `Pattern.isFoundIn` looks for it in a text.
-/

namespace RuleCap.Pattern

/-- Why a pattern is of no use. -/
inductive Refusal
  | faulty (fault : Fault)
  | needsUnicodeWords
  | tooLarge
deriving DecidableEq, Repr

/-- The wording of a refusal of a pattern. -/
def Refusal.message (pattern : Text) : Refusal → String
  | faulty fault => fault.report pattern
  | needsUnicodeWords => "error building NFA"
  | tooLarge => s!"Compiled regex exceeds size limit of {sizeLimit} bytes."

/-- **The pattern that a text stands for**, or why there is none. -/
def ofText (t : Text) : Except Refusal Pattern :=
  match (do (← Tree.ofText? t).meaning Flags.start : Except Fault (Pattern × Flags)) with
  | .error fault => .error (.faulty fault)
  | .ok (p, _) =>
    if !p.fits then .error .tooLarge
    else if p.needsUnicodeWords then .error .needsUnicodeWords
    else .ok p

example : (ofText "^Read [0-9]+ (kilo)?bytes".toList).toOption.any (·.isFoundIn "Read 10 bytes".toList) = true := by
  decide +kernel

end RuleCap.Pattern
