import RuleCap.Text.Utf8

/-!
# Paths

A path is a row of bytes in which slashes part the names. Two paths are the same (`Path.same`) when they have the same
components: slashes in a row count once, a slash at the end and a point between names count for nothing, a point at the
begin and two points anywhere are components of their own.
-/

namespace RuleCap

/-- A path, byte by byte. -/
abbrev Path := Bytes

namespace Path

/-- The byte of a slash. -/
def slash : UInt8 := 0x2F

/-- The name that stands for the directory itself. -/
def here : Bytes := [0x2E]

/-- The name that stands for the directory around it. -/
def up : Bytes := [0x2E, 0x2E]

/-- The names of a path, the points among them. -/
def names (p : Path) : List Bytes := (pieces slash p).filter fun name => !name.isEmpty

/-- Whether a path begins at the root. -/
def isAbsolute (p : Path) : Bool := p.head? == some slash

/-- Whether a path ends with a slash. -/
def endsWithSlash (p : Path) : Bool := p.getLast? == some slash

/-- A part of a path that counts when paths are compared. -/
inductive Component
  | root
  | name (bytes : Bytes)
deriving DecidableEq, Repr

/-- The components of a path. -/
def components (p : Path) : List Component :=
  let lead : List Component :=
    if p.isAbsolute then [.root] else if p.names.head? = some here then [.name here] else []
  lead ++ (p.names.filter (· ≠ here)).map .name

/-- **Whether two paths are the same.** -/
def same (p q : Path) : Bool := p.components == q.components

/-- A path as it is shown. -/
def toText (p : Path) : Text := Utf8.decode p

/-- A path given as text. -/
def ofText (t : Text) : Path := Utf8.encode t

example : same (ofText "a//b/./c/".toList) (ofText "a/b/c".toList) := by decide

example : same (ofText "./a".toList) (ofText "a".toList) = false ∧ same [] here = false := by decide

end Path

end RuleCap
