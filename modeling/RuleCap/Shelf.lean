import RuleCap.Storage

/-!
# Lists in memory

A shelf keeps lists in memory under their paths, of which equal ones share a list.
-/

namespace RuleCap

/-- Lists under paths, no two of which are the same. -/
structure Shelf where
  lists : List (Path × Bytes)

namespace Shelf

/-- The shelf without a list. -/
def empty : Shelf := ⟨[]⟩

/-- The bytes under a path. -/
def get? (s : Shelf) (path : Path) : Option Bytes :=
  (s.lists.find? fun e => e.1.same path).map (·.2)

/-- Puts bytes under a path. -/
def insert (s : Shelf) (path : Path) (bytes : Bytes) : Shelf :=
  ⟨(path, bytes) :: s.lists.filter fun e => !e.1.same path⟩

instance : Storage Shelf where
  read s path :=
    match s.get? path with
    | some bytes => .ok bytes
    | none => .error .noSuchList
  write s path bytes := .ok (s.insert path bytes)

end Shelf

end RuleCap
