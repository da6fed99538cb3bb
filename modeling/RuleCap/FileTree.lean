import RuleCap.Storage

/-!
# Trees of files

Files and directories as the system keeps them. A path is followed name by name from the root or from the directory in
which the program runs (`FileTree.follow`); every name but the last has to lead to a directory. To read, the last name
has to be that of a file; to write, it must not be that of a directory. Writing changes the file at the end of the path
and nothing else.

Assumed is that a write fails before its first byte or not at all. All faults here are met on the way to the file, which
is then as before. A write that breaks off with some of the bytes in the file, on a disk that is full, is left out.
-/

namespace RuleCap

/-- The names from the root to a file or directory. -/
abbrev Location := List Bytes

/-- What there is at a location. -/
inductive Entry
  | file (data : Bytes)
  | directory
deriving DecidableEq, Repr

/-- Files and directories by location, and the directory in which the program runs. The root is always there. -/
structure FileTree where
  entries : List (Location × Entry)
  home : Location

namespace FileTree

/-- The tree with one empty directory, in which the program runs. -/
def empty : FileTree := ⟨[([[0x77]], .directory)], [[0x77]]⟩

/-- What there is at a location. -/
def get? (t : FileTree) : Location → Option Entry
  | [] => some .directory
  | location => t.entries.lookup location

/-- Puts something at a location. -/
def put (t : FileTree) (location : Location) (entry : Entry) : FileTree :=
  { t with entries := (location, entry) :: t.entries.filter (·.1 ≠ location) }

/-- The longest name that a directory takes. -/
def longestName : Nat := 255

/-- The longest path that the system takes. -/
def longestPath : Nat := 4095

/-! ## Following paths -/

/-- One name further, into a directory. -/
def enter (t : FileTree) (location : Location) (name : Bytes) : Except StorageFault Location :=
  if name = Path.here then .ok location
  else if name = Path.up then .ok location.dropLast
  else if longestName < name.length then .error .nameTooLong
  else
    match t.get? (location ++ [name]) with
    | some .directory => .ok (location ++ [name])
    | some (.file _) => .error .notDirectory
    | none => .error .notFound

/-- Where a path ends: at a directory that it reaches by a point, two points or the root alone, or at a name in a
directory, with a slash behind it or not. -/
inductive Target
  | directory
  | name (parent : Location) (name : Bytes) (slash : Bool)
deriving DecidableEq, Repr

/-- **Follows a path to its end.** -/
def follow (t : FileTree) (path : Path) : Except StorageFault Target :=
  if path.contains 0 then .error .zeroByte
  else if path.isEmpty then .error .notFound
  else if longestPath < path.length then .error .nameTooLong
  else do
    let start := if path.isAbsolute then [] else t.home
    let names := path.names
    let parent ← names.dropLast.foldlM t.enter start
    match names.getLast? with
    | none => .ok .directory
    | some name =>
      if name = Path.here ∨ name = Path.up then .ok .directory
      else .ok (.name parent name path.endsWithSlash)

/-! ## Reading and writing -/

/-- The bytes of a file. -/
def read (t : FileTree) (path : Path) : Except StorageFault Bytes := do
  match ← t.follow path with
  | .directory => .error .isDirectory
  | .name parent name slash =>
    if longestName < name.length then .error .nameTooLong
    else
      match t.get? (parent ++ [name]) with
      | none => .error .notFound
      | some .directory => .error .isDirectory
      | some (.file data) => if slash then .error .notDirectory else .ok data

/-- The tree with other bytes in a file, which is made if it is not there. There is no tree for a write that fails: it
has failed on the way to the file. -/
def write (t : FileTree) (path : Path) (data : Bytes) : Except StorageFault FileTree := do
  match ← t.follow path with
  | .directory => .error .isDirectory
  | .name parent name slash =>
    if slash then .error .isDirectory
    else if longestName < name.length then .error .nameTooLong
    else if t.get? (parent ++ [name]) = some .directory then .error .isDirectory
    else .ok (t.put (parent ++ [name]) (.file data))

instance : Storage FileTree where
  read := read
  write := write

/-! ## Directories -/

/-- Makes the directories of a path that are not there. -/
def makeDirectories (t : FileTree) (path : Path) : FileTree :=
  let go (state : FileTree × Location) (name : Bytes) : FileTree × Location :=
    if name = Path.here then state
    else if name = Path.up then (state.1, state.2.dropLast)
    else
      let location := state.2 ++ [name]
      if (state.1.get? location).isSome then (state.1, location)
      else (state.1.put location .directory, location)
  (path.names.foldl go (t, if path.isAbsolute then [] else t.home)).1

/-- The files that stand in a directory itself. -/
def filesIn (t : FileTree) (location : Location) : List (Bytes × Bytes) :=
  t.entries.filterMap fun
    | (l, .file data) => if l.dropLast = location then l.getLast?.map (·, data) else none
    | (_, .directory) => none

end FileTree

end RuleCap
