import RuleCap.Path
import RuleCap.Yaml.Settings

/-!
# Storage

A storage holds bytes under paths. What may go wrong with it is a `StorageFault`; what may go wrong with a trim is a
`Failure`, which names the path and the fault. `Storage` is what the two kinds of storage have in common: the shelf in
memory and the tree of files.
-/

namespace RuleCap

/-- Why something can not be read or written. -/
inductive StorageFault
  /-- Nothing is kept in memory under the path. -/
  | noSuchList
  /-- There is no such file or directory. -/
  | notFound
  /-- The path leads to a directory. -/
  | isDirectory
  /-- The path goes through a file, or wants a file to be a directory. -/
  | notDirectory
  /-- The path or a name in it is too long. -/
  | nameTooLong
  /-- The path has a byte zero. -/
  | zeroByte
  /-- The file is not UTF-8. -/
  | notUtf8
  /-- What the system says of another fault. -/
  | other (message : String)
deriving DecidableEq, Repr

/-- The wording of a fault. -/
def StorageFault.message : StorageFault → String
  | noSuchList => "no such list"
  | notFound => "No such file or directory (os error 2)"
  | isDirectory => "Is a directory (os error 21)"
  | notDirectory => "Not a directory (os error 20)"
  | nameTooLong => "File name too long (os error 36)"
  | zeroByte => "file name contained an unexpected NUL byte"
  | notUtf8 => "stream did not contain valid UTF-8"
  | other message => message

/-- Why a trim or the reading of settings fails. -/
inductive Failure
  /-- The list can not be read. -/
  | read (path : Path) (fault : StorageFault)
  /-- The list can not be written. -/
  | write (path : Path) (fault : StorageFault)
  /-- The settings can not be read. -/
  | readSettings (path : Path) (fault : StorageFault)
  /-- The settings make no sense. -/
  | parseSettings (path : Path) (fault : YamlFault)
deriving Repr

namespace Failure

/-- The wording of what is behind a failure. -/
def cause : Failure → String
  | read _ fault => fault.message
  | write _ fault => fault.message
  | readSettings _ fault => fault.message
  | parseSettings _ fault => fault.message

/-- The path of a failure. -/
def path : Failure → Path
  | read path _ => path
  | write path _ => path
  | readSettings path _ => path
  | parseSettings path _ => path

/-- What can not be done. -/
def task : Failure → String
  | read .. => "read filter list"
  | write .. => "write filter list"
  | readSettings .. => "read config file"
  | parseSettings .. => "parse config file"

/-- The wording of a failure. -/
def message (f : Failure) : String :=
  s!"Failed to {f.task} at {String.ofList f.path.toText}: {f.cause}"

end Failure

/-- A state that holds bytes under paths. -/
class Storage (σ : Type) where
  /-- The bytes under a path. -/
  read : σ → Path → Except StorageFault Bytes
  /-- Puts bytes under a path, instead of what is there. A write that fails is assumed to leave the state as it is, and
  none to leave a part of the bytes. -/
  write : σ → Path → Bytes → Except StorageFault σ

end RuleCap
