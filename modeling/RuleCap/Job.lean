import RuleCap.Log
import RuleCap.Storage

/-!
# Jobs

A job says what a run asks of the world, one thing after the other: to keep a record, to read what is under a path, to
write something there. What it does next may hang on the answers. The same job is run on lists in memory, on a tree of
files (`Job.run`) and on the real system.
-/

namespace RuleCap

/-- What a run asks of the world before it has an answer. -/
inductive Job (α : Type) where
  | done (a : α)
  | note (r : Log.Record) (next : Job α)
  | read (path : Path) (next : Except StorageFault Bytes → Job α)
  | write (path : Path) (bytes : Bytes) (next : Except StorageFault Unit → Job α)

namespace Job

variable {α β σ : Type}

/-- One job after the other. -/
def bind : Job α → (α → Job β) → Job β
  | done a, f => f a
  | note r next, f => note r (next.bind f)
  | read path next, f => read path fun answer => (next answer).bind f
  | write path bytes next, f => write path bytes fun answer => (next answer).bind f

instance : Monad Job where
  pure := done
  bind := bind

/-- What is left of the world after a job: the state, the records kept, and the answer. -/
structure Outcome (σ α : Type) where
  state : σ
  records : List Log.Record
  answer : α

/-- The outcome with a record in front of the others. -/
def Outcome.after (r : Log.Record) (o : Outcome σ α) : Outcome σ α := { o with records := r :: o.records }

/-- **Runs a job on a storage.** What can not be written leaves the storage as it is: so it is assumed of a storage that
its writes fail before the first byte or not at all. -/
def run [Storage σ] : Job α → σ → Outcome σ α
  | done a, s => ⟨s, [], a⟩
  | note r next, s => (next.run s).after r
  | read path next, s => (next (Storage.read s path)).run s
  | write path bytes next, s =>
    match Storage.write s path bytes with
    | .ok s' => (next (.ok ())).run s'
    | .error fault => (next (.error fault)).run s

/-! ## Requests -/

/-- Keeps a record. -/
def log (level : Log.Level) (source : Log.Source) (text : String) : Job Unit :=
  note ⟨level, source, text⟩ (done ())

/-- Asks for the bytes under a path. -/
def ask (path : Path) : Job (Except StorageFault Bytes) := read path done

/-- Asks for bytes to be put under a path. -/
def tell (path : Path) (bytes : Bytes) : Job (Except StorageFault Unit) := write path bytes done

end Job

end RuleCap
