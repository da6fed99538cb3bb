import RuleCap.Lists

/-!
# Sessions

A session is a row of calls on one storage: bytes are put there as they are, lists are looked for, read, written and
trimmed. Each trim goes by settings of its own, as the trimmers that share a storage do. A call is a job (`Call.job`);
a session answers every call, and goes on after one that failed (`serve`).
-/

namespace RuleCap

/-- What is asked of a storage from outside. -/
inductive Call
  /-- Puts bytes under a path. -/
  | put (path : Path) (bytes : Bytes)
  /-- Looks for a list, of which there need not be one. -/
  | get (path : Path)
  /-- Reads a list. -/
  | read (path : Path)
  /-- Writes a list. -/
  | write (path : Path) (text : Text)
  /-- Trims the list under one path and writes it under another. -/
  | trim (s : Settings) (now : Instant) (input output : Path)
  /-- Trims a list where it is. -/
  | trimInPlace (s : Settings) (now : Instant) (path : Path)

/-- What a call that does not fail gives back. -/
inductive Reply
  | stored
  | found (text : Option Text)
  | text (text : Text)
  | tally (tally : Tally)
deriving DecidableEq, Repr

namespace Call

/-- The paths of a call. -/
def paths : Call → List Path
  | put path _ => [path]
  | get path => [path]
  | read path => [path]
  | write path _ => [path]
  | trim _ _ input output => [input, output]
  | trimInPlace _ _ path => [path]

/-- The job of a call. -/
def job : Call → Job (Except Failure Reply)
  | put path bytes => do
    match ← Job.tell path bytes with
    | .ok () => pure (.ok .stored)
    | .error fault => pure (.error (.write path fault))
  | get path => return .ok (.found ((← Job.ask path).toOption.map Utf8.decode))
  | read path => return (← readList path).map .text
  | write path text => return (← writeList path text).map fun _ => .stored
  | trim s now input output => return (← trimFile s now input output).map .tally
  | trimInPlace s now path => return (← RuleCap.trimInPlace s now path).map .tally

end Call

/-- **Serves calls one after the other**: the storage they leave, and the answer to each. -/
def serve {σ : Type} [Storage σ] : List Call → σ → σ × List (Except Failure Reply)
  | [], s => (s, [])
  | call :: rest, s =>
    let outcome := call.job.run s
    let later := serve rest outcome.state
    (later.1, outcome.answer :: later.2)

end RuleCap
