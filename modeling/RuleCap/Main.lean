import RuleCap.Run
import Std.Time.DateTime.Timestamp

/-!
# The program

Runs the job of the command line on the files of the system, with its clock and its streams.
-/

namespace RuleCap.Program

/-- The number of a fault of the system: the system's calls give it as it is or negated. -/
def faultNumber (code : UInt32) : UInt32 :=
  if code.toNat < Nat.pow 2 31 then code else 0 - code

/-- What a fault of the system is called. -/
def faultOf : IO.Error → StorageFault
  | .noFileOrDirectory .. => .notFound
  | .inappropriateType path code details =>
    if faultNumber code = 20 then .notDirectory
    else if faultNumber code = 21 then .isDirectory
    else .other (toString (IO.Error.inappropriateType path code details))
  | .invalidArgument path code details =>
    if faultNumber code = 36 then .nameTooLong
    else .other (toString (IO.Error.invalidArgument path code details))
  | e => .other (toString e)

/-- The answer of an action of the system. -/
def attempt {α : Type} (action : IO α) : IO (Except StorageFault α) := do
  try
    return .ok (← action)
  catch e =>
    return .error (faultOf e)

/-- The bytes of a file. -/
def readFile (path : Path) : IO (Except StorageFault Bytes) :=
  if path.contains 0 then pure (.error .zeroByte)
  else attempt do return (← IO.FS.readBinFile (String.ofList path.toText)).toList

/-- Writes a file. -/
def writeFile (path : Path) (bytes : Bytes) : IO (Except StorageFault Unit) :=
  if path.contains 0 then pure (.error .zeroByte)
  else attempt (IO.FS.writeBinFile (String.ofList path.toText) ⟨bytes.toArray⟩)

/-- Does a job, and writes the records that get through a filter as they come. -/
def perform {α : Type} (filter : Log.Filter) : Job α → IO α
  | .done a => pure a
  | .note r next => do
    if filter.admits r then
      (← IO.getStderr).putStr r.line
    perform filter next
  | .read path next => do perform filter (next (← readFile path))
  | .write path bytes next => do perform filter (next (← writeFile path bytes))

/-- The time of the system's clock. -/
def now : IO Instant := do
  let t ← Std.Time.Timestamp.now
  let nanos := t.toNanosecondsSinceUnixEpoch.toInt
  match Instant.ofTimestamp? (nanos / secondNanos) (nanos % secondNanos).toNat with
  | some i => pure i
  | none => throw (IO.userError "the clock is out of range")

/-- Writes what a program leaves behind, and gives the code of its exit. -/
def leave (exit : Exit) : IO UInt32 := do
  (← IO.getStdout).putStr exit.stdout
  (← IO.getStderr).putStr exit.stderr
  return UInt32.ofNat exit.code

/-- Runs the program on the words of a command line. -/
def run (words : List Bytes) : IO UInt32 := do
  match CommandLine.Request.ofWords words with
  | .error stop => leave (Exit.ofStop stop)
  | .ok request =>
    let spec := (← IO.getEnv "RUST_LOG").map (·.toList)
    let (filter, warnings) := request.filter spec
    (← IO.getStderr).putStr warnings
    let result ← perform filter (request.job (← now))
    leave (Exit.ofResult request.path "" result)

end RuleCap.Program

/-- The program. -/
def main (args : List String) : IO UInt32 :=
  RuleCap.Program.run (args.map fun word => RuleCap.Utf8.encode word.toList)
