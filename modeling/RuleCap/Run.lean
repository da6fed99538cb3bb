import RuleCap.CommandLine.Request
import RuleCap.Lists
import RuleCap.FileTree

/-!
# Runs

A run of the program from its command line to its exit. The request becomes a job (`Request.job`): the settings are
read, the limit of the command line replaces theirs, and the list is trimmed. `runOn` does all of it on a tree of files
and says what the program leaves behind: the tree, the code of its exit and what it has written for the user.
-/

namespace RuleCap

/-- What a program leaves behind besides files. -/
structure Exit where
  code : Nat
  stdout : String
  stderr : String
deriving DecidableEq, Repr

namespace Exit

/-- The lines of a cause, numbered; further lines stand under the first. -/
def causeText (number : Nat) (cause : String) : String :=
  let lines := (pieces '\n' cause.toList).map String.ofList
  let label := String.ofList ((Nat.toDigits 10 number).leftpad 5 ' ') ++ ": "
  label ++ "\n       ".intercalate lines ++ "\n"

/-- What is said of a trim that failed. -/
def failureText (path : Path) (failure : Failure) : String :=
  s!"Error: Failed to trim {String.ofList path.toText}\n\nCaused by:\n" ++ causeText 0 failure.message ++
    causeText 1 failure.cause

/-- The exit without a trim. -/
def ofStop (stop : CommandLine.Stop) : Exit :=
  let text := stop.text .stream
  if stop.isAsked then ⟨0, text, ""⟩ else ⟨1, "", text⟩

/-- The exit after a trim, with what has been logged. -/
def ofResult (path : Path) (logged : String) : Except Failure Tally → Exit
  | .ok _ => ⟨0, "", logged⟩
  | .error failure => ⟨1, "", logged ++ failureText path failure⟩

end Exit

namespace CommandLine.Request

/-- The settings of a request: the limit of the command line replaces that of the settings read. -/
def effective (r : Request) (settings : Settings) : Settings :=
  match r.limit with
  | some limit => settings.withLimit limit
  | none => settings

/-- What is logged of a request, from a filter given as text or from a level by the wish for more words; and what is said
of that text before anything is done. -/
def filter (r : Request) (spec : Option Text) : Log.Filter × String :=
  match spec with
  | some spec =>
    let (filter, faults) := Log.Filter.ofText spec
    (filter, Log.Filter.warnings faults)
  | none => (Log.Filter.upTo (Log.Filter.ofVerbosity r.verbosity), "")

/-- **The job of a request.** -/
def job (r : Request) (now : Instant) : Job (Except Failure Tally) := do
  unless r.ignored.isEmpty do
    Job.log .debug .command s!"Ignoring extra arguments: {String.ofList (Quoted.encodeList r.ignored)}"
  let settings ← settingsOrDefault r.config
  if let some path := r.config then
    Job.log .debug .command s!"Loaded config from: {String.ofList path.toText}"
  trimFile (r.effective settings) now r.path r.outputPath

end CommandLine.Request

/-- **A run of the program on a tree of files**: the words of the command line, the filter of the log if one is given,
and the time on the clock. -/
def runOn (tree : FileTree) (words : List Bytes) (spec : Option Text) (now : Instant) : FileTree × Exit :=
  match CommandLine.Request.ofWords words with
  | .error stop => (tree, Exit.ofStop stop)
  | .ok request =>
    let outcome := (request.job now).run tree
    let (filter, warnings) := request.filter spec
    let logged := warnings ++ Log.render filter outcome.records
    (outcome.state, Exit.ofResult request.path logged outcome.answer)

end RuleCap
