import RuleCap.Job
import RuleCap.Trim

/-!
# Lists in a storage

Lists are read and written under their paths, and trimmed there (`trimFile`): the list is read as a whole, trimmed, and
written under the second path, which may be the first one. Settings are read in the same way; where they can not be
read, a warning is kept and the default settings serve (`settingsOrDefault`).
-/

namespace RuleCap

/-- Reads a list; bytes that are no text become marks. -/
def readList (path : Path) : Job (Except Failure Text) := do
  match ← Job.ask path with
  | .ok bytes => pure (.ok (Utf8.decode bytes))
  | .error fault => pure (.error (.read path fault))

/-- Writes a list. -/
def writeList (path : Path) (text : Text) : Job (Except Failure Unit) := do
  match ← Job.tell path (Utf8.encode text) with
  | .ok () => pure (.ok ())
  | .error fault => pure (.error (.write path fault))

/-! ## Settings -/

/-- What the bytes of a file say of settings. -/
def Settings.ofBytes (path : Path) (bytes : Bytes) : Except Failure Settings :=
  match Utf8.decode? bytes with
  | none => .error (.readSettings path .notUtf8)
  | some text => (Settings.ofYaml text).mapError (.parseSettings path)

/-- **Reads settings.** -/
def loadSettings (path : Path) : Job (Except Failure Settings) := do
  match ← Job.ask path with
  | .ok bytes => pure (Settings.ofBytes path bytes)
  | .error fault => pure (.error (.readSettings path fault))

/-- Reads settings, or keeps to the default ones with a warning; without a path, with none. -/
def settingsOrDefault : Option Path → Job Settings
  | none => pure Settings.default
  | some path => do
    match ← loadSettings path with
    | .ok settings => pure settings
    | .error failure => do
      Job.log .warn .settings s!"{failure.message}; using defaults"
      pure Settings.default

/-! ## Trimming -/

/-- Notes how a text was cut in two. -/
def noteListing (l : Listing) : Job Unit :=
  Job.log .debug .listing
    s!"Split filter list: {l.header.length} header lines, {l.body.length} body lines"

/-- Notes what became of the lines of a list. -/
def noteTally (output : Path) (limit : Limit) (t : Tally) : Job Unit := do
  let path := String.ofList output.toText
  let kept := s!"kept {t.rulesKept} of {t.rulesFound} rules (max {String.ofList limit.toText})"
  Job.log .info .trim s!"Trimmed {path}: {kept}, dropped {t.bodyLinesDropped} body comment/blank lines"
  if 0 < t.rulesDiscarded then
    Job.log .debug .trim s!"Discarded {t.rulesDiscarded} rules past the limit"

/-- **Trims the list under one path and writes it under another**, which may be the same. -/
def trimFile (s : Settings) (now : Instant) (input output : Path) : Job (Except Failure Tally) := do
  match ← readList input with
  | .error failure => pure (.error failure)
  | .ok text => do
    Job.log .debug .trim s!"Read {Utf8.size text} bytes from {String.ofList input.toText}"
    noteListing (Listing.ofText s.prefixes text)
    let (trimmed, tally) := trimText s now text
    match ← writeList output trimmed.render with
    | .error failure => pure (.error failure)
    | .ok () => do
      noteTally output s.limit tally
      pure (.ok tally)

/-- Trims the list under a path where it is. -/
def trimInPlace (s : Settings) (now : Instant) (path : Path) : Job (Except Failure Tally) :=
  trimFile s now path path

end RuleCap
