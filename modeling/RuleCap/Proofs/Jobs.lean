import RuleCap.Lists

/-!
# What jobs do to a storage

`Job.exec` is the state that a job leaves and its answer; the records that it keeps are left aside. It goes step by step
(`exec_bind`), and there is one statement for each job on lists and settings, for any kind of storage. A job that only
reads leaves the storage as it is (`exec_readList`, `exec_settingsOrDefault`). A trim fails where the list can not be
read, and where it can not be written; in both cases the storage is as before, and otherwise one write has been made
(`exec_trimFile_cases`). That a write which fails has changed nothing is what `Job.run` assumes of storages.
-/

namespace RuleCap

variable {α β σ : Type} [Storage σ]

namespace Job

/-- The state after a job, and its answer. -/
def exec (job : Job α) (s : σ) : σ × α := ((job.run s).state, (job.run s).answer)

@[simp]
theorem exec_pure (a : α) (s : σ) : (pure a : Job α).exec s = (s, a) := rfl

@[simp]
theorem exec_log (level : Log.Level) (source : Log.Source) (text : String) (s : σ) :
    (log level source text).exec s = (s, ()) := rfl

@[simp]
theorem exec_ask (path : Path) (s : σ) : (ask path).exec s = (s, Storage.read s path) := rfl

/-- What can not be written leaves the storage as it is. -/
theorem exec_write (path : Path) (bytes : Bytes) (next : Except StorageFault Unit → Job α) (s : σ) :
    (write path bytes next).exec s =
      match Storage.write s path bytes with
      | .ok s' => (next (.ok ())).exec s'
      | .error fault => (next (.error fault)).exec s := by
  rw [exec, run]
  cases Storage.write s path bytes <;> rfl

@[simp]
theorem exec_tell (path : Path) (bytes : Bytes) (s : σ) :
    (tell path bytes).exec s =
      match Storage.write s path bytes with
      | .ok s' => (s', .ok ())
      | .error fault => (s, .error fault) := by
  unfold tell
  rw [exec_write]
  cases Storage.write s path bytes <;> rfl

/-- **One job after the other**: the second goes on from the state and the answer of the first. -/
@[simp]
theorem exec_bind (job : Job α) (f : α → Job β) (s : σ) :
    (job >>= f).exec s = (f (job.exec s).2).exec (job.exec s).1 := by
  induction job generalizing s with
  | done a => rfl
  | note r next ih => exact ih s
  | read path next ih => exact ih (Storage.read s path) s
  | write path bytes next ih =>
    have hbind : (write path bytes next >>= f) = write path bytes fun answer => next answer >>= f := rfl
    rw [hbind, exec_write, exec_write]
    cases Storage.write s path bytes with
    | ok s' => exact ih (.ok ()) s'
    | error fault => exact ih (.error fault) s

end Job

/-! ## Lists and settings -/

variable (s : σ)

@[simp]
theorem exec_readList (path : Path) :
    (readList path).exec s =
      (s, match Storage.read s path with
        | .ok bytes => .ok (Utf8.decode bytes)
        | .error fault => .error (.read path fault)) := by
  unfold readList
  rw [Job.exec_bind, Job.exec_ask]
  cases Storage.read s path <;> rfl

@[simp]
theorem exec_writeList (path : Path) (text : Text) :
    (writeList path text).exec s =
      match Storage.write s path (Utf8.encode text) with
      | .ok s' => (s', .ok ())
      | .error fault => (s, .error (.write path fault)) := by
  unfold writeList
  rw [Job.exec_bind, Job.exec_tell]
  cases Storage.write s path (Utf8.encode text) <;> rfl

/-- The settings in a file, if it can be read and holds some. -/
def settingsIn (path : Path) : Except Failure Settings :=
  match Storage.read s path with
  | .ok bytes => Settings.ofBytes path bytes
  | .error fault => .error (.readSettings path fault)

@[simp]
theorem exec_loadSettings (path : Path) : (loadSettings path).exec s = (s, settingsIn s path) := by
  unfold loadSettings settingsIn
  rw [Job.exec_bind, Job.exec_ask]
  cases Storage.read s path <;> rfl

/-- The settings in a file, or the default ones. -/
def settingsOr : Option Path → Settings
  | none => Settings.default
  | some path => ((settingsIn s path).toOption).getD Settings.default

/-- **Settings that can not be read are the default ones**, and looking for them changes nothing. -/
@[simp]
theorem exec_settingsOrDefault (config : Option Path) :
    (settingsOrDefault config).exec s = (s, settingsOr s config) := by
  cases config with
  | none => rfl
  | some path =>
    rw [settingsOrDefault, settingsOr, Job.exec_bind, exec_loadSettings]
    cases settingsIn s path <;> rfl

@[simp]
theorem exec_noteListing (l : Listing) : (noteListing l).exec s = (s, ()) := rfl

@[simp]
theorem exec_noteTally (output : Path) (limit : Limit) (t : Tally) : (noteTally output limit t).exec s = (s, ()) := by
  unfold noteTally
  rw [Job.exec_bind, Job.exec_log]
  split <;> rfl

section Trims

variable {s} (settings : Settings) (now : Instant) {input : Path} (output : Path)

/-- A trim that can not read its list changes nothing. -/
theorem exec_trimFile_of_unread {fault : StorageFault} (hread : Storage.read s input = .error fault) :
    (trimFile settings now input output).exec s = (s, .error (.read input fault)) := by
  unfold trimFile
  rw [Job.exec_bind, exec_readList, hread]
  rfl

/-- A trim that reads its list writes the trimmed one, once. -/
theorem exec_trimFile_of_read {bytes : Bytes} (hread : Storage.read s input = .ok bytes) :
    (trimFile settings now input output).exec s =
      match Storage.write s output (Utf8.encode (trimText settings now (Utf8.decode bytes)).1.render) with
      | .ok s' => (s', .ok (trimText settings now (Utf8.decode bytes)).2)
      | .error fault => (s, .error (.write output fault)) := by
  unfold trimFile
  rw [Job.exec_bind, exec_readList, hread]
  simp only [Job.exec_bind, Job.exec_log, exec_noteListing, exec_writeList]
  cases Storage.write s output (Utf8.encode (trimText settings now (Utf8.decode bytes)).1.render) with
  | error fault => rfl
  | ok s' => simp only [Job.exec_bind, exec_noteTally, Job.exec_pure]

end Trims

/-- **All that a trim can do**: fail to read, fail to write, or write the trimmed list once. -/
theorem exec_trimFile_cases (settings : Settings) (now : Instant) (input output : Path) :
    (∃ fault, Storage.read s input = .error fault ∧
        (trimFile settings now input output).exec s = (s, .error (.read input fault))) ∨
      ∃ bytes, Storage.read s input = .ok bytes ∧
        let r := trimText settings now (Utf8.decode bytes)
        (∃ fault, Storage.write s output (Utf8.encode r.1.render) = .error fault ∧
            (trimFile settings now input output).exec s = (s, .error (.write output fault))) ∨
          ∃ s', Storage.write s output (Utf8.encode r.1.render) = .ok s' ∧
            (trimFile settings now input output).exec s = (s', .ok r.2) := by
  cases hread : Storage.read s input with
  | error fault => exact Or.inl ⟨fault, rfl, exec_trimFile_of_unread settings now output hread⟩
  | ok bytes =>
    refine Or.inr ⟨bytes, rfl, ?_⟩
    intro r
    rw [exec_trimFile_of_read settings now output hread]
    cases hwrite : Storage.write s output (Utf8.encode r.1.render) with
    | error fault => exact Or.inl ⟨fault, rfl, rfl⟩
    | ok s' => exact Or.inr ⟨s', rfl, rfl⟩

end RuleCap
