import RuleCap.Proofs.Jobs
import RuleCap.Proofs.Utf8
import RuleCap.Session

/-!
# Sessions by their journals

A journal holds what was put into a storage, the latest first. It tells a session without any storage: what was put last
under a path (`PutLast`, found by `latest?`), what a call adds (`after`), and how it is answered (`answer`). A storage
*keeps journals* if a path gives what was put last under it and whatever is put gets there (`KeepsJournals`). All such
storages serve sessions alike, as journals tell: call by call (`KeepsJournals.exec_job`), hence throughout
(`KeepsJournals.serve_eq`).
-/

namespace RuleCap

theorem Path.same_iff {p q : Path} : p.same q = true ↔ p.components = q.components := beq_iff_eq

/-- What was put under paths, the latest first. -/
abbrev Journal := List (Path × Bytes)

namespace Journal

/-- The bytes were put under the path, or one that is the same, and nothing was put there later. -/
def PutLast (j : Journal) (path : Path) (bytes : Bytes) : Prop :=
  ∃ later key earlier, j = later ++ (key, bytes) :: earlier ∧ key.components = path.components ∧
    ∀ entry ∈ later, entry.1.components ≠ path.components

/-- Nothing was put under the path or one that is the same. -/
def NeverPut (j : Journal) (path : Path) : Prop :=
  ∀ entry ∈ j, entry.1.components ≠ path.components

/-- What was put last under a path. -/
def latest? (j : Journal) (path : Path) : Option Bytes :=
  (j.find? fun entry => entry.1.same path).map (·.2)

variable {j : Journal} {path : Path} {bytes : Bytes}

theorem latest?_eq_some_iff : j.latest? path = some bytes ↔ j.PutLast path bytes := by
  simp only [latest?, PutLast, Option.map_eq_some_iff, Prod.exists, exists_eq_right, List.find?_eq_some_iff_append,
    Bool.not_eq_true', Bool.eq_false_iff, ne_eq, Path.same_iff]
  constructor
  · rintro ⟨key, hkey, later, earlier, rfl, hlater⟩
    exact ⟨later, key, earlier, rfl, hkey, hlater⟩
  · rintro ⟨later, key, earlier, rfl, hkey, hlater⟩
    exact ⟨key, hkey, later, earlier, rfl, hlater⟩

theorem latest?_eq_none_iff : j.latest? path = none ↔ j.NeverPut path := by
  simp [latest?, NeverPut, List.find?_eq_none, Path.same_iff]

/-- What is put is what was put last. -/
theorem latest?_cons (key : Path) (bytes : Bytes) (j : Journal) (path : Path) :
    latest? ((key, bytes) :: j) path = if key.same path then some bytes else j.latest? path := by
  unfold latest?
  rw [List.find?_cons]
  cases key.same path <;> rfl

theorem latest?_cons_of_ne {key : Path} (bytes : Bytes) (j : Journal) (h : key.components ≠ path.components) :
    latest? ((key, bytes) :: j) path = j.latest? path := by
  rw [latest?_cons, if_neg fun hsame => h (Path.same_iff.mp hsame)]

/-! ## Calls -/

/-- The list under a path. -/
def text (missing : StorageFault) (j : Journal) (path : Path) : Except Failure Text :=
  match j.latest? path with
  | some bytes => .ok (Utf8.decode bytes)
  | none => .error (.read path missing)

/-- A list that was written is read as it was. -/
theorem text_cons_of_eq (missing : StorageFault) {key : Path} (t : Text) (j : Journal)
    (h : key.components = path.components) : text missing ((key, Utf8.encode t) :: j) path = .ok t := by
  rw [text, latest?_cons, if_pos (Path.same_iff.mpr h)]
  exact congrArg _ (Utf8.decode_encode t)

/-- What a trim puts: the list that it has trimmed, if there is one. -/
def trimmed? (j : Journal) (s : Settings) (now : Instant) (input output : Path) : Option (Path × Bytes) :=
  (j.latest? input).map fun bytes => (output, Utf8.encode (trimText s now (Utf8.decode bytes)).1.render)

/-- What a call puts. -/
def entry? (j : Journal) : Call → Option (Path × Bytes)
  | .put path bytes => some (path, bytes)
  | .get _ => none
  | .read _ => none
  | .write path text => some (path, Utf8.encode text)
  | .trim s now input output => j.trimmed? s now input output
  | .trimInPlace s now path => j.trimmed? s now path path

/-- The answer to a call; `missing` is what is said where there is no list. -/
def answer (missing : StorageFault) (j : Journal) : Call → Except Failure Reply
  | .put .. => .ok .stored
  | .get path => .ok (.found ((j.latest? path).map Utf8.decode))
  | .read path => (j.text missing path).map .text
  | .write .. => .ok .stored
  | .trim s now input _ => (j.text missing input).map fun t => .tally (trimText s now t).2
  | .trimInPlace s now path => (j.text missing path).map fun t => .tally (trimText s now t).2

/-- The journal after a call. -/
def after (j : Journal) (call : Call) : Journal :=
  (j.entry? call).toList ++ j

/-- The journal after a session. -/
def afterAll (j : Journal) (calls : List Call) : Journal :=
  calls.foldl after j

end Journal

/-! ## Storages that keep journals -/

theorem serve_cons {σ : Type} [Storage σ] (call : Call) (rest : List Call) (s : σ) :
    serve (call :: rest) s =
      ((serve rest (call.job.exec s).1).1, (call.job.exec s).2 :: (serve rest (call.job.exec s).1).2) := rfl

/-- Every call is answered by the storage that the calls before it have left. -/
theorem serve_eq_mapIdx {σ : Type} [Storage σ] (calls : List Call) (s : σ) :
    (serve calls s).2 = calls.mapIdx fun i call => (call.job.exec (serve (calls.take i) s).1).2 := by
  induction calls generalizing s with
  | nil => rfl
  | cons call rest ih =>
    rw [serve_cons, List.mapIdx_cons, ih]
    rfl

/-- **A storage keeps journals** under the paths that can be used: a path gives what was put last under it, or is
missing; and whatever is put under it gets there. -/
structure KeepsJournals (σ : Type) [Storage σ] (Usable : Path → Prop) (missing : StorageFault)
    (Keeps : σ → Journal → Prop) : Prop where
  read_eq {s : σ} {j : Journal} {path : Path} (hk : Keeps s j) (hp : Usable path) :
    Storage.read s path = match j.latest? path with
      | some bytes => .ok bytes
      | none => .error missing
  exists_write {s : σ} {j : Journal} {path : Path} (hk : Keeps s j) (hp : Usable path) (bytes : Bytes) :
    ∃ s', Storage.write s path bytes = .ok s' ∧ Keeps s' ((path, bytes) :: j)

namespace KeepsJournals

variable {σ : Type} [Storage σ] {Usable : Path → Prop} {missing : StorageFault} {Keeps : σ → Journal → Prop}
  {s : σ} {j : Journal}

/-- A list is read as the journal has it. -/
theorem exec_readList (h : KeepsJournals σ Usable missing Keeps) (hk : Keeps s j) {path : Path} (hp : Usable path) :
    (readList path).exec s = (s, j.text missing path) := by
  rw [RuleCap.exec_readList, h.read_eq hk hp, Journal.text]
  cases j.latest? path <;> rfl

/-- A trim goes by the list that the journal has, and adds the trimmed one; without a list it does nothing. -/
theorem exec_trimFile (h : KeepsJournals σ Usable missing Keeps) (hk : Keeps s j) (settings : Settings) (now : Instant)
    (input output : Path) (hin : Usable input) (hout : Usable output) :
    ∃ s', (trimFile settings now input output).exec s =
        (s', (j.text missing input).map fun t => (trimText settings now t).2) ∧
      Keeps s' ((j.trimmed? settings now input output).toList ++ j) ∧ (j.latest? input = none → s' = s) := by
  have hread := h.read_eq hk hin
  unfold Journal.text Journal.trimmed?
  cases hlatest : j.latest? input with
  | none =>
    rw [hlatest] at hread
    exact ⟨s, exec_trimFile_of_unread settings now output hread, hk, fun _ => rfl⟩
  | some bytes =>
    rw [hlatest] at hread
    obtain ⟨s', hwrite, hk'⟩ := h.exists_write hk hout (Utf8.encode (trimText settings now (Utf8.decode bytes)).1.render)
    refine ⟨s', ?_, hk', nofun⟩
    rw [exec_trimFile_of_read settings now output hread, hwrite]
    rfl

theorem exec_get (h : KeepsJournals σ Usable missing Keeps) (hk : Keeps s j) {path : Path} (hp : Usable path) :
    (Call.get path).job.exec s = (s, j.answer missing (.get path)) := by
  rw [Call.job, Job.exec_bind, Job.exec_ask, h.read_eq hk hp, Journal.answer]
  cases j.latest? path <;> rfl

theorem exec_read (h : KeepsJournals σ Usable missing Keeps) (hk : Keeps s j) {path : Path} (hp : Usable path) :
    (Call.read path).job.exec s = (s, j.answer missing (.read path)) := by
  rw [Call.job, Job.exec_bind, h.exec_readList hk hp]
  rfl

theorem exec_trim (h : KeepsJournals σ Usable missing Keeps) (hk : Keeps s j) (settings : Settings) (now : Instant)
    (input output : Path) (hin : Usable input) (hout : Usable output) :
    ∃ s', (Call.trim settings now input output).job.exec s =
        (s', j.answer missing (.trim settings now input output)) ∧
      Keeps s' (j.after (.trim settings now input output)) ∧ (j.latest? input = none → s' = s) := by
  obtain ⟨s', hexec, hk'⟩ := h.exec_trimFile hk settings now input output hin hout
  refine ⟨s', ?_, hk'⟩
  rw [Call.job, Job.exec_bind, hexec, Journal.answer]
  cases j.text missing input <;> rfl

/-- **A call is answered as the journal tells**, and the storage keeps the journal after it. -/
theorem exec_job (h : KeepsJournals σ Usable missing Keeps) (hk : Keeps s j) {call : Call}
    (hc : ∀ path ∈ call.paths, Usable path) :
    ∃ s', call.job.exec s = (s', j.answer missing call) ∧ Keeps s' (j.after call) := by
  cases call with
  | put path bytes =>
    obtain ⟨s', hwrite, hk'⟩ := h.exists_write hk (hc path (by simp [Call.paths])) bytes
    refine ⟨s', ?_, hk'⟩
    rw [Call.job, Job.exec_bind, Job.exec_tell, hwrite]
    rfl
  | get path => exact ⟨s, h.exec_get hk (hc path (by simp [Call.paths])), hk⟩
  | read path => exact ⟨s, h.exec_read hk (hc path (by simp [Call.paths])), hk⟩
  | write path text =>
    obtain ⟨s', hwrite, hk'⟩ := h.exists_write hk (hc path (by simp [Call.paths])) (Utf8.encode text)
    refine ⟨s', ?_, hk'⟩
    rw [Call.job, Job.exec_bind, exec_writeList, hwrite]
    rfl
  | trim settings now input output =>
    obtain ⟨s', hexec, hk', -⟩ := h.exec_trim hk settings now input output (hc input (by simp [Call.paths]))
      (hc output (by simp [Call.paths]))
    exact ⟨s', hexec, hk'⟩
  | trimInPlace settings now path =>
    -- a trim in place is a trim whose output is its input
    have hp : Usable path := hc path (by simp [Call.paths])
    obtain ⟨s', hexec, hk', -⟩ := h.exec_trim hk settings now path path hp hp
    exact ⟨s', hexec, hk'⟩

/-- **A session is served as the journal tells**: every call by the journal of those before it. -/
theorem serve_eq (h : KeepsJournals σ Usable missing Keeps) (hk : Keeps s j) (calls : List Call)
    (hc : ∀ call ∈ calls, ∀ path ∈ call.paths, Usable path) :
    (serve calls s).2 = calls.mapIdx (fun i call => (j.afterAll (calls.take i)).answer missing call) ∧
      Keeps (serve calls s).1 (j.afterAll calls) := by
  induction calls generalizing s j with
  | nil => exact ⟨rfl, hk⟩
  | cons call rest ih =>
    rw [List.forall_mem_cons] at hc
    obtain ⟨s', hexec, hk'⟩ := h.exec_job hk hc.1
    obtain ⟨hanswers, hkeeps⟩ := ih hk' hc.2
    rw [serve_cons, hexec, List.mapIdx_cons]
    exact ⟨congrArg _ hanswers, hkeeps⟩

end KeepsJournals

end RuleCap
