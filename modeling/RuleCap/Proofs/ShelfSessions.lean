import RuleCap.Proofs.Journals
import RuleCap.Shelf

/-!
# Sessions in memory

A shelf keeps journals under all paths (`Shelf.keepsJournals`): what was put under a path is there until something is
put under one that is the same, and putting something changes nothing elsewhere (`Shelf.get?_insert`). So what a
session on a shelf answers is told by what was put last. A trim without a list to trim changes nothing, and any other
one changes what is under its output alone (`Shelf.exec_trim_cases`).

Main statement: `shelf_session_by_journal`.
-/

namespace RuleCap

namespace Shelf

variable {s : Shelf} {j : Journal}

/-- Lists under other paths are found as before when those under one path are taken away. -/
theorem find?_filter_of_ne (lists : List (Path × Bytes)) {key path : Path} (h : key.components ≠ path.components) :
    (lists.filter fun e => !e.1.same key).find? (fun e => e.1.same path) = lists.find? fun e => e.1.same path := by
  rw [List.find?_filter]
  congr 1
  funext e
  by_cases he : e.1.same path = true
  · have hkey : e.1.same key = false := by
      rw [Bool.eq_false_iff, ne_eq, Path.same_iff, Path.same_iff.mp he]
      exact fun hc => h hc.symm
    simp [he, hkey]
  · simp [he]

/-- **What is put under a path is there, and nowhere else.** -/
theorem get?_insert (s : Shelf) (key path : Path) (bytes : Bytes) :
    (s.insert key bytes).get? path = if key.same path then some bytes else s.get? path := by
  unfold get? insert
  rw [List.find?_cons]
  by_cases h : key.same path = true
  · rw [h]
    rfl
  · have hne : key.components ≠ path.components := fun hc => h (Path.same_iff.mpr hc)
    rw [Bool.not_eq_true] at h
    simp only [h, find?_filter_of_ne s.lists hne]
    rfl

/-- A shelf has what was put last. -/
def Keeps (s : Shelf) (j : Journal) : Prop :=
  ∀ path, s.get? path = j.latest? path

theorem keeps_empty : empty.Keeps [] := fun _ => rfl

/-- **A shelf keeps journals**, under all paths. -/
theorem keepsJournals : KeepsJournals Shelf (fun _ => True) .noSuchList Keeps where
  read_eq {s j path} hk _ := by
    rw [← hk path]
    rfl
  exists_write {s j key} hk _ bytes :=
    ⟨s.insert key bytes, rfl, fun path => by rw [get?_insert, Journal.latest?_cons, hk path]⟩

/-- The shelf after a session keeps its journal. -/
theorem keeps_serve (calls : List Call) : (serve calls empty).1.Keeps (Journal.afterAll [] calls) :=
  (keepsJournals.serve_eq keeps_empty calls fun _ _ _ _ => trivial).2

/-- What is read under a path is what was put there last. -/
theorem exec_read_cases (hk : s.Keeps j) (path : Path) :
    (∃ bytes, j.PutLast path bytes ∧ (Call.read path).job.exec s = (s, .ok (.text (Utf8.decode bytes))) ∧
        (Call.get path).job.exec s = (s, .ok (.found (some (Utf8.decode bytes))))) ∨
      j.NeverPut path ∧ (Call.read path).job.exec s = (s, .error (.read path .noSuchList)) ∧
        (Call.get path).job.exec s = (s, .ok (.found none)) := by
  rw [keepsJournals.exec_read hk trivial, keepsJournals.exec_get hk trivial, Journal.answer, Journal.answer,
    Journal.text]
  cases hlatest : j.latest? path with
  | some bytes => exact Or.inl ⟨bytes, Journal.latest?_eq_some_iff.mp hlatest, rfl, rfl⟩
  | none => exact Or.inr ⟨Journal.latest?_eq_none_iff.mp hlatest, rfl, rfl⟩

/-- A trim without a list to trim changes nothing; any other one changes what is under its output, and nothing else. -/
theorem exec_trim_cases (hk : s.Keeps j) (settings : Settings) (now : Instant) (input output : Path) :
    (j.NeverPut input ∧ (Call.trim settings now input output).job.exec s = (s, .error (.read input .noSuchList))) ∨
      ∃ text s', (Call.read input).job.exec s = (s, .ok (.text text)) ∧
        let r := trimText settings now text
        (Call.trim settings now input output).job.exec s = (s', .ok (.tally r.2)) ∧
        (∀ path, path.components = output.components →
          (Call.read path).job.exec s' = (s', .ok (.text r.1.render))) ∧
        ∀ path, path.components ≠ output.components → s'.get? path = s.get? path := by
  obtain ⟨s', hexec, hk', hsame⟩ := keepsJournals.exec_trim hk settings now input output trivial trivial
  rw [keepsJournals.exec_read hk trivial, hexec]
  simp only [Journal.answer, Journal.text, Journal.after, Journal.entry?, Journal.trimmed?] at hk' ⊢
  cases hlatest : j.latest? input with
  | none =>
    rw [hsame hlatest]
    exact Or.inl ⟨Journal.latest?_eq_none_iff.mp hlatest, rfl⟩
  | some bytes =>
    rw [hlatest] at hk'
    refine Or.inr ⟨Utf8.decode bytes, s', rfl, rfl, fun path hpath => ?_, fun path hpath => ?_⟩
    · rw [keepsJournals.exec_read hk' trivial, Journal.answer]
      exact congrArg _ (congrArg _ (Journal.text_cons_of_eq _ _ j hpath.symm))
    · rw [hk path, ← Journal.latest?_cons_of_ne _ j hpath.symm]
      exact hk' path

end Shelf

/-- **Sessions in memory.** Every call is answered by the shelf that the calls before it have left. On the shelf that a
session has left, a path gives the text of the bytes put last under it or one that is the same, or nothing if there are
none. A trim without a list to trim leaves the shelf as it is. Any other one gives the tally of its list, and changes
what is under its output alone, where the trimmed list is read from then on; so its input stays as it is, unless the two
paths are the same. -/
theorem shelf_session_by_journal (calls : List Call) :
    let s := (serve calls Shelf.empty).1
    let j := Journal.afterAll [] calls
    (serve calls Shelf.empty).2 =
        calls.mapIdx (fun i call => (call.job.exec (serve (calls.take i) Shelf.empty).1).2) ∧
      (∀ path,
        (∃ bytes, j.PutLast path bytes ∧ (Call.read path).job.exec s = (s, .ok (.text (Utf8.decode bytes))) ∧
            (Call.get path).job.exec s = (s, .ok (.found (some (Utf8.decode bytes))))) ∨
          j.NeverPut path ∧ (Call.read path).job.exec s = (s, .error (.read path .noSuchList)) ∧
            (Call.get path).job.exec s = (s, .ok (.found none))) ∧
      ∀ settings now input output,
        (Call.trimInPlace settings now input).job = (Call.trim settings now input input).job ∧
          ((j.NeverPut input ∧
              (Call.trim settings now input output).job.exec s = (s, .error (.read input .noSuchList))) ∨
            ∃ text s', (Call.read input).job.exec s = (s, .ok (.text text)) ∧
              let r := trimText settings now text
              (Call.trim settings now input output).job.exec s = (s', .ok (.tally r.2)) ∧
              (∀ path, path.components = output.components →
                (Call.read path).job.exec s' = (s', .ok (.text r.1.render))) ∧
              ∀ path, path.components ≠ output.components → s'.get? path = s.get? path) := by
  intro s j
  have hk : s.Keeps j := Shelf.keeps_serve calls
  exact ⟨serve_eq_mapIdx calls Shelf.empty, Shelf.exec_read_cases hk,
    fun settings now input output => ⟨rfl, Shelf.exec_trim_cases hk settings now input output⟩⟩

end RuleCap
