import Mathlib.Tactic.SplitIfs
import RuleCap.FileTree
import RuleCap.Proofs.Fallible

/-!
# Reading and writing in a tree of files

A path names a place for a file (`Places`) if it leads to a name in a directory, with no slash behind it, and the name
can be that of a file. What can be read stands in its place (`read_eq_ok_iff`); what can be written is put there, and
nowhere else (`write_eq_ok_iff`, `get?_put_of_ne`). A file that is put somewhere is in no path's way that was free
before (`follow_put`), so the bytes written under a path are read under it. All this is said by `rewrites_of_write`.
-/

namespace RuleCap.FileTree

variable {t t' : FileTree} {path : Path} {l l' : Location} {e : Entry} {data : Bytes}

/-! ## Putting something at a location -/

theorem get?_of_ne_nil (h : l ≠ []) : t.get? l = t.entries.lookup l := by
  cases l with
  | nil => exact absurd rfl h
  | cons name l => rfl

/-- Entries of other locations are found as before when those of one location are taken away. -/
theorem lookup_filter_of_ne (entries : List (Location × Entry)) (h : l' ≠ l) :
    (entries.filter (·.1 ≠ l)).lookup l' = entries.lookup l' := by
  induction entries with
  | nil => rfl
  | cons entry entries ih =>
    obtain ⟨k, e⟩ := entry
    by_cases hk : k = l
    · subst hk
      have hl : (l' == k) = false := by simpa using h
      simp [List.lookup_cons, hl, ← ih]
    · simp [List.lookup_cons, hk, ← ih]

/-- What is put at a location is there. -/
theorem get?_put_self (h : l ≠ []) : (t.put l e).get? l = some e := by
  simp [get?_of_ne_nil h, put]

/-- **What is put at a location is nowhere else.** -/
theorem get?_put_of_ne (h : l' ≠ l) : (t.put l e).get? l' = t.get? l' := by
  cases l' with
  | nil => rfl
  | cons name l' =>
    have hl : (name :: l' == l) = false := by simpa using h
    simp only [get?_of_ne_nil (List.cons_ne_nil _ _), put, List.lookup_cons, hl]
    exact lookup_filter_of_ne t.entries h

/-! ## Places for files -/

/-- A path leads to a name in a directory, and the name is that of a file or can become one. -/
def Places (t : FileTree) (path : Path) (l : Location) : Prop :=
  ∃ parent name, t.follow path = .ok (.name parent name false) ∧ name.length ≤ longestName ∧ l = parent ++ [name] ∧
    t.get? l ≠ some .directory

theorem Places.ne_nil (h : t.Places path l) : l ≠ [] := by
  obtain ⟨parent, name, -, -, rfl, -⟩ := h
  simp

/-- **What can be read is a file in its place.** -/
theorem read_eq_ok_iff : t.read path = .ok data ↔ ∃ l, t.Places path l ∧ t.get? l = some (.file data) := by
  unfold read
  rw [bind_eq_ok_iff]
  constructor
  · rintro ⟨target, hf, h⟩
    cases target with
    | directory => cases h
    | name parent name slash =>
      dsimp only at h
      split_ifs at h with hname hslash
      · split at h <;> cases h
      · split at h
        · cases h
        · cases h
        · rename_i data' hget
          rw [Bool.not_eq_true] at hslash
          cases h
          subst hslash
          exact ⟨_, ⟨parent, name, hf, Nat.not_lt.mp hname, rfl, by simp [hget]⟩, hget⟩
  · rintro ⟨l, ⟨parent, name, hf, hname, rfl, -⟩, hget⟩
    exact ⟨_, hf, by simp [Nat.not_lt.mpr hname, hget]⟩

/-- What reading a name in a directory gives, by what is there. -/
theorem read_of_follow {parent : Location} {name : Bytes} (hf : t.follow path = .ok (.name parent name false))
    (hname : name.length ≤ longestName) :
    t.read path = match t.get? (parent ++ [name]) with
      | none => .error .notFound
      | some .directory => .error .isDirectory
      | some (.file data) => .ok data := by
  rw [read, hf]
  exact if_neg (Nat.not_lt.mpr hname)

/-- **What can be written is put in its place.** -/
theorem write_eq_ok_iff :
    t.write path data = .ok t' ↔ ∃ l, t.Places path l ∧ t' = t.put l (.file data) := by
  unfold write
  rw [bind_eq_ok_iff]
  constructor
  · rintro ⟨target, hf, h⟩
    cases target with
    | directory => cases h
    | name parent name slash =>
      dsimp only at h
      split_ifs at h with hslash hname hget
      rw [Bool.not_eq_true] at hslash
      cases h
      subst hslash
      exact ⟨_, ⟨parent, name, hf, Nat.not_lt.mp hname, rfl, hget⟩, rfl⟩
  · rintro ⟨l, ⟨parent, name, hf, hname, rfl, hget⟩, rfl⟩
    exact ⟨_, hf, by simp [Nat.not_lt.mpr hname, hget]⟩

/-- Where some bytes can not be written, none can. -/
theorem exists_error_write {fault : StorageFault} (h : t.write path data = .error fault) (data' : Bytes) :
    ∃ fault', t.write path data' = .error fault' := by
  cases hw : t.write path data' with
  | error fault' => exact ⟨fault', rfl⟩
  | ok t' =>
    obtain ⟨l, hplace, -⟩ := write_eq_ok_iff.mp hw
    rw [write_eq_ok_iff.mpr ⟨l, hplace, rfl⟩] at h
    cases h

/-! ## Paths after a write -/

/-- A file put where no directory is leaves the ways into directories open. -/
theorem enter_put (hl : t.get? l ≠ some .directory) {location location' : Location} {name : Bytes}
    (h : t.enter location name = .ok location') : (t.put l (.file data)).enter location name = .ok location' := by
  unfold enter at h ⊢
  split_ifs at h ⊢ with hhere hup hlong
  · exact h
  · exact h
  · have hdirectory : t.get? (location ++ [name]) = some .directory := by
      split at h
      · assumption
      · cases h
      · cases h
    -- only directories are entered, and the file is put where none is
    have hne : location ++ [name] ≠ l := by
      rintro rfl
      exact hl hdirectory
    rw [get?_put_of_ne hne, hdirectory]
    rwa [hdirectory] at h

/-- **A path leads where it led before** a file was put where no directory is. -/
theorem follow_put (hl : t.get? l ≠ some .directory) {target : Target} (h : t.follow path = .ok target) :
    (t.put l (.file data)).follow path = .ok target := by
  have hhome : (t.put l (.file data)).home = t.home := rfl
  unfold follow at h ⊢
  simp only [hhome] at h ⊢
  split_ifs at h ⊢ with hzero hempty hlong hroot
  all_goals
    rw [bind_eq_ok_iff] at h ⊢
    obtain ⟨parent, hparent, h⟩ := h
    exact ⟨parent, foldlM_eq_ok_of_imp (fun _ _ _ => enter_put hl) hparent, h⟩

/-- **The bytes written under a path are read under it.** -/
theorem read_of_write (h : t.write path data = .ok t') : t'.read path = .ok data := by
  obtain ⟨l, hplace, rfl⟩ := write_eq_ok_iff.mp h
  have hget : (t.put l (.file data)).get? l = some (.file data) := get?_put_self hplace.ne_nil
  obtain ⟨parent, name, hf, hname, rfl, hl⟩ := hplace
  exact read_eq_ok_iff.mpr ⟨_, ⟨parent, name, follow_put hl hf, hname, rfl, by simp [hget]⟩, hget⟩

/-- Bytes are in a file under a path, in the place that the path named before; everything else is as before. -/
structure Rewrites (t t' : FileTree) (path : Path) (data : Bytes) : Prop where
  read_eq : t'.read path = .ok data
  only : ∃ l, t.Places path l ∧ t'.get? l = some (.file data) ∧ ∀ l', l' ≠ l → t'.get? l' = t.get? l'
  home_eq : t'.home = t.home

/-- **A write rewrites one file.** -/
theorem rewrites_of_write (h : t.write path data = .ok t') : t.Rewrites t' path data := by
  obtain ⟨l, hplace, rfl⟩ := write_eq_ok_iff.mp h
  exact ⟨read_of_write h, ⟨l, hplace, get?_put_self hplace.ne_nil, fun _ hne => get?_put_of_ne hne⟩, rfl⟩

end RuleCap.FileTree
