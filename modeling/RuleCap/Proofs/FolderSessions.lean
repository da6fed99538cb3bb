import RuleCap.Proofs.FileTrees
import RuleCap.Proofs.ShelfSessions

/-!
# The same session on files and in memory

A directory of files with plain names keeps journals as a shelf does (`FileTree.keepsJournals`): a plain name leads to
the file of that name in the directory in which the program runs (`PlainName.follow`), and two plain names are the same
path only if they are the same name (`PlainName.components_eq`). So a session over plain names goes alike on both, up to
the wording of what is said where there is no list (`Journal.answer_alike`).

Main statement: `folder_session_alike_shelf_session`.
-/

namespace RuleCap

/-- A name that a directory takes for a file, and that is a path of one component. -/
structure PlainName (name : Bytes) : Prop where
  ne_nil : name ≠ []
  no_slash : Path.slash ∉ name
  no_zero : 0 ∉ name
  ne_here : name ≠ Path.here
  ne_up : name ≠ Path.up
  length_le : name.length ≤ FileTree.longestName

instance {name : Bytes} : Decidable (PlainName name) :=
  decidable_of_iff (name ≠ [] ∧ Path.slash ∉ name ∧ 0 ∉ name ∧ name ≠ Path.here ∧ name ≠ Path.up ∧
      name.length ≤ FileTree.longestName)
    ⟨fun ⟨h₁, h₂, h₃, h₄, h₅, h₆⟩ => ⟨h₁, h₂, h₃, h₄, h₅, h₆⟩, fun ⟨h₁, h₂, h₃, h₄, h₅, h₆⟩ => ⟨h₁, h₂, h₃, h₄, h₅, h₆⟩⟩

/-! ## Plain names as paths -/

theorem pieces_of_not_mem {α : Type} [DecidableEq α] {mark : α} : ∀ {l : List α}, mark ∉ l → pieces mark l = [l]
  | [], _ => rfl
  | a :: l, h => by
    rw [List.mem_cons, not_or] at h
    rw [pieces, if_neg (Ne.symm h.1), pieces_of_not_mem h.2]

namespace PlainName

variable {name : Bytes}

theorem names_eq (h : PlainName name) : Path.names name = [name] := by
  simp [Path.names, pieces_of_not_mem h.no_slash, h.ne_nil]

theorem not_isAbsolute (h : PlainName name) : Path.isAbsolute name = false := by
  rw [Path.isAbsolute, beq_eq_false_iff_ne]
  exact fun hs => h.no_slash (List.mem_of_head? hs)

theorem not_endsWithSlash (h : PlainName name) : Path.endsWithSlash name = false := by
  rw [Path.endsWithSlash, beq_eq_false_iff_ne]
  exact fun hs => h.no_slash (List.mem_of_getLast? hs)

/-- A plain name is its own component. -/
theorem components_eq (h : PlainName name) : Path.components name = [.name name] := by
  simp [Path.components, h.names_eq, h.not_isAbsolute, h.ne_here]

/-- **A plain name leads to the file of that name** in the directory in which the program runs. -/
theorem follow (h : PlainName name) (t : FileTree) : t.follow name = .ok (.name t.home name false) := by
  have hlong : ¬FileTree.longestPath < name.length := Nat.not_lt.mpr (Nat.le_trans h.length_le (by decide))
  simp only [FileTree.follow, List.contains_iff_mem, h.no_zero, List.isEmpty_iff, h.ne_nil, hlong, if_false,
    h.not_isAbsolute, Bool.false_eq_true, h.names_eq, List.dropLast_singleton, List.foldlM_nil,
    List.getLast?_singleton, h.ne_here, h.ne_up, or_self, h.not_endsWithSlash]
  rfl

end PlainName

/-- Under plain names, what was put last is found by its name. -/
theorem Journal.latest?_eq_lookup {j : Journal} {name : Bytes} (hj : ∀ entry ∈ j, PlainName entry.1)
    (hn : PlainName name) : j.latest? name = j.lookup name := by
  induction j with
  | nil => rfl
  | cons entry j ih =>
    obtain ⟨key, bytes⟩ := entry
    rw [List.forall_mem_cons] at hj
    have hsame : Path.same key name = (name == key) := by
      rw [Bool.eq_iff_iff, Path.same_iff, hj.1.components_eq, hn.components_eq, beq_iff_eq]
      simp [eq_comm]
    rw [latest?_cons, hsame, List.lookup_cons, ih hj.2]
    cases name == key <;> rfl

/-! ## Directories of files -/

namespace FileTree

variable {t : FileTree} {j : Journal}

/-- The directory in which the program runs has the files that were put last, by plain names, and nothing else. -/
def Keeps (t : FileTree) (j : Journal) : Prop :=
  (∀ entry ∈ j, PlainName entry.1) ∧ ∀ name, t.get? (t.home ++ [name]) = (j.lookup name).map .file

theorem keeps_empty : empty.Keeps [] := by
  refine ⟨nofun, fun name => ?_⟩
  have hne : ([[0x77], name] == [([0x77] : Bytes)]) = false := rfl
  simp [get?, empty, List.lookup_cons, hne]

/-- A file put into the directory is the only change to it. -/
theorem Keeps.put (h : t.Keeps j) {name : Bytes} (hn : PlainName name) (bytes : Bytes) :
    (t.put (t.home ++ [name]) (.file bytes)).Keeps ((name, bytes) :: j) := by
  refine ⟨List.forall_mem_cons.mpr ⟨hn, h.1⟩, fun other => ?_⟩
  have hhome : (t.put (t.home ++ [name]) (.file bytes)).home = t.home := rfl
  rw [hhome, List.lookup_cons]
  by_cases ho : other = name
  · subst ho
    rw [get?_put_self (by simp), beq_self_eq_true]
    rfl
  · rw [get?_put_of_ne (by simpa using ho), beq_eq_false_iff_ne.mpr ho]
    exact h.2 other

/-- **A directory of files keeps journals** under plain names. -/
theorem keepsJournals : KeepsJournals FileTree PlainName .notFound Keeps where
  read_eq {t j name} hk hn := by
    have hread : Storage.read t name = t.read name := rfl
    rw [hread, read_of_follow (hn.follow t) hn.length_le, hk.2 name, Journal.latest?_eq_lookup hk.1 hn]
    cases j.lookup name <;> rfl
  exists_write {t j name} hk hn bytes := by
    refine ⟨_, write_eq_ok_iff.mpr ⟨t.home ++ [name], ⟨t.home, name, hn.follow t, hn.length_le, rfl, ?_⟩, rfl⟩,
      hk.put hn bytes⟩
    rw [hk.2 name]
    cases j.lookup name <;> simp

end FileTree

/-! ## Answers alike -/

/-- Whether a fault says that there is nothing under a path, as either kind of storage says it. -/
def StorageFault.isMissing : StorageFault → Bool
  | noSuchList => true
  | notFound => true
  | _ => false

/-- The path under which a call needs a list. -/
def Call.needed? : Call → Option Path
  | put .. => none
  | get _ => none
  | read path => some path
  | write .. => none
  | trim _ _ input _ => some input
  | trimInPlace _ _ path => some path

/-- **Two answers to a call are alike**: the same reply, or the failure to read the list that the call needs, since there
is none. -/
inductive Alike (call : Call) : Except Failure Reply → Except Failure Reply → Prop
  | reply (r : Reply) : Alike call (.ok r) (.ok r)
  | missing {path : Path} {fault fault' : StorageFault} (hneeded : call.needed? = some path)
      (hf : fault.isMissing = true) (hf' : fault'.isMissing = true) :
      Alike call (.error (.read path fault)) (.error (.read path fault'))

/-- A list that is needed is there for both, or for neither. -/
theorem Journal.map_text_alike (j : Journal) {call : Call} {path : Path} (hneeded : call.needed? = some path)
    (f : Text → Reply) :
    Alike call ((j.text .notFound path).map f) ((j.text .noSuchList path).map f) := by
  unfold text
  cases j.latest? path with
  | some bytes => exact .reply _
  | none => exact .missing hneeded rfl rfl

/-- **By one journal, all answers are alike**, whatever is said where there is no list. -/
theorem Journal.answer_alike (j : Journal) (call : Call) :
    Alike call (j.answer .notFound call) (j.answer .noSuchList call) := by
  cases call with
  | put path bytes => exact .reply _
  | get path => exact .reply _
  | read path => exact j.map_text_alike rfl _
  | write path text => exact .reply _
  | trim s now input output => exact j.map_text_alike rfl _
  | trimInPlace s now path => exact j.map_text_alike rfl _

/-! ## Sessions -/

/-- **A session goes alike on files and in memory.** Where a directory has the files, by plain names, that a shelf has as
lists, every call of a session over plain names is answered alike by both: with the same text or tally, or with the
failure to read the same path, since there is nothing under it. In the end the two have the same files again: the same
names, with the same bytes. -/
theorem folder_session_alike_shelf_session {tree : FileTree} {shelf : Shelf} {files : Journal}
    (htree : tree.Keeps files) (hshelf : shelf.Keeps files) {calls : List Call}
    (hcalls : ∀ call ∈ calls, ∀ path ∈ call.paths, PlainName path) :
    (∀ (i : Nat) (call : Call), calls[i]? = some call → ∃ a b, (serve calls tree).2[i]? = some a ∧
        (serve calls shelf).2[i]? = some b ∧ Alike call a b) ∧
      ∃ after : Journal, (serve calls tree).1.Keeps after ∧ (serve calls shelf).1.Keeps after ∧
        ∀ name, PlainName name →
          (serve calls tree).1.get? ((serve calls tree).1.home ++ [name]) = ((serve calls shelf).1.get? name).map .file := by
  obtain ⟨hanswers, hkeeps⟩ := FileTree.keepsJournals.serve_eq htree calls hcalls
  obtain ⟨hanswers', hkeeps'⟩ := Shelf.keepsJournals.serve_eq hshelf calls fun _ _ _ _ => trivial
  refine ⟨fun i call hi => ⟨_, _, ?_, ?_, (Journal.afterAll files (calls.take i)).answer_alike call⟩, _, hkeeps, hkeeps',
    fun name hname => ?_⟩
  · rw [hanswers, List.getElem?_mapIdx, hi]
    rfl
  · rw [hanswers', List.getElem?_mapIdx, hi]
    rfl
  · rw [hkeeps.2 name, hkeeps' name, Journal.latest?_eq_lookup hkeeps.1 hname]

/-- A list that is not UTF-8 is trimmed where it is, read, and trimmed under a name that was free; a list that is not
there can not be trimmed over it. Directory and shelf reply alike, with nothing to the call that fails, and each says
of the missing list what it says of such. In the end both have the list as the first trim left it, and as the second
did. -/
theorem folder_session_with_missing_list :
    let l : Bytes := [0x6C]
    let m : Bytes := [0x6D]
    let s : Settings := ⟨⟨1⟩, Settings.defaultPrefixes⟩
    let now : Instant := ⟨0, 0, by decide⟩
    let data : Bytes := [0x61, 0xFF, 0x0A, 0x62]
    let once := "! Trimmed to 1 rules on 1970-01-01T00:00:00Z\na\uFFFD\n".toList
    let twice := "! Trimmed to 1 rules on 1970-01-01T00:00:00Z\n".toList ++ once
    let tree := FileTree.empty.put (FileTree.empty.home ++ [l]) (.file data)
    let shelf := Shelf.empty.insert l data
    let calls : List Call := [.trim s now m l, .trimInPlace s now l, .read l, .trim s now l m]
    let replies : List (Option Reply) :=
      [none, some (.tally ⟨0, 2, 1, 1, 0⟩), some (.text once), some (.tally ⟨1, 1, 1, 0, 0⟩)]
    tree.Keeps [(l, data)] ∧ shelf.Keeps [(l, data)] ∧ (∀ call ∈ calls, ∀ path ∈ call.paths, PlainName path) ∧
      ((serve calls tree).2.map Except.toOption = replies ∧
        (serve calls tree).2.head? = some (.error (.read m .notFound))) ∧
      ((serve calls shelf).2.map Except.toOption = replies ∧
        (serve calls shelf).2.head? = some (.error (.read m .noSuchList))) ∧
      ((serve calls tree).1.get? ((serve calls tree).1.home ++ [l]) = some (.file (Utf8.encode once)) ∧
        (serve calls tree).1.get? ((serve calls tree).1.home ++ [m]) = some (.file (Utf8.encode twice))) ∧
      (serve calls shelf).1.get? l = some (Utf8.encode once) ∧
        (serve calls shelf).1.get? m = some (Utf8.encode twice) := by
  intro l m s now data once twice tree shelf calls replies
  have htree : tree.Keeps [(l, data)] := FileTree.keeps_empty.put (by decide) data
  have hshelf : shelf.Keeps [(l, data)] := fun path => by rw [Shelf.get?_insert, Journal.latest?_cons]; rfl
  have hcalls : ∀ call ∈ calls, ∀ path ∈ call.paths, PlainName path := by decide
  obtain ⟨-, -, -, -, hsame⟩ := folder_session_alike_shelf_session htree hshelf hcalls
  have hl : (serve calls shelf).1.get? l = some (Utf8.encode once) := by decide +kernel
  have hm : (serve calls shelf).1.get? m = some (Utf8.encode twice) := by decide +kernel
  refine ⟨htree, hshelf, hcalls, ⟨?_, rfl⟩, ⟨?_, rfl⟩, ⟨?_, ?_⟩, hl, hm⟩
  · decide +kernel
  · decide +kernel
  · rw [hsame l (by decide), hl, Option.map_some]
  · rw [hsame m (by decide), hm, Option.map_some]

end RuleCap
