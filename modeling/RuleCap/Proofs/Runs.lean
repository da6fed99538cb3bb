import RuleCap.Run
import RuleCap.Proofs.FileTrees
import RuleCap.Proofs.HelpWords
import RuleCap.Proofs.Jobs
import RuleCap.Proofs.Utf8

/-!
# What runs do to files

A run whose command line makes a request goes by the settings of the file that the request names, and by all the
default ones where that file holds none (`SettingsFrom`, `settingsFrom_iff`); the limit of the request replaces theirs
(`Request.effective_eq`). Such a run can end in three ways (`runOn_cases`): the list can not be read, or it can not be
written, and then the files are as before; or the trimmed list has been written, once, to where the request wants it,
which may be the file that it was read from or that of the settings. For a list that can not be written this rests on
what trees of files assume: a write that fails has not begun. A run that is asked for help or the version ends before
any of this; the words tell when (`asked_iff`).

Main statement: `runOn_all_or_nothing`.
-/

namespace RuleCap

open CommandLine

/-! ## The settings of a run -/

/-- A file is UTF-8, and its text holds the settings. -/
def Holds (tree : FileTree) (config : Option Path) (s : Settings) : Prop :=
  ∃ path text, config = some path ∧ tree.read path = .ok (Utf8.encode text) ∧ Settings.ofYaml text = .ok s

/-- **The settings of a run**: those that the file holds, or else the default ones. -/
def SettingsFrom (tree : FileTree) (config : Option Path) (s : Settings) : Prop :=
  Holds tree config s ∨ (∀ s', ¬Holds tree config s') ∧ s = Settings.default

theorem ofBytes_eq_ok_iff {path : Path} {bytes : Bytes} {s : Settings} :
    Settings.ofBytes path bytes = .ok s ↔ ∃ text, Utf8.encode text = bytes ∧ Settings.ofYaml text = .ok s := by
  unfold Settings.ofBytes
  cases htext : Utf8.decode? bytes with
  | none => simp [← Utf8.decode?_eq_some_iff, htext]
  | some text => simp [← Utf8.decode?_eq_some_iff, htext, mapError_eq_ok_iff]

theorem settingsIn_eq_ok_iff {tree : FileTree} {path : Path} {s : Settings} :
    settingsIn tree path = .ok s ↔ Holds tree (some path) s := by
  constructor
  · intro h
    unfold settingsIn at h
    cases hread : Storage.read tree path with
    | error fault => rw [hread] at h; cases h
    | ok bytes =>
      rw [hread] at h
      obtain ⟨text, rfl, hs⟩ := ofBytes_eq_ok_iff.mp h
      exact ⟨path, text, rfl, hread, hs⟩
  · rintro ⟨path', text, hpath, hread, hs⟩
    cases hpath
    have hread' : Storage.read tree path = .ok (Utf8.encode text) := hread
    rw [settingsIn, hread']
    exact ofBytes_eq_ok_iff.mpr ⟨text, rfl, hs⟩

/-- **The settings of a run are those that its job finds**, and there are no others. -/
theorem settingsFrom_iff {tree : FileTree} {config : Option Path} {s : Settings} :
    SettingsFrom tree config s ↔ s = settingsOr tree config := by
  cases config with
  | none =>
    have hnone : ∀ s', ¬Holds tree none s' := by
      rintro s' ⟨path, text, hpath, -⟩
      cases hpath
    exact ⟨fun h => h.elim (fun h => absurd h (hnone s)) And.right, fun h => Or.inr ⟨hnone, h⟩⟩
  | some path =>
    simp only [SettingsFrom, ← settingsIn_eq_ok_iff]
    cases h : settingsIn tree path with
    | ok found => simp [settingsOr, h, Except.toOption, eq_comm]
    | error failure => simp [settingsOr, h, Except.toOption]

/-! ## The job of a request -/

namespace CommandLine.Request

variable (r : Request)

/-- What a request writes: the trimmed list, by settings of which it replaces the limit. -/
def trimmedText (settings : Settings) (now : Instant) (old : Bytes) : Text :=
  (trimText ⟨r.limit.getD settings.limit, settings.prefixes⟩ now (Utf8.decode old)).1.render

/-- **A request replaces the limit of the settings**, and nothing else of them. -/
theorem effective_eq (s : Settings) : r.effective s = ⟨r.limit.getD s.limit, s.prefixes⟩ := by
  unfold effective
  cases r.limit <;> rfl

/-- What a request does beyond the trim is only put down. -/
theorem exec_job {σ : Type} [Storage σ] (now : Instant) (s : σ) :
    (r.job now).exec s = (trimFile (r.effective (settingsOr s r.config)) now r.path r.outputPath).exec s := by
  unfold job
  cases r.config <;> cases r.ignored <;> simp

end CommandLine.Request

/-! ## Runs -/

/-- Help or the version is asked for. -/
def Asked (words : List Bytes) : Prop :=
  Request.ofWords words = .error .help ∨ Request.ofWords words = .error .version

/-- **When help or the version is asked for**, told by the words: some word is the name of that option or holds its
letter, with nothing but wishes for more words before it; two dashes alone do not stand before that word, and the words
before it make a request, or do but for a path. -/
theorem asked_iff {words : List Bytes} :
    Asked words ↔ ∃ (q : Inquiry) (before : List Bytes) (w : Bytes) (after : List Bytes),
      words = before ++ w :: after ∧ [Reader.dash, Reader.dash] ∉ before ∧ Usable before ∧ Asks q w := by
  constructor
  · rintro (h | h)
    · exact ⟨.help, (ofWords_eq_stop_iff .help).mp h⟩
    · exact ⟨.version, (ofWords_eq_stop_iff .version).mp h⟩
  · rintro ⟨q, h⟩
    have hstop := (ofWords_eq_stop_iff q).mpr h
    cases q with
    | help => exact Or.inl hstop
    | version => exact Or.inr hstop

/-- Words behind one that asks are not looked at. -/
example : Asked (["list", "-vh", "--config"].map fun w => Utf8.encode w.toList) := Or.inl rfl

section Runs

variable {tree : FileTree} {words : List Bytes} {spec : Option Text} {now : Instant} {r : Request}

/-- A run without a request does nothing. -/
theorem runOn_of_stop {stop : Stop} (hwords : Request.ofWords words = .error stop) :
    runOn tree words spec now = (tree, Exit.ofStop stop) := by
  rw [runOn, hwords]

/-- A run with a request does its job. -/
theorem runOn_of_request (tree : FileTree) (spec : Option Text) (now : Instant)
    (hwords : Request.ofWords words = .ok r) :
    ∃ logged, runOn tree words spec now =
      (((r.job now).exec tree).1, Exit.ofResult r.path logged ((r.job now).exec tree).2) := by
  rw [runOn, hwords]
  exact ⟨_, rfl⟩

/-- A run without a request fails exactly if none was asked for. -/
theorem ofStop_code_ne_zero_iff {stop : Stop} : (Exit.ofStop stop).code ≠ 0 ↔ ∃ fault, stop = .refused fault := by
  cases stop <;> simp [Exit.ofStop, Stop.isAsked]

/-- **The three ends of a run with a request**: the list is not read, or it is not written, or the one write that there
is leads to the tree behind the run. -/
theorem runOn_cases (tree : FileTree) (spec : Option Text) (now : Instant) (hwords : Request.ofWords words = .ok r) :
    (∃ fault, tree.read r.path = .error fault ∧
        (runOn tree words spec now).1 = tree ∧ (runOn tree words spec now).2.code = 1) ∨
      ∃ old, tree.read r.path = .ok old ∧
        let text := r.trimmedText (settingsOr tree r.config) now old
        (∃ fault, tree.write r.outputPath (Utf8.encode text) = .error fault ∧
            (runOn tree words spec now).1 = tree ∧ (runOn tree words spec now).2.code = 1) ∨
          tree.write r.outputPath (Utf8.encode text) = .ok (runOn tree words spec now).1 ∧
            (runOn tree words spec now).2.code = 0 := by
  obtain ⟨logged, hrun⟩ := runOn_of_request tree spec now hwords
  rw [r.exec_job, r.effective_eq] at hrun
  obtain ⟨fault, hread, hexec⟩ | ⟨old, hread, ⟨fault, hwrite, hexec⟩ | ⟨after, hwrite, hexec⟩⟩ :=
    exec_trimFile_cases tree ⟨r.limit.getD (settingsOr tree r.config).limit, (settingsOr tree r.config).prefixes⟩ now
      r.path r.outputPath
  all_goals rw [hexec] at hrun
  · exact Or.inl ⟨fault, hread, by rw [hrun], by rw [hrun]; rfl⟩
  · exact Or.inr ⟨old, hread, Or.inl ⟨fault, hwrite, by rw [hrun], by rw [hrun]; rfl⟩⟩
  · exact Or.inr ⟨old, hread, Or.inr ⟨by rw [hrun]; exact hwrite, by rw [hrun]; rfl⟩⟩

/-- A run that fails leaves the files as they are. -/
theorem runOn_failed (h : (runOn tree words spec now).2.code ≠ 0) : (runOn tree words spec now).1 = tree := by
  cases hwords : Request.ofWords words with
  | error stop => rw [runOn_of_stop hwords]
  | ok r =>
    obtain ⟨-, -, hafter, -⟩ | ⟨-, -, ⟨-, -, hafter, -⟩ | ⟨-, hcode⟩⟩ := runOn_cases tree spec now hwords
    · exact hafter
    · exact hafter
    · exact absurd hcode h

/-- A run that is asked for help or the version does no more. -/
theorem runOn_asked (h : Asked words) :
    (runOn tree words spec now).2.code = 0 ∧ (runOn tree words spec now).1 = tree := by
  obtain h | h := h
  all_goals
    rw [runOn_of_stop h]
    exact ⟨rfl, rfl⟩

/-- **Why runs fail**: the command line can not be used, the list can not be read, or it can not be written. -/
theorem runOn_code_ne_zero_iff :
    (runOn tree words spec now).2.code ≠ 0 ↔
      (∃ fault, Request.ofWords words = .error (.refused fault)) ∨
        ∃ r, Request.ofWords words = .ok r ∧
          ((∃ fault, tree.read r.path = .error fault) ∨
            ∀ data, ∃ fault, tree.write r.outputPath data = .error fault) := by
  cases hwords : Request.ofWords words with
  | error stop => simp [runOn_of_stop hwords, ofStop_code_ne_zero_iff]
  | ok r =>
    simp only [reduceCtorEq, exists_false, false_or, Except.ok.injEq, exists_eq_left']
    obtain ⟨fault, hread, -, hcode⟩ | ⟨old, hread, ⟨fault, hwrite, -, hcode⟩ | ⟨hwrite, hcode⟩⟩ :=
      runOn_cases tree spec now hwords
    · simp [hread, hcode]
    · -- the write that failed was that of one text, but no other would have come through
      have hnone := FileTree.exists_error_write hwrite
      simp [hcode, hnone]
    · refine iff_of_false (by simp [hcode]) ?_
      rintro (⟨fault, hfault⟩ | hnone)
      · rw [hread] at hfault
        cases hfault
      · obtain ⟨fault, hfault⟩ := hnone _
        rw [hwrite] at hfault
        cases hfault

/-- **What a run that does not fail has done**: it has written the trimmed list, once. -/
theorem runOn_succeeded (hasked : ¬Asked words) (hcode : (runOn tree words spec now).2.code = 0) :
    ∃ r settings old, Request.ofWords words = .ok r ∧ SettingsFrom tree r.config settings ∧
      tree.read r.path = .ok old ∧
      tree.Rewrites (runOn tree words spec now).1 r.outputPath (Utf8.encode (r.trimmedText settings now old)) := by
  cases hwords : Request.ofWords words with
  | error stop =>
    cases stop with
    | help => exact absurd (Or.inl hwords) hasked
    | version => exact absurd (Or.inr hwords) hasked
    | refused fault => exact absurd hcode (runOn_code_ne_zero_iff.mpr (Or.inl ⟨fault, hwords⟩))
  | ok r =>
    obtain ⟨-, -, -, hcode'⟩ | ⟨old, hread, ⟨-, -, -, hcode'⟩ | ⟨hwrite, -⟩⟩ := runOn_cases tree spec now hwords
    · rw [hcode] at hcode'; cases hcode'
    · rw [hcode] at hcode'; cases hcode'
    · exact ⟨r, _, old, rfl, settingsFrom_iff.mpr rfl, hread, FileTree.rewrites_of_write hwrite⟩

/-- **A run is all or nothing, and touches one file.** If it fails, the files are as before. Help and the version aside,
it fails exactly if the command line can not be used, the list can not be read or nothing can be written where it is to
go; and if it does not fail, the trimmed list is in its place and everything else is as before. -/
theorem runOn_all_or_nothing (tree : FileTree) (words : List Bytes) (spec : Option Text) (now : Instant) :
    let after := (runOn tree words spec now).1
    let code := (runOn tree words spec now).2.code
    (code ≠ 0 → after = tree) ∧
      (Asked words → code = 0 ∧ after = tree) ∧
      (¬Asked words → code = 0 →
        ∃ r settings old, Request.ofWords words = .ok r ∧ SettingsFrom tree r.config settings ∧
          tree.read r.path = .ok old ∧
          tree.Rewrites after r.outputPath (Utf8.encode (r.trimmedText settings now old))) ∧
      (code ≠ 0 ↔
        (∃ fault, Request.ofWords words = .error (.refused fault)) ∨
          ∃ r, Request.ofWords words = .ok r ∧
            ((∃ fault, tree.read r.path = .error fault) ∨
              ∀ data, ∃ fault, tree.write r.outputPath data = .error fault)) :=
  ⟨runOn_failed, runOn_asked, runOn_succeeded, runOn_code_ne_zero_iff⟩

/-- A run by the settings of a file, with another limit on the command line and another file for the trimmed list. By
the prefixes of the settings a line with an exclamation mark is a rule, so it is kept; the limit of the settings is not
used. The list and the settings stay as they are. -/
theorem run_with_settings_limit_and_output :
    let now : Instant := ⟨0, 0, by decide⟩
    let bytes (text : String) : Bytes := Utf8.encode text.toList
    let place (name : String) : Location := FileTree.empty.home ++ [bytes name]
    let old := bytes "# head\na\n! b\nc\n"
    let conf := bytes "max_rules: 1\ncomment_prefixes: ['#']\n"
    let new := bytes "# head\n! Trimmed to 2 rules on 1970-01-01T00:00:00Z\na\n! b\n"
    let tree := (FileTree.empty.put (place "list") (.file old)).put (place "conf") (.file conf)
    let words := ["list", "2", "--config", "conf", "-o", "out"].map bytes
    let after := (runOn tree words none now).1
    (runOn tree words none now).2.code = 0 ∧ after.get? (place "out") = some (.file new) ∧
      after.get? (place "list") = some (.file old) ∧ after.get? (place "conf") = some (.file conf) ∧
      ∀ l, l ≠ place "out" → after.get? l = tree.get? l := by
  intro now bytes place old conf new tree words after
  let request : Request := ⟨bytes "list", some ⟨2⟩, [], some (bytes "conf"), some (bytes "out"), 0⟩
  have hwords : Request.ofWords words = .ok request := rfl
  have hasked : ¬Asked words := by
    rintro (h | h) <;> rw [hwords] at h <;> cases h
  have hcode : (runOn tree words none now).2.code = 0 := by decide +kernel
  obtain ⟨-, -, hdone, -⟩ := runOn_all_or_nothing tree words none now
  obtain ⟨r, settings, data, hr, hsettings, hdata, -, ⟨l, hplace, hthere, helsewhere⟩, -⟩ := hdone hasked hcode
  -- the request, the settings, the list and the place that the run is about
  obtain rfl : request = r := Except.ok.inj (hwords.symm.trans hr)
  have hfound : settings = ⟨⟨1⟩, [['#']]⟩ := (settingsFrom_iff.mp hsettings).trans (by decide +kernel)
  have hread : tree.read request.path = .ok old := rfl
  obtain rfl : old = data := Except.ok.inj (hread.symm.trans hdata)
  have hfollow : tree.follow request.outputPath = .ok (.name FileTree.empty.home (bytes "out") false) := rfl
  obtain ⟨parent, name, hfollow', -, rfl, -⟩ := hplace
  cases hfollow.symm.trans hfollow'
  have hnew : Utf8.encode (request.trimmedText settings now old) = new := by
    rw [hfound]
    decide +kernel
  rw [hnew] at hthere
  exact ⟨hcode, hthere, helsewhere _ (by decide), helsewhere _ (by decide), helsewhere⟩

end Runs

end RuleCap
