import RuleCap.Settings
import RuleCap.Yaml.Node

/-!
# Streams that hold one scalar

A *word* has no character in it that means something to the format (`isWordChar`). It is written plainly or in quotes
(`Style`), and read back as it is: by the readers of scalars (`plain_word`, `singleQuoted_word`,
`doubleQuoted_word`), as the one token that a step of the scan takes (`Scan.AtToken.exists_next`), and up to the end of
the stream (`Scan.AtToken.exists_run`), where nothing is left but to close what is open (`Scan.Ending.finish`).

Two streams are read from there: the one that is a scalar and nothing else, and the one that sets the limit to a scalar.

Main statements: `exists_document?_scalar`, `exists_document?_limitField`.
-/

namespace RuleCap.Yaml

/-! ## Words -/

/-- The characters that have no meaning of their own anywhere in a scalar. -/
def isWordChar (c : Char) : Bool := c.isAlphanum || c == '_' || c == '+' || c == '-'

theorem isWordChar_of_isDigit {c : Char} (h : c.isDigit = true) : isWordChar c = true := by
  simp [isWordChar, Char.isAlphanum, h]

section Word

variable {c : Char} {w : Text}

theorem ne_of_isWordChar (h : isWordChar c = true) (mark : Char) (hmark : isWordChar mark = false) : c ≠ mark := by
  rintro rfl
  exact absurd (h.symm.trans hmark) (by decide)

theorem isGap_of_isWordChar (h : isWordChar c = true) : isGap c = false := by
  simp [isGap, ne_of_isWordChar h ' ' rfl, ne_of_isWordChar h '\t' rfl]

theorem endsLine_of_isWordChar (h : isWordChar c = true) : endsLine c = false := by
  simp [endsLine, ne_of_isWordChar h '\n' rfl, ne_of_isWordChar h '\u2028' rfl,
    ne_of_isWordChar h '\u2029' rfl]

theorem isReadable_of_isWordChar (h : isWordChar c = true) : isReadable c = true := by
  unfold isWordChar Char.isAlphanum Char.isAlpha Char.isUpper Char.isLower Char.isDigit at h
  simp only [Bool.or_eq_true, Bool.and_eq_true, decide_eq_true_eq, beq_iff_eq, ge_iff_le,
    UInt32.le_iff_toNat_le] at h
  change ((((65 ≤ c.toNat ∧ c.toNat ≤ 90 ∨ 97 ≤ c.toNat ∧ c.toNat ≤ 122) ∨ 48 ≤ c.toNat ∧ c.toNat ≤ 57) ∨
    c = '_') ∨ c = '+') ∨ c = '-' at h
  rcases h with ((hname | rfl) | rfl) | rfl
  · have hrange : 0x20 ≤ c.toNat ∧ c.toNat ≤ 0x7E := by omega
    simp [isReadable, hrange]
  · rfl
  · rfl
  · rfl

end Word

/-! ## Scalars -/

section Scalar

variable {w : Text} (hw : ∀ c ∈ w, isWordChar c = true)

include hw

/-- A plain scalar goes on through a word. -/
theorem plain_word (indent : Int) (tail : Text) (mark : Mark) : plain false indent .none (w ++ tail) mark =
    (plain false indent .none tail (mark.past w)).map fun r => (w ++ r.1, r.2) := by
  induction w generalizing mark with
  | nil => simp [Mark.past]
  | cons c w ih =>
    rw [List.forall_mem_cons] at hw
    have hcolon := ne_of_isWordChar hw.1 ':' rfl
    rw [List.cons_append, plain]
    simp only [isGap_of_isWordChar hw.1, endsLine_of_isWordChar hw.1, Gap.isNone, isStrayColon, endsPlain,
      beq_eq_false_iff_ne.mpr hcolon, ih hw.2]
    simp [Gap.join, Mark.past]
    cases plain false indent .none tail (List.foldl Mark.right (mark.right c) w) <;> rfl

/-- A scalar in single quotes holds a word as it is. -/
theorem singleQuoted_word {tail : Text} (htail : ∀ rest, tail ≠ '\'' :: rest) (mark : Mark) (hmark : mark.column ≠ 0) :
    ∃ after, singleQuoted .none (w ++ '\'' :: tail) mark = some (w, ⟨tail, after⟩) := by
  induction w generalizing mark with
  | nil =>
    refine ⟨mark.right '\'', ?_⟩
    rw [List.nil_append, singleQuoted]
    · simp [cutByMark, hmark, Gap.join]
    · simpa using htail
  | cons c w ih =>
    rw [List.forall_mem_cons] at hw
    obtain ⟨after, hafter⟩ := ih hw.2 (mark.right c) (Nat.succ_ne_zero _)
    have hquote := ne_of_isWordChar hw.1 '\'' rfl
    refine ⟨after, ?_⟩
    rw [List.cons_append, singleQuoted]
    · simp [cutByMark, hmark, hquote, isGap_of_isWordChar hw.1, endsLine_of_isWordChar hw.1, hafter, Gap.join]
    · simp [hquote]

/-- So does one in double quotes. -/
theorem doubleQuoted_word (tail : Text) (mark : Mark) (hmark : mark.column ≠ 0) :
    ∃ after, doubleQuoted (.run .none) (w ++ '"' :: tail) mark = some (w, ⟨tail, after⟩) := by
  induction w generalizing mark with
  | nil =>
    refine ⟨mark.right '"', ?_⟩
    simp [doubleQuoted, cutByMark, hmark, Gap.join]
  | cons c w ih =>
    rw [List.forall_mem_cons] at hw
    obtain ⟨after, hafter⟩ := ih hw.2 (mark.right c) (Nat.succ_ne_zero _)
    have hquote := ne_of_isWordChar hw.1 '"' rfl
    have hescape := ne_of_isWordChar hw.1 '\\' rfl
    refine ⟨after, ?_⟩
    simp [doubleQuoted, cutByMark, hmark, hquote, hescape, isGap_of_isWordChar hw.1, endsLine_of_isWordChar hw.1,
      hafter, Gap.join]

end Scalar

/-! ## The token of a scalar -/

/-- The begin of a word: a letter, a digit or a sign, and no dash without a letter or digit behind it. -/
def BeginsWord (c : Char) (rest : Text) : Prop :=
  isWordChar c = true ∧ (c = '-' → ∃ d more, rest = d :: more ∧ d.isAlphanum = true)

section Begin

variable {c : Char} {rest : Text}

theorem isWordChar_of_isAlphanum (h : c.isAlphanum = true) : isWordChar c = true := by
  simp [isWordChar, h]

/-- The marks of the format, the dash apart. -/
def marks : Text :=
  ['?', ':', ',', '[', ']', '{', '}', '#', '&', '*', '!', '|', '>', '\'', '"', '%', '@', '\x60']

/-- No mark is in a word. -/
theorem ne_marks (h : isWordChar c = true) : ∀ mark ∈ marks, c ≠ mark := by
  intro mark hmark
  have hall : marks.all (fun mark => !isWordChar mark) = true := rfl
  exact ne_of_isWordChar h mark (by simpa using List.all_eq_true.mp hall mark hmark)

theorem BeginsWord.not_documentMark (h : BeginsWord c rest) : startsDocumentMark (c :: rest) = false := by
  have hpoint := ne_of_isWordChar h.1 '.' rfl
  by_cases hc : c = '-'
  · obtain ⟨d, more, rfl, hd⟩ := h.2 hc
    have hdash : d ≠ '-' := by
      rintro rfl
      exact absurd hd (by decide)
    simp [startsDocumentMark, hc, hdash]
  · simp [startsDocumentMark, hc, hpoint]

theorem BeginsWord.startsPlain (h : BeginsWord c rest) : Scan.startsPlain false c rest = true := by
  by_cases hc : c = '-'
  · obtain ⟨d, more, rfl, hd⟩ := h.2 hc
    simp [Scan.startsPlain, hc, isGap_of_isWordChar (isWordChar_of_isAlphanum hd)]
  · have hmarks := ne_marks h.1
    simp only [marks, List.forall_mem_cons] at hmarks
    simp [Scan.startsPlain, hc, hmarks, isGap_of_isWordChar h.1, endsLine_of_isWordChar h.1]

theorem BeginsWord.not_blockEntry (h : BeginsWord c rest) : ¬(c = '-' ∧ startsBlank rest = true) := by
  rintro ⟨hc, hblank⟩
  obtain ⟨d, more, rfl, hd⟩ := h.2 hc
  have hword := isWordChar_of_isAlphanum hd
  simp [startsBlank, isGap_of_isWordChar hword, endsLine_of_isWordChar hword] at hblank

end Begin

namespace Scan

/-- At a token outside of flow collections, further right than the block around it, and behind no possible key. -/
structure AtToken (s : Scan) : Prop where
  keys : s.keys = [none]
  indent_lt : s.indent < s.column

/-- The possible key that begins here. -/
def keyHere (s : Scan) : Option PendingKey :=
  if s.keyAllowed then some ⟨false, s.found.length, s.mark⟩ else none

/-- The state behind a scalar. -/
def afterScalar (s : Scan) (isPlain : Bool) (text : Text) (cursor : Cursor) (keyAllowed : Bool) : Scan :=
  { s with cursor, found := ⟨.scalar isPlain text, s.mark⟩ :: s.found, keys := [s.keyHere], keyAllowed }

variable {s : Scan} {c : Char} {rest text : Text} {after : Cursor}

theorem AtToken.inFlow (h : s.AtToken) : s.inFlow = false := by
  simp [Scan.inFlow, h.keys]

theorem AtToken.saveKey (h : s.AtToken) : s.saveKey = some { s with keys := [s.keyHere] } := by
  have hindent : s.indent ≠ s.column := Int.ne_of_lt h.indent_lt
  unfold Scan.saveKey keyHere
  split
  · simp [dropKey, key?, setKey, h.keys, h.inFlow, hindent]
  · rw [← h.keys]

/-- **The next token is a plain scalar.** -/
theorem AtToken.next_plain (h : s.AtToken) (hbegin : BeginsWord c rest) {broken : Bool}
    (hplain : plain false (s.indent + 1) .none s.cursor.rest s.mark = some (text, after, broken)) :
    s.next c rest = some (s.afterScalar true text after broken) := by
  have hmarks := ne_marks hbegin.1
  simp only [marks, List.forall_mem_cons] at hmarks
  have hscalar : s.plainScalar = some (s.afterScalar true text after broken) := by
    rw [plainScalar, h.saveKey]
    change (plain false (s.indent + 1) .none s.cursor.rest s.mark).bind _ = _
    rw [hplain]
    rfl
  unfold next
  simp only [hbegin.not_documentMark, hbegin.not_blockEntry, h.inFlow, hbegin.startsPlain, hscalar]
  simp [hmarks]

/-- **The next token is a quoted scalar.** -/
theorem AtToken.next_quoted (h : s.AtToken) {read : Text → Mark → Option (Text × Cursor)}
    (hquote : c = '\'' ∧ read = singleQuoted .none ∨ c = '"' ∧ read = doubleQuoted (.run .none))
    (hrest : s.cursor.rest = c :: rest) (hread : read rest (s.mark.right c) = some (text, after)) :
    s.next c rest = some (s.afterScalar false text after false) := by
  have hscalar : s.quoted read = some (s.afterScalar false text after false) := by
    have hright : s.cursor.right 1 = ⟨rest, s.mark.right c⟩ := by
      rw [Cursor.right, hrest]
      rfl
    rw [quoted, h.saveKey]
    change (read (s.cursor.right 1).rest (s.cursor.right 1).mark).bind _ = _
    rw [hright, hread]
    rfl
  unfold next
  rcases hquote with ⟨rfl, rfl⟩ | ⟨rfl, rfl⟩
  · simp [startsDocumentMark, hscalar]
  · simp [startsDocumentMark, hscalar]

/-! ## Up to the end of the stream -/

theorem unroll_of_le {column : Int} (h : s.indent ≤ column) : s.unroll column = s := by
  unfold unroll
  split
  · rfl
  · unfold closeBlocks
    split
    · rfl
    · rw [if_neg (Int.not_lt.mpr h)]

/-- A step that ends no block and finds a token. -/
theorem run_cons {next : Scan} (htoken : s.toToken.dropStaleKeys = some next) (hindent : next.indent ≤ next.column)
    (hrest : next.cursor.rest = c :: rest) (steps : Nat) :
    s.run (steps + 1) = (next.next c rest).bind (run steps) := by
  rw [run, htoken, Option.bind_eq_bind, Option.bind_some, unroll_of_le hindent]
  dsimp only
  rw [hrest]

/-- A step that ends no block and finds the end of the stream. -/
theorem run_nil {next : Scan} (htoken : s.toToken.dropStaleKeys = some next) (hindent : next.indent ≤ next.column)
    (hrest : next.cursor.rest = []) (steps : Nat) : s.run (steps + 1) = next.finish := by
  rw [run, htoken, Option.bind_eq_bind, Option.bind_some, unroll_of_le hindent]
  dsimp only
  rw [hrest]

/-- Behind the last scalar: at most one key is possible and none has to be, and a block is open or none. -/
structure Ending (s : Scan) : Prop where
  keys : ∃ key : Option PendingKey, s.keys = [key] ∧ ∀ k ∈ key, k.required = false
  blocks : s.indent = -1 ∧ s.outer = [] ∨ s.indent = 0 ∧ s.outer = [-1]

/-- The tokens that end a stream. -/
def ending (s : Scan) (mark : Mark) : List Token := s.outer.map (fun _ => ⟨.blockEnd, mark⟩) ++ [⟨.streamEnd, mark⟩]

theorem Ending.finish (h : s.Ending) : s.finish = some (s.found.reverse ++ s.ending s.mark) := by
  obtain ⟨cursor, found, indent, outer, keys, keyAllowed⟩ := s
  obtain ⟨⟨key, rfl, hrequired⟩, hblocks⟩ := h
  have hdrop : key.any (·.required) = false := by
    cases key with
    | none => rfl
    | some k => exact hrequired k rfl
  rcases hblocks with ⟨rfl, rfl⟩ | ⟨rfl, rfl⟩
  · simp [Scan.finish, unroll, Scan.inFlow, closeBlocks, dropKey, key?, setKey, emit, ending, hdrop, Scan.mark]
  · simp [Scan.finish, unroll, Scan.inFlow, closeBlocks, dropKey, key?, setKey, emit, ending, hdrop, Scan.mark]

theorem Ending.exists_dropStaleKeys (h : s.Ending) :
    ∃ keys, s.dropStaleKeys = some { s with keys } ∧ ({ s with keys } : Scan).Ending := by
  obtain ⟨⟨key, hkeys, hrequired⟩, hblocks⟩ := h
  refine ⟨[key.filter fun k => !s.isStale k], ?_, ⟨_, rfl, ?_⟩, hblocks⟩
  · have hstale : key.any (fun k => s.isStale k && k.required) = false := by
      cases key with
      | none => rfl
      | some k => simp [hrequired k rfl]
    simp [dropStaleKeys, hkeys, hstale]
  · intro k hk
    exact hrequired k (Option.mem_filter_iff.mp hk).1

theorem exists_toToken (hrest : s.cursor.rest = [] ∨ s.cursor.rest = ['\n']) :
    ∃ keyAllowed mark, s.toToken = { s with keyAllowed, cursor := ⟨[], mark⟩ } := by
  rcases hrest with hrest | hrest
  · exact ⟨s.keyAllowed, s.mark, by simp [toToken, hrest, skipSpace]⟩
  · exact ⟨s.keyAllowed || !s.inFlow, s.mark.nextLine, by simp [toToken, hrest, skipSpace, endsLine]⟩

/-- **At the end of the stream, perhaps behind one more line break, nothing is left to be found.** -/
theorem Ending.exists_run (h : s.Ending) (hrest : s.cursor.rest = [] ∨ s.cursor.rest = ['\n']) (steps : Nat) :
    ∃ mark, s.run (steps + 1) = some (s.found.reverse ++ s.ending mark) := by
  obtain ⟨keyAllowed, mark, htoken⟩ := exists_toToken hrest
  have h' : ({ s with keyAllowed, cursor := ⟨[], mark⟩ } : Scan).Ending := ⟨h.keys, h.blocks⟩
  obtain ⟨keys, hdrop, hend⟩ := h'.exists_dropStaleKeys
  have hindent : s.indent ≤ mark.column := by
    rcases h.blocks with ⟨hindent, -⟩ | ⟨hindent, -⟩ <;> omega
  have hstep := run_nil ((congrArg dropStaleKeys htoken).trans hdrop) hindent rfl steps
  exact ⟨mark, hstep.trans hend.finish⟩

end Scan

/-! ## A scalar at the end of a stream -/

/-- The ways to write a word: without marks, or in quotes of one kind or the other. -/
inductive Style
  | plain
  | single
  | double
deriving DecidableEq

namespace Style

/-- Whether a scalar has no marks. -/
def isPlain : Style → Bool
  | plain => true
  | _ => false

/-- A word written as a scalar. -/
def write : Style → Text → Text
  | plain, w => w
  | single, w => '\'' :: (w ++ ['\''])
  | double, w => '"' :: (w ++ ['"'])

end Style

/-- A word: characters without meaning of their own, begun as words begin. -/
structure Word (w : Text) : Prop where
  chars : ∀ c ∈ w, isWordChar c = true
  begins : ∃ c rest, w = c :: rest ∧ BeginsWord c rest

/-- The end of a stream: nothing, or a line break. -/
def EndsStream (tail : Text) : Prop := tail = [] ∨ tail = ['\n']

section Last

variable {s : Scan} {w tail : Text}

theorem BeginsWord.append {c : Char} {rest : Text} (h : BeginsWord c rest) (more : Text) :
    BeginsWord c (rest ++ more) := by
  refine ⟨h.1, fun hc => ?_⟩
  obtain ⟨d, rest, rfl, hd⟩ := h.2 hc
  exact ⟨d, rest ++ more, rfl, hd⟩

theorem exists_plain_of_endsStream (h : EndsStream tail) (indent : Int) (mark : Mark) :
    ∃ after broken, plain false indent .none tail mark = some ([], ⟨[], after⟩, broken) := by
  rcases h with rfl | rfl
  · exact ⟨_, _, rfl⟩
  · exact ⟨_, _, rfl⟩

/-- **A word at the end of a stream is one scalar**, in whatever way it is written. -/
theorem Scan.AtToken.exists_next (h : s.AtToken) (style : Style) (hw : Word w) (htail : EndsStream tail)
    (hrest : s.cursor.rest = style.write w ++ tail) :
    ∃ c rest after broken, s.cursor.rest = c :: rest ∧ EndsStream after.rest ∧
      s.next c rest = some (s.afterScalar style.isPlain w after broken) := by
  obtain ⟨c, rest, hcons, hbegin⟩ := hw.begins
  cases style with
  | plain =>
    obtain ⟨after, broken, hend⟩ := exists_plain_of_endsStream htail (s.indent + 1) (s.mark.past w)
    refine ⟨c, rest ++ tail, ⟨[], after⟩, broken, by rw [hrest, Style.write, hcons]; rfl, Or.inl rfl, ?_⟩
    refine h.next_plain (hbegin.append tail) ?_
    rw [hrest, Style.write, plain_word hw.chars, hend]
    simp
  | single =>
    have hquote : ∀ rest, tail ≠ '\'' :: rest := by
      rcases htail with rfl | rfl <;> simp
    obtain ⟨after, hafter⟩ := singleQuoted_word hw.chars hquote (s.mark.right '\'') (Nat.succ_ne_zero _)
    have hrest' : s.cursor.rest = '\'' :: (w ++ '\'' :: tail) := by simp [hrest, Style.write]
    exact ⟨_, _, _, _, hrest', htail, h.next_quoted (Or.inl ⟨rfl, rfl⟩) hrest' hafter⟩
  | double =>
    obtain ⟨after, hafter⟩ := doubleQuoted_word hw.chars tail (s.mark.right '"') (Nat.succ_ne_zero _)
    have hrest' : s.cursor.rest = '"' :: (w ++ '"' :: tail) := by simp [hrest, Style.write]
    exact ⟨_, _, _, _, hrest', htail, h.next_quoted (Or.inr ⟨rfl, rfl⟩) hrest' hafter⟩

/-- The tokens of a stream that a scalar ends. -/
theorem Scan.AtToken.exists_run (h : s.AtToken) {before : Scan} (htoken : before.toToken = s)
    (hblocks : s.indent = -1 ∧ s.outer = [] ∨ s.indent = 0 ∧ s.outer = [-1])
    (style : Style) (hw : Word w) (htail : EndsStream tail)
    (hrest : s.cursor.rest = style.write w ++ tail) (steps : Nat) :
    ∃ mark, before.run (steps + 2) =
      some (s.found.reverse ++ ⟨.scalar style.isPlain w, s.mark⟩ :: s.ending mark) := by
  obtain ⟨c, rest, after, broken, hcons, hafter, hnext⟩ := h.exists_next style hw htail hrest
  have hdrop : s.dropStaleKeys = some s := by
    obtain ⟨cursor, found, indent, outer, keys, keyAllowed⟩ := s
    obtain ⟨rfl, -⟩ := h
    rfl
  have hend : (s.afterScalar style.isPlain w after broken).Ending := by
    refine ⟨⟨s.keyHere, rfl, ?_⟩, hblocks⟩
    unfold Scan.keyHere
    split
    · rintro k ⟨⟩
      rfl
    · rintro k ⟨⟩
  obtain ⟨mark, hrun⟩ := hend.exists_run hafter steps
  refine ⟨mark, ?_⟩
  rw [Scan.run_cons ((congrArg Scan.dropStaleKeys htoken).trans hdrop) (Int.le_of_lt h.indent_lt) hcons, hnext,
    Option.bind_some, hrun]
  simp [Scan.afterScalar, Scan.ending]

end Last

/-! ## Streams -/

section Streams

variable {w tail : Text}

/-- The characters with which a scalar begins are no white space. -/
theorem Scan.skipSpace_of_begin {c : Char} (hc : isWordChar c = true ∨ c = '\'' ∨ c = '"') (inFlow keyAllowed : Bool)
    (rest : Text) (mark : Mark) :
    Scan.skipSpace inFlow keyAllowed false (c :: rest) mark = (keyAllowed, ⟨c :: rest, mark⟩) := by
  have hline : endsLine c = false := by
    rcases hc with h | rfl | rfl
    · exact endsLine_of_isWordChar h
    · rfl
    · rfl
  have hne : c ≠ '\uFEFF' ∧ c ≠ ' ' ∧ c ≠ '\t' ∧ c ≠ '#' := by
    rcases hc with h | rfl | rfl
    · exact ⟨ne_of_isWordChar h _ rfl, ne_of_isWordChar h _ rfl, ne_of_isWordChar h _ rfl, ne_of_isWordChar h _ rfl⟩
    · decide
    · decide
  simp [Scan.skipSpace, hline, hne]

theorem Style.exists_write (style : Style) (hw : Word w) (tail : Text) :
    ∃ c rest, style.write w ++ tail = c :: rest ∧ (isWordChar c = true ∨ c = '\'' ∨ c = '"') := by
  obtain ⟨c, rest, rfl, hbegin⟩ := hw.begins
  cases style with
  | plain => exact ⟨c, rest ++ tail, rfl, Or.inl hbegin.1⟩
  | single => exact ⟨'\'', _, rfl, Or.inr (Or.inl rfl)⟩
  | double => exact ⟨'"', _, rfl, Or.inr (Or.inr rfl)⟩

/-- **The tokens of a stream that is one scalar.** -/
theorem exists_run_scalar (style : Style) (hw : Word w) (htail : EndsStream tail) (steps : Nat) :
    ∃ first last, (Scan.start (style.write w ++ tail)).run (steps + 2) =
      some [⟨.scalar style.isPlain w, first⟩, ⟨.streamEnd, last⟩] := by
  have htoken : (Scan.start (style.write w ++ tail)).toToken = Scan.start (style.write w ++ tail) := by
    obtain ⟨c, rest, hcons, hc⟩ := style.exists_write hw tail
    rw [hcons]
    unfold Scan.toToken Scan.start
    dsimp only
    rw [Scan.skipSpace_of_begin hc]
    rfl
  have hat : (Scan.start (style.write w ++ tail)).AtToken := ⟨rfl, Int.negSucc_lt_zero 0⟩
  obtain ⟨mark, hrun⟩ := hat.exists_run htoken (Or.inl ⟨rfl, rfl⟩) style hw htail rfl steps
  exact ⟨_, mark, hrun⟩

/-- Behind the name of the limit, at its colon. -/
def atColon (rest : Text) : Scan where
  cursor := ⟨':' :: rest, ⟨0, 9, 9⟩⟩
  found := [⟨.scalar true Settings.limitField, Mark.start⟩]
  indent := -1
  outer := []
  keys := [some ⟨false, 0, Mark.start⟩]
  keyAllowed := false

/-- Behind the colon: a block with one key is open. -/
def behindColon (rest : Text) (column : Nat) : Scan where
  cursor := ⟨rest, ⟨0, column, column⟩⟩
  found := [⟨.value, ⟨0, 9, 9⟩⟩, ⟨.scalar true Settings.limitField, Mark.start⟩, ⟨.key, Mark.start⟩,
    ⟨.blockMapping, Mark.start⟩]
  indent := 0
  outer := [-1]
  keys := [none]
  keyAllowed := false

/-- The name of the limit is a scalar. -/
theorem next_limitField (rest : Text) :
    (Scan.start (Settings.limitField ++ ':' :: ' ' :: rest)).next 'm' ("ax_rules".toList ++ ':' :: ' ' :: rest) =
      some (atColon (' ' :: rest)) := by
  have hat : (Scan.start (Settings.limitField ++ ':' :: ' ' :: rest)).AtToken := ⟨rfl, Int.negSucc_lt_zero 0⟩
  have hword : ∀ c ∈ Settings.limitField, isWordChar c = true := List.all_eq_true.mp rfl
  have hmark : Mark.start.past Settings.limitField = ⟨0, 9, 9⟩ := by decide
  have hcolon : plain false 0 .none (':' :: ' ' :: rest) ⟨0, 9, 9⟩ =
      some ([], ⟨':' :: ' ' :: rest, ⟨0, 9, 9⟩⟩, false) := rfl
  have hplain : plain false 0 .none (Settings.limitField ++ ':' :: ' ' :: rest) Mark.start =
      some (Settings.limitField, ⟨':' :: ' ' :: rest, ⟨0, 9, 9⟩⟩, false) := by
    rw [plain_word hword, hmark, hcolon]
    rfl
  exact hat.next_plain ⟨by decide, fun h => absurd h (by decide)⟩ hplain

/-- The colon behind the name opens a block. -/
theorem next_colon (rest : Text) :
    (atColon (' ' :: rest)).next ':' (' ' :: rest) = some (behindColon (' ' :: rest) 10) := by
  have hwidth : ':'.utf8Size = 1 := rfl
  simp [hwidth, Scan.next, Scan.valueMark, Scan.inFlow, startsDocumentMark, startsBlank, isGap, atColon, behindColon,
    Scan.key?, Scan.mark, Mark.start, Scan.emitAt, Scan.openBlock, Scan.setKey, Scan.allowKey, Scan.emitMark,
    Scan.emit, Cursor.right, Mark.past, Mark.right]

/-- **The tokens of a stream that is one entry**, the limit with its value. -/
theorem exists_run_limitField (style : Style) (hw : Word w) (htail : EndsStream tail) (steps : Nat) :
    ∃ first last, (Scan.start (Settings.limitField ++ ':' :: ' ' :: (style.write w ++ tail))).run (steps + 4) =
      some [⟨.blockMapping, Mark.start⟩, ⟨.key, Mark.start⟩, ⟨.scalar true Settings.limitField, Mark.start⟩,
        ⟨.value, ⟨0, 9, 9⟩⟩, ⟨.scalar style.isPlain w, first⟩, ⟨.blockEnd, last⟩, ⟨.streamEnd, last⟩] := by
  obtain ⟨rest, hrest⟩ : ∃ rest, rest = style.write w ++ tail := ⟨_, rfl⟩
  rw [← hrest]
  have hstart : (Scan.start (Settings.limitField ++ ':' :: ' ' :: rest)).toToken.dropStaleKeys =
      some (Scan.start (Settings.limitField ++ ':' :: ' ' :: rest)) := rfl
  have hcolon : (atColon (' ' :: rest)).toToken.dropStaleKeys = some (atColon (' ' :: rest)) := rfl
  have hblank : (behindColon (' ' :: rest) 10).toToken = behindColon rest 11 := by
    obtain ⟨c, more, hcons, hc⟩ := style.exists_write hw tail
    have hskip := Scan.skipSpace_of_begin hc false false more ⟨0, 11, 11⟩
    have hblank : Scan.skipSpace false false false (' ' :: c :: more) ⟨0, 10, 10⟩ = (false, ⟨c :: more, ⟨0, 11, 11⟩⟩) :=
      hskip ▸ rfl
    rw [hrest, hcons]
    change ({ behindColon (' ' :: c :: more) 10 with
      keyAllowed := (Scan.skipSpace false false false (' ' :: c :: more) ⟨0, 10, 10⟩).1
      cursor := (Scan.skipSpace false false false (' ' :: c :: more) ⟨0, 10, 10⟩).2 } : Scan) = _
    rw [hblank]
    rfl
  have hvalue : (behindColon rest 11).AtToken := ⟨rfl, (by decide : (0 : Int) < 11)⟩
  obtain ⟨last, hrun⟩ := hvalue.exists_run hblank (Or.inr ⟨rfl, rfl⟩) style hw htail hrest steps
  refine ⟨⟨0, 11, 11⟩, last, ?_⟩
  calc (Scan.start (Settings.limitField ++ ':' :: ' ' :: rest)).run (steps + 4)
      = ((Scan.start (Settings.limitField ++ ':' :: ' ' :: rest)).next 'm'
          ("ax_rules".toList ++ ':' :: ' ' :: rest)).bind (Scan.run (steps + 3)) :=
        Scan.run_cons hstart (by decide : (-1 : Int) ≤ 0) rfl _
    _ = (atColon (' ' :: rest)).run (steps + 3) := by rw [next_limitField, Option.bind_some]
    _ = ((atColon (' ' :: rest)).next ':' (' ' :: rest)).bind (Scan.run (steps + 2)) :=
        Scan.run_cons hcolon (by decide : (-1 : Int) ≤ 9) rfl _
    _ = (behindColon (' ' :: rest) 10).run (steps + 2) := by rw [next_colon, Option.bind_some]
    _ = _ := hrun

/-- The characters of a stream of words. -/
def isStreamChar (c : Char) : Bool := isWordChar c || c == '\'' || c == '"' || c == ':' || c == ' ' || c == '\n'

/-- A stream of words has no breaks to be unified. -/
theorem readable?_of_isStreamChar {t : Text} (h : ∀ c ∈ t, isStreamChar c = true) : readable? t = some t := by
  have hreadable : t.all isReadable = true := by
    refine List.all_eq_true.mpr fun c hc => ?_
    have hstream := h c hc
    simp only [isStreamChar, Bool.or_eq_true, beq_iff_eq] at hstream
    rcases hstream with ((((hword | rfl) | rfl) | rfl) | rfl) | rfl
    · exact isReadable_of_isWordChar hword
    all_goals rfl
  have hunify : unifyBreaks t = t := by
    clear hreadable
    induction t with
    | nil => rfl
    | cons c t ih =>
      rw [List.forall_mem_cons] at h
      have hreturn : c ≠ '\r' := by
        rintro rfl
        exact absurd h.1 (by decide)
      have hnext : c ≠ '\u0085' := by
        rintro rfl
        exact absurd h.1 (by decide)
      rw [unifyBreaks]
      · simp [hreturn, hnext, ih h.2]
      · simp [hreturn]
  rw [readable?, if_pos hreadable, hunify]

theorem isStreamChar_write (style : Style) (hw : Word w) (htail : EndsStream tail) :
    ∀ c ∈ style.write w ++ tail, isStreamChar c = true := by
  have hword : ∀ c ∈ w, isStreamChar c = true := fun c hc => by simp [isStreamChar, hw.chars c hc]
  have htail' : ∀ c ∈ tail, isStreamChar c = true := by
    rcases htail with rfl | rfl <;> exact List.all_eq_true.mp rfl
  refine List.forall_mem_append.mpr ⟨?_, htail'⟩
  cases style with
  | plain => exact hword
  | single => exact List.forall_mem_cons.mpr ⟨rfl, List.forall_mem_append.mpr ⟨hword, List.all_eq_true.mp rfl⟩⟩
  | double => exact List.forall_mem_cons.mpr ⟨rfl, List.forall_mem_append.mpr ⟨hword, List.all_eq_true.mp rfl⟩⟩

/-- **The document of a stream that is one scalar.** -/
theorem exists_document?_scalar (style : Style) (hw : Word w) (htail : EndsStream tail) :
    ∃ mark, document? (style.write w ++ tail) = some ⟨some (.scalar mark ⟨none, none⟩ style.isPlain w)⟩ := by
  obtain ⟨steps, hsteps⟩ : ∃ steps, (style.write w ++ tail).length = steps + 1 := by
    obtain ⟨c, rest, hcons, -⟩ := style.exists_write hw tail
    exact ⟨rest.length, by rw [hcons, List.length_cons]⟩
  obtain ⟨first, last, hrun⟩ := exists_run_scalar style hw htail steps
  refine ⟨first, ?_⟩
  rw [document?, tokens?, readable?_of_isStreamChar (isStreamChar_write style hw htail)]
  dsimp only [Option.bind_eq_bind, Option.bind_some]
  rw [hsteps, hrun]
  rfl

/-- **The document of a stream that is one entry**, the limit with its value. -/
theorem exists_document?_limitField (style : Style) (hw : Word w) (htail : EndsStream tail) :
    ∃ mark, document? (Settings.limitField ++ ':' :: ' ' :: (style.write w ++ tail)) =
      some ⟨some (.mapping Mark.start ⟨none, none⟩ [(.scalar Mark.start ⟨none, none⟩ true Settings.limitField,
        .scalar mark ⟨none, none⟩ style.isPlain w)])⟩ := by
  have hchars : ∀ c ∈ Settings.limitField ++ ':' :: ' ' :: (style.write w ++ tail), isStreamChar c = true :=
    List.forall_mem_append.mpr ⟨List.all_eq_true.mp rfl, List.forall_mem_cons.mpr ⟨rfl, List.forall_mem_cons.mpr
      ⟨rfl, isStreamChar_write style hw htail⟩⟩⟩
  obtain ⟨steps, hsteps⟩ :
      ∃ steps, (Settings.limitField ++ ':' :: ' ' :: (style.write w ++ tail)).length = steps + 3 := by
    have hname : Settings.limitField.length = 9 := rfl
    refine ⟨(style.write w ++ tail).length + 8, ?_⟩
    rw [List.length_append, hname, List.length_cons, List.length_cons]
    omega
  obtain ⟨first, last, hrun⟩ := exists_run_limitField style hw htail steps
  refine ⟨first, ?_⟩
  rw [document?, tokens?, readable?_of_isStreamChar hchars]
  dsimp only [Option.bind_eq_bind, Option.bind_some]
  rw [hsteps, hrun]
  rfl

end Streams

end RuleCap.Yaml
