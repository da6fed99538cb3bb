import RuleCap.Proofs.LineSeams

/-!
# Lines of a text in chunks

A text may be cut behind what ends a line, within a carriage return and its newline, or within a line. The first two
leave a closed text in front; where a line is left open, it goes on with the first line behind the cut
(`splitLines_append_of_open`). So a reader that keeps the lines so far and the last character needs no more of what it
has read: one chunk more takes it from a text to the text with the chunk behind it (`ChunkReader.read_ofText`), and any
chunks to the text that they make up (`ChunkReader.ofChunks_eq`).

Main statements: `splitLines_at_seam`, `ChunkReader.ofChunks_eq`.
-/

namespace RuleCap

/-! ## A cut within a line -/

/-- An unbroken text is the begin of the first line of what it stands in front of. -/
theorem Unbroken.splitLines_append {line b : Text} (hu : Unbroken line) (hb : b ≠ []) :
    ∃ first more, splitLines b = first :: more ∧ splitLines (line ++ b) = (line ++ first) :: more := by
  obtain hopen | ⟨first, term, rest, rfl, hfirst, hterm, hs⟩ := exists_first_line b
  · have hwhole : Unbroken (line ++ b) := unbroken_append.mpr ⟨hu, hopen⟩
    have hne : line ++ b ≠ [] := List.append_ne_nil_of_right_ne_nil line hb
    exact ⟨b, [], splitLines_of_unbroken hopen hb, splitLines_of_unbroken hwhole hne⟩
  · have hwhole : Unbroken (line ++ first) := unbroken_append.mpr ⟨hu, hfirst⟩
    refine ⟨first, splitLines rest, splitLines_append_of_terminator hterm hs hfirst, ?_⟩
    rw [← List.append_assoc, splitLines_append_of_terminator hterm hs hwhole]

/-- **A line that is left open** goes on with the first line of what is behind it. -/
theorem splitLines_append_of_open {a b : Text} (ha : ¬Closed a) (hb : b ≠ []) :
    ∃ front last first more, splitLines a = front ++ [last] ∧ splitLines b = first :: more ∧
      splitLines (a ++ b) = front ++ (last ++ first) :: more := by
  induction a using induction_on_lines with
  | unbroken line hu =>
    have hne : line ≠ [] := by
      rintro rfl
      exact ha closed_nil
    obtain ⟨first, more, hfirst, hwhole⟩ := hu.splitLines_append hb
    exact ⟨[], line, first, more, splitLines_of_unbroken hu hne, hfirst, hwhole⟩
  | ended line term rest hu hterm hseam ih =>
    -- what is left open lies in the rest, so the rest has a first character and the terminator stays what it is
    have hrest : ¬Closed rest := fun h => ha (h.behind hterm)
    have hb' : term = ['\r'] → (rest ++ b).head? ≠ some '\n' := by
      cases rest with
      | nil => exact absurd closed_nil hrest
      | cons c rest => exact hseam
    obtain ⟨front, last, first, more, hlines, hfirst, hwhole⟩ := ih hrest
    refine ⟨line :: front, last, first, more, ?_, hfirst, ?_⟩
    · rw [splitLines_append_of_terminator hterm hseam hu, hlines]
      rfl
    · rw [List.append_assoc, List.append_assoc, splitLines_append_of_terminator hterm hb' hu, hwhole]
      rfl

/-! ## The three cuts -/

/-- **Lines can be found in chunks.** Cut behind what ends a line, a text has the lines of its two parts. A newline that
is cut off its carriage return ends no line of its own. Cut within a line, a text has the lines of its two parts, but the
last one in front and the first one behind are one. -/
theorem splitLines_at_seam (a b : Text) :
    (Closed a → ¬(a.getLast? = some '\r' ∧ b.head? = some '\n') → splitLines (a ++ b) = splitLines a ++ splitLines b) ∧
      (∀ rest, a.getLast? = some '\r' → b = '\n' :: rest → splitLines (a ++ b) = splitLines a ++ splitLines rest) ∧
      (¬Closed a → b ≠ [] → ∃ front last first more, splitLines a = front ++ [last] ∧ splitLines b = first :: more ∧
        splitLines (a ++ b) = front ++ (last ++ first) :: more) := by
  refine ⟨fun ha hs => ?_, fun rest ha hb => ?_, splitLines_append_of_open⟩
  · exact splitLines_append ha fun hr hn => hs ⟨hr, hn⟩
  · rw [hb, splitLines_append_of_parted ha]

/-- Three cuts: behind a line, between a carriage return and its newline, and within a line. -/
theorem splitLines_at_three_seams :
    (Closed "a\n".toList ∧ ¬("a\n".toList.getLast? = some '\r' ∧ "b\r".toList.head? = some '\n') ∧
        splitLines ("a\n".toList ++ "b\r".toList) = [['a'], ['b']]) ∧
      ("b\r".toList.getLast? = some '\r' ∧ "\nc".toList = '\n' :: ['c'] ∧
        splitLines ("b\r".toList ++ "\nc".toList) = [['b'], ['c']]) ∧
      (¬Closed "\nc".toList ∧ "d\u2028e".toList ≠ [] ∧
        splitLines ("\nc".toList ++ "d\u2028e".toList) = [[], ['c', 'd'], ['e']]) := by
  have hclosed : Closed "a\n".toList := by decide
  have hseam : ¬("a\n".toList.getLast? = some '\r' ∧ "b\r".toList.head? = some '\n') := by decide
  have hreturn : "b\r".toList.getLast? = some '\r' := by decide
  have hparted : "\nc".toList = '\n' :: ['c'] := rfl
  have hopen : ¬Closed "\nc".toList := by decide
  have hne : "d\u2028e".toList ≠ [] := by decide
  refine ⟨⟨hclosed, hseam, ?_⟩, ⟨hreturn, hparted, ?_⟩, hopen, hne, ?_⟩
  · rw [(splitLines_at_seam _ _).1 hclosed hseam]
    decide
  · rw [(splitLines_at_seam _ _).2.1 _ hreturn hparted]
    decide
  · obtain ⟨front, last, first, more, hfront, hbehind, hwhole⟩ := (splitLines_at_seam _ _).2.2 hopen hne
    have hlines : splitLines "\nc".toList = [[]] ++ [['c']] := by decide
    have hlines' : splitLines "d\u2028e".toList = ['d'] :: [['e']] := by decide
    obtain ⟨rfl, rfl⟩ := List.append_singleton_inj.mp (hfront.symm.trans hlines)
    obtain ⟨rfl, rfl⟩ := List.cons.inj (hbehind.symm.trans hlines')
    exact hwhole

/-! ## Chunk by chunk -/

/-- Lines of which the last is left open, and the lines behind the cut: the last one in front and the first one behind
are one. -/
def joinOpen (front behind : List Text) : List Text :=
  match front.getLast?, behind with
  | some last, first :: more => front.dropLast ++ (last ++ first) :: more
  | _, _ => front ++ behind

theorem joinOpen_nil (front : List Text) : joinOpen front [] = front := by
  unfold joinOpen
  split
  · contradiction
  · exact List.append_nil front

theorem joinOpen_append_cons (front more : List Text) (last first : Text) :
    joinOpen (front ++ [last]) (first :: more) = front ++ (last ++ first) :: more := by
  simp [joinOpen]

/-- The lines that a reader has found so far, and the last character that it has read. -/
structure ChunkReader where
  lines : List Text
  last : Option Char
deriving DecidableEq

namespace ChunkReader

/-- One chunk more. -/
def read (r : ChunkReader) (chunk : Text) : ChunkReader where
  lines :=
    if r.last = some '\r' ∧ chunk.head? = some '\n' then r.lines ++ splitLines chunk.tail
    else if r.last.all isBreak then r.lines ++ splitLines chunk
    else joinOpen r.lines (splitLines chunk)
  last := chunk.getLast?.or r.last

/-- A reader that has read a text as one chunk. -/
def ofText (t : Text) : ChunkReader := ⟨splitLines t, t.getLast?⟩

/-- A reader that has read chunks one after the other. -/
def ofChunks (chunks : List Text) : ChunkReader := chunks.foldl read ⟨[], none⟩

/-- **One chunk more** takes a reader of a text to a reader of the text with the chunk behind it. -/
theorem read_ofText (a b : Text) : (ofText a).read b = ofText (a ++ b) := by
  have hlast : b.getLast?.or a.getLast? = (a ++ b).getLast? := List.getLast?_append.symm
  have hlines : ((ofText a).read b).lines = splitLines (a ++ b) := by
    by_cases hparted : a.getLast? = some '\r' ∧ b.head? = some '\n'
    · obtain ⟨rest, rfl⟩ := List.head?_eq_some_iff.mp hparted.2
      rw [splitLines_append_of_parted hparted.1]
      exact if_pos hparted
    · by_cases hclosed : Closed a
      · rw [splitLines_append hclosed fun hr hn => hparted ⟨hr, hn⟩]
        exact (if_neg hparted).trans (if_pos (closed_iff.mp hclosed))
      · have hread : ((ofText a).read b).lines = joinOpen (splitLines a) (splitLines b) :=
          (if_neg hparted).trans (if_neg fun h => hclosed (closed_iff.mpr h))
        by_cases hb : b = []
        · subst hb
          rw [hread, List.append_nil]
          exact joinOpen_nil _
        · obtain ⟨front, last, first, more, hfront, hbehind, hwhole⟩ := splitLines_append_of_open hclosed hb
          rw [hread, hfront, hbehind, hwhole, joinOpen_append_cons]
  calc (ofText a).read b = ⟨((ofText a).read b).lines, b.getLast?.or a.getLast?⟩ := rfl
    _ = ofText (a ++ b) := by rw [hlines, hlast]; rfl

theorem foldl_read (a : Text) (chunks : List Text) : chunks.foldl read (ofText a) = ofText (a ++ chunks.flatten) := by
  induction chunks generalizing a with
  | nil => rw [List.flatten_nil, List.append_nil, List.foldl_nil]
  | cons chunk chunks ih => rw [List.foldl_cons, read_ofText, ih, List.flatten_cons, List.append_assoc]

/-- **A text may come in any chunks**: the lines found are those of the whole text. -/
theorem ofChunks_eq (chunks : List Text) : ofChunks chunks = ofText chunks.flatten :=
  foldl_read [] chunks

example : (ofChunks ["a\r".toList, [], "\nb".toList, "c\n".toList]).lines = [['a'], ['b', 'c']] := by decide

end ChunkReader

end RuleCap
