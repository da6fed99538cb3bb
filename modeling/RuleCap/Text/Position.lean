import RuleCap.Text.Line
import RuleCap.Text.Utf8

/-!
# Positions in a text

A position is a number of bytes. A text can be cut at a position (`cutAt?`) only if some front part of it takes that
many bytes: not behind its end, and not inside a character (`cutAt?_eq_some_iff`). `linesByPosition?` finds the lines
of a text by positions: it looks for the first break, cuts there, and goes on behind it, as many bytes further as the
break takes. Nothing comes out if the text can not be cut at one of these positions. It ends since every break takes a
byte at least.
-/

namespace RuleCap

namespace Utf8

/-- The number of bytes that a character takes. -/
def charSize (c : Char) : Nat := (encodeChar c).length

theorem charSize_pos (c : Char) : 0 < charSize c := by
  unfold charSize encodeChar
  dsimp only
  repeat' split
  all_goals exact Nat.succ_pos _

@[simp]
theorem size_nil : size [] = 0 := rfl

@[simp]
theorem size_cons (c : Char) (t : Text) : size (c :: t) = charSize c + size t := by
  simp [size, encode, charSize]

@[simp]
theorem size_append (a b : Text) : size (a ++ b) = size a + size b := by
  simp [size, encode]

@[simp]
theorem size_eq_zero_iff {t : Text} : size t = 0 ↔ t = [] := by
  cases t with
  | nil => simp
  | cons c t => simp [Nat.ne_of_gt (charSize_pos c)]

/-- The two parts of a text at a position, if it can be cut there. -/
def cutAt? : Text → Nat → Option (Text × Text)
  | t, 0 => some ([], t)
  | [], _ + 1 => none
  | c :: rest, n + 1 =>
    if charSize c ≤ n + 1 then (cutAt? rest (n + 1 - charSize c)).map fun parts => (c :: parts.1, parts.2)
    else none

/-- **Where a text can be cut**: behind a front part that takes as many bytes. -/
theorem cutAt?_eq_some_iff {t front back : Text} {n : Nat} :
    cutAt? t n = some (front, back) ↔ front ++ back = t ∧ size front = n := by
  fun_induction cutAt? t n generalizing front with
  | case1 t =>
    rw [size_eq_zero_iff, Option.some.injEq, Prod.mk.injEq]
    constructor
    · rintro ⟨rfl, rfl⟩
      exact ⟨rfl, rfl⟩
    · rintro ⟨rfl, rfl⟩
      exact ⟨rfl, rfl⟩
  | case2 n =>
    refine iff_of_false nofun ?_
    rintro ⟨h, hn⟩
    rw [(List.append_eq_nil_iff.mp h).1] at hn
    cases hn
  | case3 c rest n h ih =>
    -- the front part begins with `c`, and what is behind it is cut further on
    cases front with
    | nil => simp
    | cons d front =>
      have hsize : charSize c + size front = n + 1 ↔ size front = n + 1 - charSize c := by omega
      simp only [Option.map_eq_some_iff, Prod.exists, Prod.mk.injEq, List.cons.injEq, List.cons_append, size_cons]
      constructor
      · rintro ⟨front, back, hcut, ⟨rfl, rfl⟩, rfl⟩
        obtain ⟨rfl, hn⟩ := ih.mp hcut
        exact ⟨⟨rfl, rfl⟩, hsize.mpr hn⟩
      · rintro ⟨⟨rfl, rfl⟩, hn⟩
        exact ⟨front, back, ih.mpr ⟨rfl, hsize.mp hn⟩, ⟨rfl, rfl⟩, rfl⟩
  | case4 c rest n h =>
    refine iff_of_false nofun ?_
    rintro ⟨ht, hn⟩
    cases front with
    | nil => cases hn
    | cons d front =>
      obtain ⟨rfl, -⟩ := List.cons.inj ht
      rw [size_cons] at hn
      omega

/-- What is behind a position other than the first is shorter than the text. -/
theorem length_lt_of_cutAt? {t front back : Text} {n : Nat} (hn : 0 < n) (h : cutAt? t n = some (front, back)) :
    back.length < t.length := by
  obtain ⟨rfl, rfl⟩ := cutAt?_eq_some_iff.mp h
  have hfront : front ≠ [] := fun hf => Nat.ne_of_gt hn (size_eq_zero_iff.mpr hf)
  rw [List.length_append]
  have := List.length_pos_iff.mpr hfront
  omega

end Utf8

/-! ## Lines -/

/-- The position of the first break of a text, and the break. -/
def findBreak? : Text → Option (Nat × Char)
  | [] => none
  | c :: rest => if isBreak c then some (0, c) else (findBreak? rest).map fun found => (Utf8.charSize c + found.1, found.2)

/-- The number of bytes that end a line, where a break and what is behind it begin a text: two for a carriage return
with a newline, and otherwise those of the break. -/
def terminatorSize (c : Char) (tail : Text) : Nat :=
  if ['\r', '\n'].isPrefixOf tail then 2 else Utf8.charSize c

theorem terminatorSize_pos (c : Char) (tail : Text) : 0 < terminatorSize c tail := by
  unfold terminatorSize
  split
  · exact Nat.two_pos
  · exact Utf8.charSize_pos c

/-- **The lines of a text by positions**, if the text can be cut at all of them. -/
def linesByPosition? (t : Text) : Option (List Text) :=
  if t.isEmpty then some []
  else
    match findBreak? t with
    | none => some [t]
    | some (n, c) =>
      match Utf8.cutAt? t n with
      | none => none
      | some (line, tail) =>
        match _h : Utf8.cutAt? t (n + terminatorSize c tail) with
        | none => none
        | some (_, rest) => (linesByPosition? rest).map (line :: ·)
termination_by t.length
decreasing_by exact Utf8.length_lt_of_cutAt? (Nat.add_pos_right n (terminatorSize_pos c tail)) _h

end RuleCap
