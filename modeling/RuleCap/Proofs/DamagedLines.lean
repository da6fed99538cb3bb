import RuleCap.Proofs.Jobs
import RuleCap.Proofs.LineSeams
import RuleCap.Proofs.LossyDecoding
import RuleCap.Shelf

/-!
# Damage stays within its line

A byte that is a character of its own closes whatever character is open and is read as it is, since an open character
takes no byte below 0x80 (`Late`). So bytes with such a byte among them are read part by part
(`decodeFrom_append_single`), and where that byte is a newline, so are their lines: the lines of a file are those of its
delimited pieces one after the other (`linesIn_delimited_append`), whatever the pieces hold.

Main statement: `damage_stays_within_line`.
-/

namespace RuleCap

namespace Utf8

variable {state : Option Begun} {n : Nat}

/-- The byte of a newline. -/
def newline : UInt8 := 0x0A

/-- No byte that is a character of its own goes on with what is open. -/
def Late (state : Option Begun) : Prop :=
  ∀ p ∈ state, 0x80 ≤ p.low

theorem late_first (n : Nat) : Late (first n).2 := by
  unfold first
  repeat' split
  all_goals simp [Late]

/-- What a byte leaves open is as before. -/
theorem late_step (state : Option Begun) (b : UInt8) : Late (step state b).2 := by
  cases state with
  | none => exact late_first b.toNat
  | some p =>
    by_cases htaken : p.low ≤ b.toNat ∧ b.toNat ≤ p.high
    · rw [step, if_pos htaken]
      cases p.owed with
      | zero =>
        intro q hq
        cases hq
      | succ owed =>
        intro q hq
        obtain rfl : _ = q := Option.some.inj hq
        exact Nat.le_refl 0x80
    · rw [step, if_neg htaken]
      exact late_first b.toNat

/-- **A byte that is a character of its own** closes what is open, and leaves nothing open. -/
theorem step_single (hstate : Late state) (hn : n < 0x80) :
    step state (byte n) = (decodeFrom state [] ++ [Char.ofNat n], none) := by
  have hbyte : (byte n).toNat = n := toNat_byte (by omega)
  have hfirst : first n = ([Char.ofNat n], none) := if_pos hn
  cases state with
  | none => rw [step, hbyte, hfirst]; rfl
  | some p =>
    have hlow : 0x80 ≤ p.low := hstate p rfl
    have hrefused : ¬(p.low ≤ (byte n).toNat ∧ (byte n).toNat ≤ p.high) := by omega
    rw [step, if_neg hrefused, hbyte, hfirst]
    rfl

/-- **Bytes are read part by part** where a byte between them is a character of its own. -/
theorem decodeFrom_append_single (hstate : Late state) (hn : n < 0x80) (a b : Bytes) :
    decodeFrom state (a ++ byte n :: b) = decodeFrom state a ++ Char.ofNat n :: decodeFrom none b := by
  induction a generalizing state with
  | nil => rw [List.nil_append, decodeFrom_cons, step_single hstate hn, List.append_assoc, List.singleton_append]
  | cons x a ih => rw [List.cons_append, decodeFrom_cons, decodeFrom_cons, ih (late_step state x), List.append_assoc]

theorem decode_append_newline (a b : Bytes) : decode (a ++ newline :: b) = decode a ++ '\n' :: decode b := by
  have hnone : Late none := nofun
  exact decodeFrom_append_single hnone (by decide) a b

end Utf8

open Utf8 (newline)

/-- The lines of a file with the given bytes. -/
def linesIn (bytes : Bytes) : List Text := splitLines (Utf8.decode bytes)

/-- Pieces of a file, a newline behind each. -/
def delimited (pieces : List Bytes) : Bytes := pieces.flatMap (· ++ [newline])

/-- **The lines before a newline and those behind it** do not depend on each other. -/
theorem linesIn_append_newline (a b : Bytes) : linesIn (a ++ newline :: b) = linesIn (a ++ [newline]) ++ linesIn b := by
  have hfirst : Utf8.decode (a ++ [newline]) = Utf8.decode a ++ ['\n'] := Utf8.decode_append_newline a []
  have hclosed : Closed (Utf8.decode a ++ ['\n']) := by
    intro c hc
    obtain rfl : '\n' = c := by simpa using hc
    decide
  unfold linesIn
  rw [Utf8.decode_append_newline, hfirst, ← splitLines_append hclosed (by simp), List.append_assoc]
  rfl

theorem delimited_cons (piece : Bytes) (pieces : List Bytes) :
    delimited (piece :: pieces) = piece ++ newline :: delimited pieces := by
  rw [delimited, List.flatMap_cons, List.append_assoc, List.singleton_append, ← delimited]

/-- **The lines of delimited pieces** do not depend on what is behind them. -/
theorem linesIn_delimited_append (pieces : List Bytes) (rest : Bytes) :
    linesIn (delimited pieces ++ rest) = linesIn (delimited pieces) ++ linesIn rest := by
  induction pieces with
  | nil => rfl
  | cons piece pieces ih =>
    rw [delimited_cons, List.append_assoc, List.cons_append, linesIn_append_newline piece (delimited pieces ++ rest), ih,
      linesIn_append_newline piece (delimited pieces), List.append_assoc]

/-- The lines of a piece among others. -/
theorem linesIn_delimited_middle (front : List Bytes) (piece : Bytes) (back : List Bytes) (last : Bytes) :
    linesIn (delimited (front ++ piece :: back) ++ last) =
      linesIn (delimited front) ++ (linesIn (piece ++ [newline]) ++ linesIn (delimited back ++ last)) := by
  have hpieces : delimited (front ++ piece :: back) = delimited front ++ delimited (piece :: back) :=
    List.flatMap_append
  rw [hpieces, List.append_assoc, linesIn_delimited_append, delimited_cons, List.append_assoc, List.cons_append,
    linesIn_append_newline]

/-- A piece without a break of its own is one line, whatever is wrong with its bytes. -/
theorem linesIn_of_unbroken {piece : Bytes} (h : Unbroken (Utf8.decode piece)) :
    linesIn (piece ++ [newline]) = [Utf8.decode piece] := by
  rw [linesIn, Utf8.decode_append_newline]
  exact splitLines_append_newline h []

/-- **Damage stays within its line.** A list whose bytes can be had is read, whatever they are, as the one text that
they stand for, and as the very text that they write if they do. The lines before a newline and those behind it are
those of the bytes before it, with it, and of the bytes behind it; so in the place of a piece, or of what is behind the
last newline, there may be any other: the lines before it and behind it stay as they are. A piece without a break of its
own stays one line. -/
theorem damage_stays_within_line {σ : Type} [Storage σ] {s : σ} {path : Path} {bytes : Bytes}
    (hread : Storage.read s path = .ok bytes) :
    ∃ text, (readList path).exec s = (s, .ok text) ∧
      (∀ t, Utf8.Lossy bytes t ↔ t = text) ∧
      (∀ t, bytes = Utf8.encode t → text = t) ∧
      (∀ a b, bytes = a ++ newline :: b → splitLines text = linesIn (a ++ [newline]) ++ linesIn b) ∧
      (∀ front piece back last, bytes = delimited (front ++ piece :: back) ++ last →
        splitLines text =
            linesIn (delimited front) ++ (linesIn (piece ++ [newline]) ++ linesIn (delimited back ++ last)) ∧
          (Unbroken (Utf8.decode piece) → linesIn (piece ++ [newline]) = [Utf8.decode piece])) ∧
      ∀ front last, bytes = delimited front ++ last → splitLines text = linesIn (delimited front) ++ linesIn last := by
  refine ⟨Utf8.decode bytes, by rw [exec_readList, hread], fun t => Utf8.lossy_iff, ?_, ?_, ?_, ?_⟩
  · rintro t rfl
    exact Utf8.decode_encode t
  · rintro a b rfl
    exact linesIn_append_newline a b
  · rintro front piece back last rfl
    exact ⟨linesIn_delimited_middle front piece back last, linesIn_of_unbroken⟩
  · rintro front last rfl
    exact linesIn_delimited_append front last

/-- A line of which only the begin of a character is left is one line, with one mark. -/
theorem truncated_character_is_one_line :
    let path : Path := [0x6C]
    let bytes : Bytes := [0x61, 0x0A, 0xE2, 0x82, 0x0A, 0x62]
    let s := Shelf.empty.insert path bytes
    Storage.read s path = .ok bytes ∧
      ∃ text, (readList path).exec s = (s, .ok text) ∧ splitLines text = [['a'], [Utf8.replacement], ['b']] := by
  intro path bytes s
  have hread : Storage.read s path = .ok bytes := rfl
  obtain ⟨text, hexec, -, -, -, hmiddle, -⟩ := damage_stays_within_line hread
  obtain ⟨hlines, hone⟩ := hmiddle [[0x61]] [0xE2, 0x82] [] [0x62] rfl
  refine ⟨hread, text, hexec, ?_⟩
  rw [hlines, hone (by decide)]
  decide

end RuleCap
