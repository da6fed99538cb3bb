import RuleCap.Pattern.Fault
import RuleCap.Text.Blank

/-!
# Reading a pattern

A `Cursor` is the rest of a pattern with the place where it begins. In a loose pattern white space stands for nothing,
and so does a comment from a `#` to the end of its line; `skip` passes over both, and `step` over a character and what
stands for nothing behind it. `collect` takes characters that satisfy a test, and its recursion ends because every step
makes the rest shorter (`step_length`).
-/

namespace RuleCap.Pattern

/-- The rest of a pattern, where it begins, and whether the pattern is loose. -/
structure Cursor where
  rest : Text
  spot : Spot
  loose : Bool
deriving DecidableEq, Repr

/-- Passes over white space and comments; the flag tells whether a comment has begun. -/
def skipFrom : Bool → Text → Spot → Text × Spot
  | _, [], s => ([], s)
  | true, d :: rest, s => skipFrom (d != '\n') rest (s.after d)
  | false, d :: rest, s =>
    if isSpace d then skipFrom false rest (s.after d)
    else if d = '#' then skipFrom true rest (s.after d)
    else (d :: rest, s)

theorem skipFrom_length : ∀ (inComment : Bool) (t : Text) (s : Spot), (skipFrom inComment t s).1.length ≤ t.length
  | _, [], _ => by simp [skipFrom]
  | true, d :: rest, s => by
    have := skipFrom_length (d != '\n') rest (s.after d)
    simp only [skipFrom, List.length_cons]
    omega
  | false, d :: rest, s => by
    have h1 := skipFrom_length false rest (s.after d)
    have h2 := skipFrom_length true rest (s.after d)
    simp only [skipFrom, List.length_cons]
    split
    · omega
    · split
      · omega
      · simp

namespace Cursor

/-- The cursor at the begin of a pattern. -/
def start (pattern : Text) : Cursor := ⟨pattern, Spot.start, false⟩

/-- The cursor after one character. -/
def next (c : Cursor) : Cursor :=
  match c.rest with
  | [] => c
  | d :: rest => { c with rest, spot := c.spot.after d }

/-- The cursor after what stands for nothing. -/
def skip (c : Cursor) : Cursor :=
  if c.loose then
    let (rest, spot) := skipFrom false c.rest c.spot
    { c with rest, spot }
  else c

/-- The cursor after one character and what stands for nothing behind it. -/
def step (c : Cursor) : Cursor := c.next.skip

theorem skip_length (c : Cursor) : c.skip.rest.length ≤ c.rest.length := by
  unfold skip
  split
  · exact skipFrom_length false c.rest c.spot
  · exact Nat.le_refl _

theorem step_length {c : Cursor} {d : Char} {rest : Text} (h : c.rest = d :: rest) :
    c.step.rest.length < c.rest.length := by
  have h1 := skip_length c.next
  have h2 : c.next.rest = rest := by simp [next, h]
  simp only [step, h, List.length_cons]
  rw [h2] at h1
  omega

/-- Whether the pattern is at its end. -/
def atEnd (c : Cursor) : Bool := c.rest.isEmpty

/-- The character at the cursor. -/
def char? (c : Cursor) : Option Char := c.rest.head?

/-- Nothing, at the cursor. -/
def here (c : Cursor) : Span := ⟨c.spot, c.spot⟩

/-- The character at the cursor, as a span. -/
def one (c : Cursor) : Span := ⟨c.spot, c.next.spot⟩

/-- What has been read since a place. -/
def since (c : Cursor) (first : Spot) : Span := ⟨first, c.spot⟩

/-- The character behind the one at the cursor. -/
def second? (c : Cursor) : Option Char := c.next.rest.head?

/-- The character behind the one at the cursor and behind what stands for nothing there; of a comment only its mark is
passed over, and if there is no such character it is the one next to that at the cursor. -/
def following? (c : Cursor) : Option Char :=
  if c.loose then
    let found := match c.next.rest.dropWhile isSpace with
      | '#' :: rest => (rest.dropWhile isSpace).head?
      | rest => rest.head?
    found.or c.second?
  else c.second?

/-- The cursor after a word, if it stands there. -/
def after? (c : Cursor) (word : Text) : Option Cursor :=
  if word.isPrefixOf c.rest then some (word.foldl (fun c _ => c.next) c) else none

/-- The characters from the cursor on that satisfy a test, and the cursor after them. -/
def collect (p : Char → Bool) (c : Cursor) : Text × Cursor :=
  match _h : c.rest with
  | [] => ([], c)
  | d :: _ =>
    if p d then
      let (more, c) := collect p c.step
      (d :: more, c)
    else ([], c)
termination_by c.rest.length
decreasing_by exact step_length ‹_›

end Cursor

end RuleCap.Pattern
