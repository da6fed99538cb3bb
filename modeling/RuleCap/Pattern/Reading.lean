import RuleCap.Pattern.Class
import RuleCap.Text.Letters

/-!
# Reading a whole pattern

`Tree.ofText?` reads a pattern from left to right. What is between two parentheses is a `Level`: the parts since the last
bar, and the branches before it. A parenthesis that opens puts the level around it on a stack, and the one that closes
takes it from there.
-/

namespace RuleCap.Pattern

/-! ## Flags -/

/-- The letters of flags. -/
def flagLetters : List Char := ['i', 'm', 's', 'U', 'u', 'R', 'x']

/-- Flags and the dash among them, each with its span, up to a colon or a parenthesis. -/
def flagItems : Text → Spot → List (Char × Span) → Except Fault (List (Char × Span))
  | [], spot, _ => fault .flagsUnfinished ⟨spot, spot⟩
  | d :: rest, spot, items =>
    let span : Span := ⟨spot, spot.after d⟩
    if d = ':' ∨ d = ')' then .ok items
    else if d ≠ '-' ∧ !flagLetters.contains d then fault .flagUnknown span
    else
      match items.lookup d with
      | some earlier => .error ⟨if d = '-' then .flagNegationTwice else .flagTwice, span, some earlier⟩
      | none => flagItems rest (spot.after d) (items ++ [(d, span)])

/-- What some flags say of one of them: that it is set, or that it is not if it stands behind a dash. -/
def flagState (letters : List Char) (letter : Char) : Option Bool :=
  if letters.contains letter then some ((letters.takeWhile (· ≠ letter)).all (· ≠ '-')) else none

/-- The change that some flags make. -/
def FlagChange.ofLetters (letters : List Char) : FlagChange :=
  let state := flagState letters
  ⟨state 'i', state 'm', state 's', state 'u', state 'R', state 'x'⟩

/-- Flags up to a colon or a parenthesis, as a change and the number of their letters. -/
def readFlags (c : Cursor) : Except Fault ((FlagChange × Nat) × Cursor) := do
  let items ← flagItems c.rest c.spot []
  match items.getLast? with
  | some ('-', span) => fault .flagNegationDangling span
  | _ => return ((.ofLetters (items.map (·.1)), items.length), items.foldl (fun c _ => c.next) c)

/-! ## Names -/

/-- Whether a character may stand in the name of a group, as its first or behind it. -/
def isNameChar (isFirst : Bool) (c : Char) : Bool :=
  c == '_' || isLetter c || (!isFirst && (c == '.' || c == '[' || c == ']' || isNumeral c))

/-- The end of a name, up to the angle that closes it. -/
def nameEnd : Bool → Cursor → Text → Except Fault (Text × Cursor)
  | _, c, [] => fault .nameUnclosed c.here
  | isFirst, c, d :: rest =>
    if d = '>' then .ok ([], c)
    else if !isNameChar isFirst d then fault .nameCharacter c.one
    else do
      let (name, last) ← nameEnd false c.next rest
      return (d :: name, last)

/-- The names of groups, with their spans. -/
abbrev Names := List (Text × Span)

/-- The name of a group, which must be new, behind the angle that opens it. -/
def readName (names : Names) (c : Cursor) : Except Fault (Names × Cursor) := do
  let (name, last) ← nameEnd true c c.rest
  let span := last.since c.spot
  if name.isEmpty then fault .nameEmpty span
  else
    match names.lookup name with
    | some earlier => .error ⟨.nameTwice, span, some earlier⟩
    | none => return ((name, span) :: names, last.next)

/-! ## Levels -/

/-- What is between two parentheses as far as it is read: the parts since the last bar and the branches before it, each
with the last in front, and where they begin. -/
structure Level where
  first : Spot
  parts : List Tree
  branchesFirst : Spot
  branches : List Tree

namespace Level

/-- Nothing read, at a place. -/
def start (spot : Spot) : Level := ⟨spot, [], spot, []⟩

/-- A level with one more part. -/
def push (l : Level) (part : Tree) : Level := { l with parts := part :: l.parts }

/-- The parts since the last bar, as one pattern. -/
def branch (l : Level) (last : Spot) : Tree :=
  match l.parts with
  | [] => .empty ⟨l.first, last⟩
  | [part] => part
  | part :: parts => .concat ⟨l.first, last⟩ (parts.foldl (fun rest part => .sequence part rest) part)

/-- A level with a bar, and the place behind it. -/
def bar (l : Level) (last behind : Spot) : Level := ⟨behind, [], l.branchesFirst, l.branch last :: l.branches⟩

/-- All of a level as one pattern. -/
def close (l : Level) (last : Spot) : Tree :=
  match l.branches with
  | [] => l.branch last
  | branches =>
    .alternation ⟨l.branchesFirst, last⟩ (branches.foldl (fun rest branch => .either branch rest) (l.branch last))

end Level

/-- A group that has been opened: the span of its parenthesis, its flags if it is not captured, the level around it, and
whether the pattern is loose there. -/
structure OpenGroup where
  opening : Span
  change : Option FlagChange
  outer : Level
  loose : Bool

/-- The state of a reading. -/
structure State where
  stack : List OpenGroup
  level : Level
  names : Names

/-! ## Groups -/

/-- The signs of groups that look around. -/
def lookAroundSigns : List Text := [['?', '='], ['?', '!'], ['?', '<', '='], ['?', '<', '!']]

/-- Opens a group; the pattern inside it begins at the cursor. -/
def State.openGroup (s : State) (opening : Span) (change : Option FlagChange) (names : Names) (c : Cursor) :
    State × Cursor :=
  let loose := (change.bind (·.loose)).getD c.loose
  (⟨⟨opening, change, s.level, c.loose⟩ :: s.stack, Level.start c.spot, names⟩, { c with loose })

/-- A parenthesis that opens: a group, or flags for what comes behind them. -/
def State.opens (s : State) (c : Cursor) : Except Fault (State × Cursor) := do
  let opening := c.one
  let inside := c.step
  match lookAroundSigns.findSome? inside.after? with
  | some last => fault .lookAround (last.since opening.first)
  | none =>
    match (inside.after? ['?', 'P', '<']).or (inside.after? ['?', '<']), inside.after? ['?'] with
    | some name, _ =>
      let (names, last) ← readName s.names name
      return s.openGroup opening none names last
    | none, some flags =>
      if flags.atEnd then fault .groupUnclosed opening
      else
        let ((change, count), last) ← readFlags flags
        if last.char? = some ')' then
          if count = 0 then fault .operandMissing inside.here
          else
            let last := last.next
            let part := Tree.flags (last.since opening.first) change
            return ({ s with level := s.level.push part }, { last with loose := change.loose.getD last.loose })
        else return s.openGroup opening (some change) s.names last.next
    | none, none => return s.openGroup opening none s.names inside

/-- A parenthesis that closes. -/
def State.closes (s : State) (c : Cursor) : Except Fault (State × Cursor) :=
  match s.stack with
  | [] => fault .groupUnopened c.one
  | group :: stack =>
    let last := { c.next with loose := group.loose }
    let span := last.since group.opening.first
    let inner := s.level.close c.spot
    let part := match group.change with
      | some change => Tree.group span change inner
      | none => Tree.capture span inner
    .ok (⟨stack, group.outer.push part, s.names⟩, last)

/-! ## Repetitions -/

/-- The part that a repetition is of, and the level without it. -/
def State.operand (s : State) (c : Cursor) : Except Fault (Tree × Level) :=
  match s.level.parts with
  | [] => fault .operandMissing c.here
  | part :: parts => if part.isFlags then fault .operandMissing c.here else .ok (part, { s.level with parts })

/-- A level with a part repeated. -/
def Level.pushRepetition (l : Level) (part : Tree) (least : Nat) (most : Option Nat) (last : Spot) : Level :=
  l.push (.repetition ⟨part.span.first, last⟩ part least most)

/-- The cursor after the question mark that may stand behind a repetition. -/
def skipPreference (c : Cursor) : Cursor := if c.char? = some '?' then c.next else c

/-- A repetition by a sign. -/
def State.repeats (s : State) (least : Nat) (most : Option Nat) (c : Cursor) : Except Fault (State × Cursor) := do
  let (part, level) ← s.operand c
  let last := skipPreference c.next
  return ({ s with level := level.pushRepetition part least most last.spot }, last)

/-- The greatest number of repetitions that can be written. -/
def greatestCount : Nat := Nat.pow 2 32 - 1

/-- The cursor after white space, where it stands for nothing in any pattern. -/
def Cursor.skipWhite (c : Cursor) : Cursor :=
  (c.rest.takeWhile isSpace).foldl (fun c _ => c.next) c

/-- A decimal number between white space; or what is wrong with it, which is told later. -/
def readCount (c : Cursor) : Except Fault Nat × Cursor :=
  let first := c.skipWhite
  let (digits, last) := first.collect Char.isDigit
  let span := last.since first.spot
  let n := digits.foldl (fun n d => n * 10 + (d.toNat - '0'.toNat)) 0
  let answer :=
    if digits.isEmpty then fault .countEmpty span
    else if greatestCount < n then fault .decimalTooLarge span
    else .ok n
  (answer, last.skipWhite)

/-- A repetition by numbers between braces. -/
def State.counts (s : State) (c : Cursor) : Except Fault (State × Cursor) := do
  let (part, level) ← s.operand c
  let inside := c.step
  if inside.atEnd then fault .countUnclosed (inside.since c.spot)
  else
    let (least, last) := readCount inside
    if last.atEnd then fault .countUnclosed (last.since c.spot)
    else
      let ((least, most), last) ←
        if last.char? = some ',' then
          let behind := last.step
          if behind.atEnd then fault .countUnclosed (behind.since c.spot)
          else if behind.char? = some '\x7D' then do
            let least ← least
            .ok ((least, none), behind)
          else do
            let least ← least
            let (most, last) := readCount behind
            let most ← most
            .ok ((least, some most), last)
        else do
          let least ← least
          .ok ((least, some least), last)
      if last.char? ≠ some '\x7D' then fault .countUnclosed (last.since c.spot)
      else
        let last := skipPreference last.step
        if most.any (· < least) then fault .countOrder (last.since c.spot)
        else return ({ s with level := level.pushRepetition part least most last.spot }, last)

/-! ## Patterns -/

/-- One part of a pattern or one sign, at its first character. -/
def State.read (s : State) (c : Cursor) (d : Char) : Except Fault (State × Cursor) :=
  match d with
  | '(' => s.opens c
  | ')' => s.closes c
  | '|' => .ok ({ s with level := s.level.bar c.spot c.next.spot }, c.next)
  | '[' => do
    let (set, last) ← bracketed c
    return ({ s with level := s.level.push (.set set) }, last)
  | '?' => s.repeats 0 (some 1) c
  | '*' => s.repeats 0 none c
  | '+' => s.repeats 1 none c
  | '\x7B' => s.counts c
  | _ => do
    let (a, last) ← atom c d
    return ({ s with level := s.level.push a.tree }, last)

/-- Reads parts up to the end of a pattern. The number is more than there are characters left. -/
def readParts : Nat → State → Cursor → Except Fault (State × Cursor)
  | 0, s, c => .ok (s, c)
  | fuel + 1, s, c =>
    let c := c.skip
    match c.rest with
    | [] => .ok (s, c)
    | d :: _ => do
      let (s, c) ← s.read c d
      readParts fuel s c

/-- **The tree of a pattern**, or what is wrong with it. -/
def Tree.ofText? (pattern : Text) : Except Fault Tree := do
  let (s, c) ← readParts (pattern.length + 1) ⟨[], Level.start Spot.start, []⟩ (Cursor.start pattern)
  match s.stack with
  | innermost :: _ => fault .groupUnclosed innermost.opening
  | [] =>
    let tree := s.level.close c.spot
    tree.checkDepth 0
    return tree

end RuleCap.Pattern
