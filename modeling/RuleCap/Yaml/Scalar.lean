import RuleCap.Yaml.Cursor

/-!
# The texts of scalars

A scalar is written without marks around it (`plain`), between quotes (`singleQuoted`, `doubleQuoted`), or as a block of
indented lines (`block`). Line breaks inside the first three are folded: one break counts as a space, and of several the
first is dropped (`Gap.join`). Each reader goes through the stream one character at a time, from just after the opening
mark, and gives the text with the cursor behind it, or nothing where the scalar is not well formed.
-/

namespace RuleCap.Yaml

/-! ## Folding -/

/-- White space that a scalar has met and not yet taken into its text. -/
inductive Gap
  /-- No white space. -/
  | none
  /-- Spaces and tabs of one line. -/
  | blanks (t : Text)
  /-- The end of a line, with the character that ends it unless it was escaped, and the breaks of empty lines. -/
  | broken (first : Option Char) (more : Text)
deriving DecidableEq, Repr

namespace Gap

/-- Whether the line has ended. -/
def isBroken : Gap → Bool
  | broken .. => true
  | _ => false

/-- Whether there is no white space. -/
def isNone : Gap → Bool
  | none => true
  | _ => false

/-- Meets a space or a tab, which counts only on the line of the text before it. -/
def addBlank (c : Char) : Gap → Gap
  | none => blanks [c]
  | blanks t => blanks (t ++ [c])
  | broken first more => broken first more

/-- Meets the end of a line. -/
def addBreak (c : Char) : Gap → Gap
  | broken first more => broken first (more ++ [c])
  | _ => broken (some c) []

/-- What the white space becomes once text follows it. -/
def join : Gap → Text
  | none => []
  | blanks t => t
  | broken (some '\n') [] => [' ']
  | broken (some '\n') more => more
  | broken (some c) more => c :: more
  | broken .none more => more

end Gap

/-! ## Plain scalars -/

/-- The marks of flow collections that end a plain scalar there. -/
def isFlowMark (c : Char) : Bool :=
  c == ',' || c == '[' || c == ']' || c == '{' || c == '}'

/-- Whether a plain scalar that has met white space ends before the next character. -/
def endsAfterGap (inFlow : Bool) (indent : Int) (t : Text) (mark : Mark) : Bool :=
  (mark.column == 0 && startsDocumentMark t) || t.head? == some '#' || (!inFlow && (mark.column : Int) < indent)

/-- Whether a plain scalar ends before a character: at a colon with white space after it, and in flow collections at
their marks. -/
def endsPlain (inFlow : Bool) (c : Char) (rest : Text) : Bool :=
  (c == ':' && startsBlank rest) || (inFlow && isFlowMark c)

/-- Whether a colon stands where a flow collection does not allow it. -/
def isStrayColon (inFlow : Bool) (c : Char) (rest : Text) : Bool :=
  inFlow && c == ':' && (rest.head?.any fun d => isFlowMark d || d == '?')

/-- **Reads a plain scalar.** The last part of the answer says whether a line has ended behind the text. -/
def plain (inFlow : Bool) (indent : Int) : Gap → Text → Mark → Option (Text × Cursor × Bool)
  | gap, [], mark => some ([], ⟨[], mark⟩, gap.isBroken)
  | gap, c :: rest, mark =>
    if isGap c then
      if gap.isBroken && c == '\t' && (mark.column : Int) < indent then none
      else plain inFlow indent (gap.addBlank c) rest (mark.right c)
    else if endsLine c then plain inFlow indent (gap.addBreak c) rest mark.nextLine
    else if !gap.isNone && endsAfterGap inFlow indent (c :: rest) mark then
      some ([], ⟨c :: rest, mark⟩, gap.isBroken)
    else if isStrayColon inFlow c rest then none
    else if endsPlain inFlow c rest then some ([], ⟨c :: rest, mark⟩, gap.isBroken)
    else do
      let (t, after) ← plain inFlow indent .none rest (mark.right c)
      some (gap.join ++ c :: t, after)

/-! ## Quoted scalars -/

/-- Whether a mark between documents stands in the way of a quoted scalar. -/
def cutByMark (t : Text) (mark : Mark) : Bool := mark.column == 0 && startsDocumentMark t

/-- **Reads a scalar between single quotes**; two quotes in a row stand for one. -/
def singleQuoted : Gap → Text → Mark → Option (Text × Cursor)
  | _, [], _ => none
  | gap, '\'' :: '\'' :: rest, mark => do
    let (t, after) ← singleQuoted .none rest ((mark.right '\'').right '\'')
    some (gap.join ++ '\'' :: t, after)
  | gap, c :: rest, mark =>
    if cutByMark (c :: rest) mark then none
    else if c = '\'' then some (gap.join, ⟨rest, mark.right c⟩)
    else if isGap c then singleQuoted (gap.addBlank c) rest (mark.right c)
    else if endsLine c then singleQuoted (gap.addBreak c) rest mark.nextLine
    else do
      let (t, after) ← singleQuoted .none rest (mark.right c)
      some (gap.join ++ c :: t, after)

/-- What a character stands for behind a backslash: a character, or hexadecimal digits to come. -/
inductive Escape
  | char (c : Char)
  | digits (n : Nat)

/-- The escapes of double quotes. -/
def Escape.ofChar : Char → Option Escape
  | '0' => some (.char '\x00')
  | 'a' => some (.char '\x07')
  | 'b' => some (.char '\x08')
  | 't' => some (.char '\t')
  | '\t' => some (.char '\t')
  | 'n' => some (.char '\n')
  | 'v' => some (.char '\x0B')
  | 'f' => some (.char '\x0C')
  | 'r' => some (.char '\r')
  | 'e' => some (.char '\x1B')
  | ' ' => some (.char ' ')
  | '"' => some (.char '"')
  | '/' => some (.char '/')
  | '\\' => some (.char '\\')
  | 'N' => some (.char '\u0085')
  | '_' => some (.char '\u00A0')
  | 'L' => some (.char '\u2028')
  | 'P' => some (.char '\u2029')
  | 'x' => some (.digits 2)
  | 'u' => some (.digits 4)
  | 'U' => some (.digits 8)
  | _ => none

/-- The value of a hexadecimal digit. -/
def hexValue (c : Char) : Option Nat :=
  if '0' ≤ c ∧ c ≤ '9' then some (c.toNat - '0'.toNat)
  else if 'a' ≤ c ∧ c ≤ 'f' then some (c.toNat - 'a'.toNat + 10)
  else if 'A' ≤ c ∧ c ≤ 'F' then some (c.toNat - 'A'.toNat + 10)
  else none

/-- The character with a number, if there is one. -/
def charOfNumber (n : Nat) : Option Char :=
  if n.isValidChar then some (Char.ofNat n) else none

/-- Where the reader of double quotes stands. -/
inductive QuoteState
  /-- In the text, behind some white space. -/
  | run (gap : Gap)
  /-- Behind a backslash. -/
  | escape
  /-- In the digits of an escape: how many are still to come, and their value so far. -/
  | hex (owed value : Nat)

/-- **Reads a scalar between double quotes.** A backslash at the end of a line joins it to the next one. -/
def doubleQuoted : QuoteState → Text → Mark → Option (Text × Cursor)
  | _, [], _ => none
  | .run gap, c :: rest, mark =>
    if cutByMark (c :: rest) mark then none
    else if c = '"' then some (gap.join, ⟨rest, mark.right c⟩)
    else if c = '\\' then do
      let (t, after) ← doubleQuoted .escape rest (mark.right c)
      some (gap.join ++ t, after)
    else if isGap c then doubleQuoted (.run (gap.addBlank c)) rest (mark.right c)
    else if endsLine c then doubleQuoted (.run (gap.addBreak c)) rest mark.nextLine
    else do
      let (t, after) ← doubleQuoted (.run .none) rest (mark.right c)
      some (gap.join ++ c :: t, after)
  | .escape, c :: rest, mark =>
    if endsLine c then doubleQuoted (.run (.broken .none [])) rest mark.nextLine
    else
      match Escape.ofChar c with
      | some (.char d) => do
        let (t, after) ← doubleQuoted (.run .none) rest (mark.right c)
        some (d :: t, after)
      | some (.digits n) => doubleQuoted (.hex n 0) rest (mark.right c)
      | none => none
  | .hex owed value, c :: rest, mark => do
    let value := value * 16 + (← hexValue c)
    if owed ≤ 1 then
      let d ← charOfNumber value
      let (t, after) ← doubleQuoted (.run .none) rest (mark.right c)
      some (d :: t, after)
    else doubleQuoted (.hex (owed - 1) value) rest (mark.right c)

/-! ## Block scalars -/

/-- What becomes of the line breaks at the end of a block. -/
inductive Chomp
  /-- One is kept. -/
  | clip
  /-- None is kept. -/
  | strip
  /-- All are kept. -/
  | keep
deriving DecidableEq, Repr

/-- How a block is read: its breaks kept or folded, what becomes of the last ones, and the least indentation that its
lines may have. -/
structure BlockStyle where
  literal : Bool
  chomp : Chomp
  least : Nat

/-- A block being read. -/
structure BlockState where
  /-- The columns by which the lines are indented; zero while no line has shown it. -/
  indent : Nat
  /-- The largest indentation of the empty lines at the begin. -/
  deepest : Nat
  /-- The break that ended the last line. -/
  ended : Option Char
  /-- The breaks of the empty lines after it. -/
  empty : Text
  /-- Whether the last line began with white space. -/
  inset : Bool
  /-- Whether the reader stands inside a line. -/
  inLine : Bool

namespace BlockState

/-- Before the first line, with the indentation that the header of the block asks for, or zero. -/
def start (indent : Nat) : BlockState := ⟨indent, 0, none, [], false, false⟩

/-- What is put in front of a line that begins with the character `c`. -/
def lead (style : BlockStyle) (s : BlockState) (c : Char) : Text :=
  (if !style.literal && s.ended == some '\n' && !s.inset && !isGap c then
    (if s.empty.isEmpty then [' '] else [])
  else s.ended.toList) ++ s.empty

/-- What is left of the breaks at the end. -/
def tail (style : BlockStyle) (s : BlockState) : Text :=
  (if style.chomp = .strip then [] else s.ended.toList) ++ (if style.chomp = .keep then s.empty else [])

/-- The indentation of the lines, once a line shows it at a column. -/
def settle (style : BlockStyle) (s : BlockState) (column : Nat) : Nat :=
  if s.indent = 0 then max (max s.deepest column) style.least else s.indent

end BlockState

/-- **Reads a block**, from the begin of its first line. -/
def block (style : BlockStyle) : BlockState → Text → Mark → Option (Text × Cursor)
  | s, [], mark => some (s.tail style, ⟨[], mark⟩)
  | s, c :: rest, mark =>
    if s.inLine then
      if endsLine c then
        block style { s with inLine := false, ended := some c, empty := [] } rest mark.nextLine
      else do
        let (t, after) ← block style s rest (mark.right c)
        some (c :: t, after)
    else
      let indenting := s.indent = 0 ∨ mark.column < s.indent
      let deepest := max s.deepest mark.column
      if indenting ∧ c = ' ' then block style s rest (mark.right c)
      else if indenting ∧ c = '\t' then none
      else if endsLine c then
        block style { s with deepest, empty := s.empty ++ [c] } rest mark.nextLine
      else
        let indent := s.settle style mark.column
        if mark.column = indent then do
          let next := { s with indent, ended := none, empty := [], inset := isGap c, inLine := true }
          let (t, after) ← block style next rest (mark.right c)
          some (s.lead style c ++ c :: t, after)
        else some (s.tail style, ⟨c :: rest, mark⟩)

end RuleCap.Yaml
