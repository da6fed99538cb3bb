import RuleCap.Text.Utf8
import RuleCap.Yaml.Scalar

/-!
# Tokens of a YAML stream

A stream is cut into tokens: the marks of documents and of flow collections, scalars with their properties, and the
begins and ends of block collections, which only indentation shows. That something is the key of a mapping shows at the
colon behind it, so every place where a key may begin is remembered (`PendingKey`) and the tokens of the mapping and the
key are put in there later. `tokens?` gives all tokens of a stream, or nothing where some part is not well formed.
-/

namespace RuleCap.Yaml

/-- What a token says. -/
inductive TokenKind
  | streamEnd
  | documentStart
  | documentEnd
  | version (major minor : Nat)
  | tagPrefix (handle : Text) (leading : Bytes)
  | blockSequence
  | blockMapping
  | blockEnd
  | flowSequence
  | flowSequenceEnd
  | flowMapping
  | flowMappingEnd
  | blockEntry
  | flowEntry
  | key
  | value
  | aliasOf (name : Text)
  | anchor (name : Text)
  | tag (handle : Text) (suffix : Bytes)
  | scalar (isPlain : Bool) (text : Text)
deriving DecidableEq, Repr

/-- A token and where it begins. -/
structure Token where
  kind : TokenKind
  mark : Mark
deriving DecidableEq, Repr

/-- The bytes up to the first zero: a tag has no zero in it, and what follows an escaped one counts for nothing. -/
def untilZero (bytes : Bytes) : Bytes := bytes.takeWhile (· ≠ 0)

/-- The tag that is an exclamation mark alone. -/
def loneMark : Bytes := [0x21]

/-- A place where the key of a mapping may begin. -/
structure PendingKey where
  /-- Whether a colon has to follow, since nothing else can stand at this indentation. -/
  required : Bool
  /-- The number of tokens in front of it. -/
  position : Nat
  mark : Mark

/-- The greatest number of bytes from the begin of a key to its colon. -/
def keyReach : Nat := 1024

/-- A stream being cut. -/
structure Scan where
  cursor : Cursor
  /-- The tokens found, the last one first. -/
  found : List Token
  /-- The column of the block collection that is open, and those of the ones around it. -/
  indent : Int
  outer : List Int
  /-- The place of a possible key in the flow collection that is open, in those around it, and outside of all. -/
  keys : List (Option PendingKey)
  /-- Whether a key may begin here. -/
  keyAllowed : Bool

namespace Scan

/-- The begin of a stream. -/
def start (t : Text) : Scan := ⟨⟨t, Mark.start⟩, [], -1, [], [none], true⟩

/-- The position reached. -/
def mark (s : Scan) : Mark := s.cursor.mark

/-- The column reached. -/
def column (s : Scan) : Int := s.cursor.mark.column

/-- Whether a flow collection is open. -/
def inFlow (s : Scan) : Bool := 1 < s.keys.length

/-- Adds a token. -/
def emit (s : Scan) (kind : TokenKind) (mark : Mark) : Scan := { s with found := ⟨kind, mark⟩ :: s.found }

/-- Puts in a token behind a number of others. -/
def emitAt (s : Scan) (position : Nat) (kind : TokenKind) (mark : Mark) : Scan :=
  let later := s.found.length - position
  { s with found := s.found.take later ++ ⟨kind, mark⟩ :: s.found.drop later }

/-- Adds the token of a mark that is some characters long, and goes past it. -/
def emitMark (s : Scan) (kind : TokenKind) (width : Nat) : Scan :=
  { s.emit kind s.mark with cursor := s.cursor.right width }

/-! ## Keys -/

/-- The innermost place of a possible key. -/
def key? (s : Scan) : Option PendingKey := s.keys.head?.join

/-- Sets the innermost place of a possible key. -/
def setKey (s : Scan) (key : Option PendingKey) : Scan := { s with keys := key :: s.keys.tail }

/-- Gives up the innermost possible key, which may not be one that has to be a key. -/
def dropKey (s : Scan) : Option Scan :=
  if s.key?.any (·.required) then none else some (s.setKey none)

/-- Remembers that a key may begin here, if it may. -/
def saveKey (s : Scan) : Option Scan :=
  if s.keyAllowed then do
    let s' ← s.dropKey
    some (s'.setKey (some ⟨!s.inFlow && s.indent == s.column, s.found.length, s.mark⟩))
  else some s

/-- Whether a key that began at a place is too far behind. -/
def isStale (s : Scan) (key : PendingKey) : Bool :=
  key.mark.line < s.mark.line || key.mark.offset + keyReach < s.mark.offset

/-- Gives up the keys that are too far behind. -/
def dropStaleKeys (s : Scan) : Option Scan :=
  if s.keys.any fun k => k.any fun key => s.isStale key && key.required then none
  else some { s with keys := s.keys.map fun k => k.filter fun key => !s.isStale key }

/-- Says whether a key may begin from here on. -/
def allowKey (s : Scan) (allowed : Bool) : Scan := { s with keyAllowed := allowed }

/-! ## Indentation -/

/-- Opens a block collection at a column, unless it is open already; its token goes behind a number of others. -/
def openBlock (s : Scan) (column : Int) (position : Nat) (kind : TokenKind) (mark : Mark) : Scan :=
  if s.inFlow ∨ column ≤ s.indent then s
  else { s.emitAt position kind mark with indent := column, outer := s.indent :: s.outer }

/-- Ends the block collections that stand further right than a column. -/
def closeBlocks (column : Int) : List Int → Scan → Scan
  | [], s => s
  | around :: outer, s =>
    if column < s.indent then
      closeBlocks column outer { s.emit .blockEnd s.mark with indent := around, outer := outer }
    else s

/-- Ends the block collections that a token at a column does not belong to. -/
def unroll (s : Scan) (column : Int) : Scan :=
  if s.inFlow then s else closeBlocks column s.outer s

/-! ## White space and comments -/

/-- Goes to the next token. A tab may stand in front of it where no key may begin. -/
def skipSpace (inFlow : Bool) : Bool → Bool → Text → Mark → Bool × Cursor
  | keyAllowed, _, [], mark => (keyAllowed, ⟨[], mark⟩)
  | keyAllowed, inComment, c :: rest, mark =>
    if endsLine c then skipSpace inFlow (keyAllowed || !inFlow) false rest mark.nextLine
    else if inComment then skipSpace inFlow keyAllowed true rest (mark.right c)
    else if (mark.column == 0 && c == '\uFEFF') || c == ' ' || ((inFlow || !keyAllowed) && c == '\t') then
      skipSpace inFlow keyAllowed false rest (mark.right c)
    else if c == '#' then skipSpace inFlow keyAllowed true rest (mark.right c)
    else (keyAllowed, ⟨c :: rest, mark⟩)

/-- The stream from its next token on. -/
def toToken (s : Scan) : Scan :=
  let (keyAllowed, cursor) := skipSpace s.inFlow s.keyAllowed false s.cursor.rest s.mark
  { s with keyAllowed, cursor }

/-! ## Marks of documents and collections -/

/-- The begin or end of a document. -/
def documentMark (s : Scan) (kind : TokenKind) : Option Scan := do
  let s ← (s.unroll (-1)).dropKey
  some ((s.allowKey false).emitMark kind 3)

/-- The begin of a flow collection. -/
def openFlow (s : Scan) (kind : TokenKind) : Option Scan := do
  let s ← s.saveKey
  some (({ s with keys := none :: s.keys }.allowKey true).emitMark kind 1)

/-- The end of a flow collection. -/
def closeFlow (s : Scan) (kind : TokenKind) : Option Scan := do
  let s ← s.dropKey
  let keys := if s.inFlow then s.keys.tail else s.keys
  some (({ s with keys }.allowKey false).emitMark kind 1)

/-- The comma of a flow collection. -/
def flowEntry (s : Scan) : Option Scan := do
  let s ← s.dropKey
  some ((s.allowKey true).emitMark .flowEntry 1)

/-- The dash of a block sequence. -/
def blockEntry (s : Scan) : Option Scan :=
  if !s.inFlow && !s.keyAllowed then none
  else do
    let s ← (s.openBlock s.column s.found.length .blockSequence s.mark).dropKey
    some ((s.allowKey true).emitMark .blockEntry 1)

/-- The question mark of a key. -/
def keyMark (s : Scan) : Option Scan :=
  if !s.inFlow && !s.keyAllowed then none
  else do
    let s ← (s.openBlock s.column s.found.length .blockMapping s.mark).dropKey
    some ((s.allowKey (!s.inFlow)).emitMark .key 1)

/-- The colon behind a key, or in front of a value whose key is empty. -/
def valueMark (s : Scan) : Option Scan :=
  match s.key? with
  | some key =>
    let s := s.emitAt key.position .key key.mark
    let s := s.openBlock key.mark.column key.position .blockMapping key.mark
    some (((s.setKey none).allowKey false).emitMark .value 1)
  | none =>
    if !s.inFlow && !s.keyAllowed then none
    else
      let s := s.openBlock s.column s.found.length .blockMapping s.mark
      some ((s.allowKey (!s.inFlow)).emitMark .value 1)

/-! ## Properties and directives -/

/-- Whether a name of an anchor may end before a text. -/
def endsName (t : Text) : Bool :=
  startsBlank t || (t.head?.any fun c => ['?', ':', ',', ']', '}', '%', '@', '\x60'].contains c)

/-- An anchor or an alias. -/
def anchor (s : Scan) (kind : Text → TokenKind) : Option Scan := do
  let s ← s.saveKey
  let name := (s.cursor.rest.drop 1).takeWhile isWord
  if name.isEmpty ∨ !endsName (s.cursor.rest.drop (1 + name.length)) then none
  else some ((s.allowKey false).emitMark (kind name) (1 + name.length))

/-- The characters of a tag besides letters and digits; the last three only in a tag written out in full. -/
def isTagChar (full : Bool) (c : Char) : Bool :=
  isWord c || [';', '/', '?', ':', '@', '&', '=', '+', '$', '.', '!', '~', '*', '\'', '(', ')'].contains c ||
    (full && [',', '[', ']'].contains c)

/-- The bytes that a character has whose first byte is given. -/
def escapeWidth (b : Nat) : Option Nat :=
  if b < 0x80 then some 1
  else if 0xC0 ≤ b ∧ b < 0xE0 then some 2
  else if 0xE0 ≤ b ∧ b < 0xF0 then some 3
  else if 0xF0 ≤ b ∧ b < 0xF8 then some 4
  else none

/-- Reads the bytes of a tag, `owed` being the escaped bytes still to come of a character. -/
def tagText (full : Bool) : Nat → Text → Option (Bytes × Text)
  | owed, '%' :: h :: l :: rest => do
    let b := (← hexValue h) * 16 + (← hexValue l)
    let owed ← match owed with
      | 0 => (escapeWidth b).map (· - 1)
      | owed + 1 => if 0x80 ≤ b ∧ b < 0xC0 then some owed else none
    let (t, rest) ← tagText full owed rest
    some (Utf8.byte b :: t, rest)
  | 0, c :: rest =>
    if isTagChar full c then do
      let (t, rest) ← tagText full 0 rest
      some (Utf8.byte c.toNat :: t, rest)
    else if c = '%' then none
    else some ([], c :: rest)
  | 0, [] => some ([], [])
  | _ + 1, _ => none

/-- A tag that is not empty. -/
def tagText? (full : Bool) (t : Text) : Option (Bytes × Text) :=
  match tagText full 0 t with
  | some ([], _) => none
  | answer => answer

/-- The handle at the begin of a tag: an exclamation mark, a name, and an exclamation mark if one follows. -/
def tagHandle (t : Text) : Text :=
  let name := '!' :: (t.drop 1).takeWhile isWord
  if (t.drop name.length).head? = some '!' then name ++ ['!'] else name

/-- Whether a handle ends with an exclamation mark of its own. -/
def isFullHandle (handle : Text) : Bool := 1 < handle.length && handle.getLast? == some '!'

/-- Reads a tag: its handle, its suffix and the rest. A lone exclamation mark is all suffix. -/
def tagParts (t : Text) : Option (Text × Bytes × Text) :=
  if (t.drop 1).head? = some '<' then do
    let (suffix, rest) ← tagText? true (t.drop 2)
    match rest with
    | '>' :: rest => some ([], untilZero suffix, rest)
    | _ => none
  else if isFullHandle (tagHandle t) then do
    let (suffix, rest) ← tagText? false (t.drop (tagHandle t).length)
    some (tagHandle t, untilZero suffix, rest)
  else do
    let (more, rest) ← tagText false 0 (t.drop (tagHandle t).length)
    let suffix := untilZero (Utf8.encode ((tagHandle t).drop 1) ++ more)
    if suffix.isEmpty then some ([], loneMark, rest) else some (['!'], suffix, rest)

/-- A tag. -/
def tag (s : Scan) : Option Scan := do
  let s ← s.saveKey
  let (handle, suffix, rest) ← tagParts s.cursor.rest
  if startsBlank rest ∨ (s.inFlow ∧ rest.head? = some ',') then
    some { (s.allowKey false).emit (.tag handle suffix) s.mark with cursor := s.cursor.upTo rest }
  else none

/-- The number at the begin of a text, of nine digits at most. -/
def versionNumber (t : Text) : Option (Nat × Text) :=
  let digits := t.takeWhile Char.isDigit
  if digits.isEmpty ∨ 9 < digits.length then none
  else some (Nat.ofDigitChars 10 digits 0, t.drop digits.length)

/-- What a directive says, and the rest of the stream behind it. -/
def directiveParts (t : Text) : Option (TokenKind × Text) :=
  let name := (t.drop 1).takeWhile isWord
  let rest := t.drop (1 + name.length)
  if !startsBlank rest then none
  else if name = "YAML".toList then do
    let (major, rest) ← versionNumber (rest.dropWhile isGap)
    match rest with
    | '.' :: rest => do
      let (minor, rest) ← versionNumber rest
      some (.version major minor, rest)
    | _ => none
  else if name = "TAG".toList then
    let rest := rest.dropWhile isGap
    let handle := tagHandle rest
    let behind := rest.drop handle.length
    if rest.head? = some '!' ∧ (handle = ['!'] ∨ isFullHandle handle) ∧ behind.head?.any isGap then do
      let (leading, rest) ← tagText? true (behind.dropWhile isGap)
      if startsBlank rest then some (.tagPrefix handle (untilZero leading), rest) else none
    else none
  else none

/-- A directive, with the line it stands on. -/
def directive (s : Scan) : Option Scan := do
  let s ← (s.unroll (-1)).dropKey
  let (kind, rest) ← directiveParts s.cursor.rest
  let cursor := ((s.cursor.upTo rest).skipWhile isGap).skipComment
  if startsBreak cursor.rest then
    some { (s.allowKey false).emit kind s.mark with cursor := cursor.skipBreak }
  else none

/-! ## Scalars -/

/-- A quoted scalar. -/
def quoted (s : Scan) (read : Text → Mark → Option (Text × Cursor)) : Option Scan := do
  let s ← s.saveKey
  let inside := s.cursor.right 1
  let (text, cursor) ← read inside.rest inside.mark
  some { (s.allowKey false).emit (.scalar false text) s.mark with cursor }

/-- A plain scalar. -/
def plainScalar (s : Scan) : Option Scan := do
  let s ← s.saveKey
  let (text, cursor, broken) ← plain s.inFlow (s.indent + 1) .none s.cursor.rest s.mark
  some { (s.allowKey broken).emit (.scalar true text) s.mark with cursor }

/-- What stands behind the mark of a block: how its breaks end and its indentation, in either order. -/
def blockHeader (t : Text) : Option (Chomp × Nat × Text) :=
  let chomp : Text → Chomp × Text
    | '+' :: rest => (.keep, rest)
    | '-' :: rest => (.strip, rest)
    | rest => (.clip, rest)
  let width : Text → Nat × Text
    | c :: rest => if c.isDigit then (c.toNat - '0'.toNat, rest) else (0, c :: rest)
    | [] => (0, [])
  let startsZero (t : Text) := t.head? == some '0'
  if (chomp t).1 = .clip then
    if startsZero t then none
    else
      let (n, rest) := width t
      if n = 0 then some (.clip, 0, rest)
      else
        let (c, rest) := chomp rest
        some (c, n, rest)
  else
    let (c, rest) := chomp t
    if startsZero rest then none
    else
      let (n, rest) := width rest
      some (c, n, rest)

/-- A block scalar. -/
def blockScalar (s : Scan) (literal : Bool) : Option Scan := do
  let s ← s.dropKey
  let (chomp, width, rest) ← blockHeader (s.cursor.rest.drop 1)
  let cursor := ((s.cursor.upTo rest).skipWhile isGap).skipComment
  if startsBreak cursor.rest then do
    let cursor := cursor.skipBreak
    let least := (max (s.indent + 1) 1).toNat
    let indent := if width = 0 then 0 else (max s.indent 0).toNat + width
    let (text, cursor) ← block ⟨literal, chomp, least⟩ (.start indent) cursor.rest cursor.mark
    some { (s.allowKey true).emit (.scalar false text) s.mark with cursor }
  else none

/-! ## The stream -/

/-- Whether a plain scalar may begin with a character before the given rest. -/
def startsPlain (inFlow : Bool) (c : Char) (rest : Text) : Bool :=
  let isMark :=
    ['-', '?', ':', ',', '[', ']', '{', '}', '#', '&', '*', '!', '|', '>', '\'', '"', '%', '@', '\x60'].contains c
  (!isGap c && !endsLine c && !isMark) || (c == '-' && !(rest.head?.any isGap)) ||
    (!inFlow && (c == '?' || c == ':') && !startsBlank rest)

/-- The end of the stream. -/
def finish (s : Scan) : Option (List Token) := do
  let s ← (s.unroll (-1)).dropKey
  some (s.emit .streamEnd s.mark).found.reverse

/-- The next token, at the character `c` before the given rest. -/
def next (s : Scan) (c : Char) (rest : Text) : Option Scan :=
  if s.mark.column = 0 ∧ c = '%' then s.directive
  else if s.mark.column = 0 ∧ startsDocumentMark (c :: rest) then
    s.documentMark (if c = '-' then .documentStart else .documentEnd)
  else if c = '[' then s.openFlow .flowSequence
  else if c = '{' then s.openFlow .flowMapping
  else if c = ']' then s.closeFlow .flowSequenceEnd
  else if c = '}' then s.closeFlow .flowMappingEnd
  else if c = ',' then s.flowEntry
  else if c = '-' ∧ startsBlank rest then s.blockEntry
  else if c = '?' ∧ (s.inFlow ∨ startsBlank rest) then s.keyMark
  else if c = ':' ∧ (s.inFlow ∨ startsBlank rest) then s.valueMark
  else if c = '*' then s.anchor .aliasOf
  else if c = '&' then s.anchor .anchor
  else if c = '!' then s.tag
  else if c = '|' ∧ !s.inFlow then s.blockScalar true
  else if c = '>' ∧ !s.inFlow then s.blockScalar false
  else if c = '\'' then s.quoted (singleQuoted .none)
  else if c = '"' then s.quoted (doubleQuoted (.run .none))
  else if startsPlain s.inFlow c rest then s.plainScalar
  else none

/-- The tokens from here on; every token takes a character at least, so the steps suffice that the stream has
characters. -/
def run : Nat → Scan → Option (List Token)
  | 0, s => if s.cursor.rest.isEmpty then s.finish else none
  | steps + 1, s => do
    let s ← s.toToken.dropStaleKeys
    let s := s.unroll s.column
    match s.cursor.rest with
    | [] => s.finish
    | c :: rest => run steps (← s.next c rest)

end Scan

/-- **The tokens of a stream.** -/
def tokens? (t : Text) : Option (List Token) := do
  let t ← readable? t
  (Scan.start t).run (t.length + 1)

end RuleCap.Yaml
