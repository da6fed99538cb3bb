import RuleCap.Pattern.Meaning

/-!
# What a pattern matches

A `Place` is a place between the characters of a text. From a set of places a pattern leads to the places that it can
end at (`Pattern.ends`); it is found in a text if it leads from any place of the text to some place (`Pattern.isFoundIn`).
Sets of places are lists in order. A repetition goes on only from places that it has not been at, and a pattern that has
to be repeated more often than the text has places is repeated as often as that, since from then on it only stands still.
-/

namespace RuleCap.Pattern

/-- A place in a text: the characters before it, the last of them, and the characters behind it. -/
structure Place where
  offset : Nat
  previous : Option Char
  rest : Text
deriving DecidableEq, Repr

namespace Place

/-- The places of a text from one on. -/
def placesFrom (offset : Nat) (previous : Option Char) : Text → List Place
  | [] => [⟨offset, previous, []⟩]
  | c :: rest => ⟨offset, previous, c :: rest⟩ :: placesFrom (offset + 1) (some c) rest

/-- The place behind a character of a set. -/
def past? (set : CharSet) (p : Place) : Option Place :=
  match p.rest with
  | c :: rest => if set.contains c then some ⟨p.offset + 1, some c, rest⟩ else none
  | [] => none

/-- Whether a character belongs to a word. -/
def isWordChar (c : Char) : Bool := c.isAlphanum || c == '_'

/-- Whether something holds at a place. -/
def holds (p : Place) (l : Look) : Bool :=
  let next := p.rest.head?
  let wordBefore := p.previous.any isWordChar
  let wordAfter := next.any isWordChar
  match l with
  | .textStart => p.previous == none
  | .textEnd => next == none
  | .lineStart => p.previous == none || p.previous == some '\n'
  | .lineEnd => next == none || next == some '\n'
  | .carriageLineStart =>
    p.previous == none || p.previous == some '\n' || (p.previous == some '\r' && next != some '\n')
  | .carriageLineEnd => next == none || next == some '\r' || (next == some '\n' && p.previous != some '\r')
  | .wordBoundary => wordBefore != wordAfter
  | .noWordBoundary => wordBefore == wordAfter
  | .wordStart => !wordBefore && wordAfter
  | .wordEnd => wordBefore && !wordAfter
  | .wordStartHalf => !wordBefore
  | .wordEndHalf => !wordAfter

/-- The places of two sets. -/
def union : List Place → List Place → List Place
  | [], b => b
  | a, [] => a
  | x :: a, y :: b =>
    if x.offset < y.offset then x :: union a (y :: b)
    else if y.offset < x.offset then y :: union (x :: a) b
    else x :: union a b
termination_by a b => a.length + b.length

/-- One more than the characters behind the first place of a set: how many places there are from there on. -/
def count : List Place → Nat
  | [] => 0
  | p :: _ => p.rest.length + 1

/-- A step taken a number of times. -/
def iterate (step : List Place → List Place) : Nat → List Place → List Place
  | 0, s => s
  | n + 1, s => if s.isEmpty then [] else iterate step n (step s)

/-- The places that a step taken at most a number of times leads to, and those there are already. The step is taken from
the places that are new. -/
def spread (step : List Place → List Place) : Nat → List Place → List Place → List Place
  | 0, _, seen => seen
  | n + 1, new, seen =>
    let new := (step new).filter fun p => !seen.any (·.offset == p.offset)
    if new.isEmpty then seen else spread step n new (union seen new)

end Place

/-- **The places that a pattern leads to** from a set of places. -/
def ends : Pattern → List Place → List Place
  | empty, s => s
  | one set, s => s.filterMap (Place.past? set)
  | look l, s => s.filter (·.holds l)
  | unicodeWord, _ => []
  | capture p, s => p.ends s
  | sequence a b, s => b.ends (a.ends s)
  | either a b, s => Place.union (a.ends s) (b.ends s)
  | repetition p least most, s =>
    let s := Place.iterate p.ends (min least (Place.count s)) s
    let more := match most with
      | some most => most - least
      | none => Place.count s
    Place.spread p.ends more s s

/-- Whether a pattern is found in a text. -/
def isFoundIn (p : Pattern) (t : Text) : Bool := !(p.ends (Place.placesFrom 0 none t)).isEmpty

end RuleCap.Pattern
