import RuleCap.Pattern.Escape

/-!
# Sets of characters between brackets

`bracketed` reads a set from its bracket to the one that closes it: characters, ranges of them, sets with a name or a
letter, sets between brackets of their own, and two sets combined by `&&`, `--` or `~~`, which bind to the left and less
than what stands side by side. A bracket or a dash that comes first stands for itself.
-/

namespace RuleCap.Pattern

/-- A set that has been opened: where, the span of its opening, and whether it is negated. -/
structure OpenClass where
  first : Spot
  opening : Span
  negated : Bool

/-- Items side by side, the last one in front, as one set. -/
def ClassTree.ofItems (here : Spot) : List ClassTree → ClassTree
  | [] => .nothing ⟨here, here⟩
  | [item] => item
  | last :: items =>
    let all := items.foldl (fun rest item => .both item rest) last
    .union all.span all

/-- Dashes at the begin of a set, each of which stands for itself. -/
def leadingDashes (first : Spot) : Nat → List ClassTree → Cursor → Except Fault (List ClassTree × Cursor)
  | 0, items, c => .ok (items, c)
  | n + 1, items, c =>
    if c.char? = some '-' then
      let dash : Literal := ⟨c.one, '-', false⟩
      if c.step.atEnd then fault .classUnclosed ⟨first, first⟩
      else leadingDashes first n (.range c.one dash dash :: items) c.step
    else .ok (items, c)

/-- The begin of a set, at its bracket: the set, its first items, and where they begin. -/
def openClass (c : Cursor) : Except Fault ((OpenClass × List ClassTree × Spot) × Cursor) := do
  let first := c.spot
  let inside := c.step
  if inside.atEnd then fault .classUnclosed (inside.since first)
  else
    let negated := inside.char? == some '^'
    let inside := if negated then inside.step else inside
    if inside.atEnd then fault .classUnclosed (inside.since first)
    else
      let (items, last) ← leadingDashes first inside.rest.length [] inside
      if items.isEmpty ∧ last.char? = some ']' then
        let bracket : Literal := ⟨last.one, ']', false⟩
        if last.step.atEnd then fault .classUnclosed (last.step.since first)
        else .ok ((⟨first, last.step.since first, negated⟩, [.range last.one bracket bracket], inside.spot), last.step)
      else .ok ((⟨first, last.since first, negated⟩, items, inside.spot), last)

/-- A set with a name, as in `[:alpha:]`, at its bracket. -/
def namedClass? (c : Cursor) : Option (ClassTree × Cursor) := do
  let inside ← c.after? ['[', ':']
  let negated := inside.char? == some '^'
  let inside := if negated then inside.next else inside
  let name := inside.rest.takeWhile (· != ':')
  let kind ← AsciiName.all.lookup name
  let last ← inside.after? (name ++ [':', ']'])
  return (.named (last.since c.spot) kind negated, last)

/-- An atom as an item of a set. -/
def classItem : Atom → Except Fault ClassTree
  | .literal l => .ok (.range l.span l l)
  | .shorthand span kind negated => .ok (.shorthand span kind negated)
  | .property span name => .ok (.property span name)
  | a => fault .classEscape a.span

/-- An atom as an end of a range. -/
def rangeEnd : Atom → Except Fault Literal
  | .literal l => .ok l
  | a => fault .classBoundary a.span

/-- An item of a set or a range, at its first character. -/
def classRange (unclosed : Span) (c : Cursor) (d : Char) : Except Fault (ClassTree × Cursor) := do
  let (a, last) ← classAtom c d
  let last := last.skip
  if last.atEnd then fault .classUnclosed unclosed
  else if last.char? ≠ some '-' ∨ last.following? = some ']' ∨ last.following? = some '-' then
    return (← classItem a, last)
  else
    let other := last.step
    match other.char? with
    | none => fault .classUnclosed unclosed
    | some e =>
      let (b, last) ← classAtom other e
      let low ← rangeEnd a
      let high ← rangeEnd b
      let span : Span := ⟨low.span.first, high.span.last⟩
      if high.char < low.char then fault .classOrder span else return (.range span low high, last)

/-- The sign of a combination of two sets, and the cursor after it. -/
def setOperation? (c : Cursor) : Option (SetOperation × Cursor) :=
  [(['&', '&'], .intersection), (['-', '-'], .difference), (['~', '~'], .symmetricDifference)].findSome?
    fun (sign, operation) => (c.after? sign).map (operation, ·)

/-- The set that ends here, with the one that it is combined with. -/
def closeOperation (pending : Option (SetOperation × ClassTree)) (b : ClassTree) : ClassTree :=
  match pending with
  | some (operation, a) => .combined ⟨a.span.first, b.span.last⟩ operation a b
  | none => b

/-- The rest of a set that has been opened: the set it is to be combined with, the items since then with the last one in
front, and where they begin. The first number is more than there are characters left. -/
def classRest : Nat → OpenClass → Option (SetOperation × ClassTree) → List ClassTree → Spot → Cursor →
    Except Fault (ClassTree × Cursor)
  | 0, set, _, _, _, _ => fault .classUnclosed set.opening
  | fuel + 1, set, pending, items, here, c => do
    let c := c.skip
    match c.rest with
    | [] => fault .classUnclosed set.opening
    | ']' :: _ =>
      let inner := closeOperation pending (.ofItems here items)
      return (.bracketed (c.next.since set.first) set.negated inner, c.next)
    | '[' :: _ =>
      match namedClass? c with
      | some (item, c) => classRest fuel set pending (item :: items) here c
      | none =>
        let ((inner, first, spot), c) ← openClass c
        let (item, c) ← classRest fuel inner none first spot c
        classRest fuel set pending (item :: items) here c
    | d :: _ =>
      match setOperation? c with
      | some (operation, c) =>
        classRest fuel set (some (operation, closeOperation pending (.ofItems here items))) [] c.spot c
      | none =>
        let (item, c) ← classRange set.opening c d
        classRest fuel set pending (item :: items) here c

/-- **A set of characters**, at its bracket. -/
def bracketed (c : Cursor) : Except Fault (ClassTree × Cursor) := do
  let ((set, items, spot), inside) ← openClass c
  classRest (inside.rest.length + 1) set none items spot inside

end RuleCap.Pattern
