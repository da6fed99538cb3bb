import RuleCap.Line
import RuleCap.Marker

/-!
# Listings

A listing is a list of rules cut in two: the header, its first lines up to the first rule, and the body. Trimming
(`Listing.trim`) keeps the header as it is, and of the body the rules that the limit allows; a marker line comes between
them. A `Tally` counts what became of every line. The result is written with `Trimmed.render`.
-/

namespace RuleCap

/-- The lines of a list, cut in two. -/
structure Listing where
  header : List Text
  body : List Text
deriving DecidableEq, Repr

/-- A list after a trim. -/
structure Trimmed where
  header : List Text
  marker : Marker
  rules : List Text
deriving DecidableEq

/-- What became of the lines of a list. -/
structure Tally where
  headerLines : Nat
  rulesFound : Nat
  rulesKept : Nat
  rulesDiscarded : Nat
  bodyLinesDropped : Nat
deriving DecidableEq, Repr

namespace Tally

/-- The tally of nothing. -/
def zero : Tally := ⟨0, 0, 0, 0, 0⟩

/-- The number of lines written: the header, the marker and the rules kept. -/
def outputLines (t : Tally) : Nat := t.headerLines + 1 + t.rulesKept

end Tally

namespace Trimmed

/-- The lines to write. -/
def lines (t : Trimmed) : List Text := t.header ++ t.marker.toText :: t.rules

/-- **The text to write**: every line closed by a newline. -/
def render (t : Trimmed) : Text := unlines t.lines

end Trimmed

namespace Listing

/-- **Cuts a text in two**: the header is the longest run of comments and blanks at its front. -/
def ofText (prefixes : Prefixes) (t : Text) : Listing :=
  let inHeader line := (kindOf prefixes line).inHeader
  ⟨(splitLines t).takeWhile inHeader, (splitLines t).dropWhile inHeader⟩

/-- The rules of the body, in order. -/
def rules (prefixes : Prefixes) (l : Listing) : List Text :=
  l.body.filter (isRule prefixes)

/-- **Keeps the header and the rules that the limit allows.** -/
def trim (prefixes : Prefixes) (marker : Marker) (l : Listing) : Trimmed × Tally :=
  let found := (l.rules prefixes).length
  let kept := (l.rules prefixes).take (marker.limit.keptCount found)
  (⟨l.header, marker, kept⟩,
    { headerLines := l.header.length
      rulesFound := found
      rulesKept := kept.length
      rulesDiscarded := found - kept.length
      bodyLinesDropped := l.body.length - found })

end Listing

end RuleCap
