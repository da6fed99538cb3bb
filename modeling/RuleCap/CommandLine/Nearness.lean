import RuleCap.Binary64

/-!
# Nearness of words

How much two words are alike, after Jaro. Equal characters match if they stand about as far from the begin; matched
characters out of order count half. Of the shares of matched characters in both words and of matched characters in
order the mean is taken (`likeness`). Every quotient and sum is rounded to 53 binary digits, so a mean of exactly seven
tenths can come out just above the `threshold`.
-/

namespace RuleCap.CommandLine

/-- How far apart matching characters may stand. -/
def window (a b : Text) : Nat := max a.length b.length / 2 - 1

/-- The first place from `low` to `high` that holds the character and is not taken yet. -/
def findPlace (c : Char) (low high : Nat) (b : Text) (taken : List Nat) : Option Nat :=
  b.zipIdx.findSome? fun (d, j) =>
    if low ≤ j ∧ j ≤ high ∧ d = c ∧ ¬taken.contains j then some j else none

/-- The characters of the first word that find a match, each with its place in the second. -/
def matchedPlaces (a b : Text) : List (Char × Nat) :=
  (a.zipIdx.foldl (fun found (c, i) =>
    match findPlace c (i - window a b) (i + window a b) b (found.map (·.2)) with
    | some j => found ++ [(c, j)]
    | none => found) [])

/-- Half the number of matched characters that stand in another order in the second word. -/
def transpositions (places : List (Char × Nat)) (b : Text) : Nat :=
  let inOrder := (b.zipIdx.filter fun (_, j) => (places.map (·.2)).contains j).map (·.1)
  ((places.map (·.1)).zip inOrder).countP (fun (c, d) => c ≠ d) / 2

/-- **How much two words are alike**, from nothing to one. -/
def likeness (a b : Text) : Binary64 :=
  let places := matchedPlaces a b
  let m := places.length
  if m = 0 then .ofFraction false 0 1
  else
    let inBoth := Binary64.sum (.ofFraction false m a.length) (.ofFraction false m b.length)
    (inBoth.sum (.ofFraction false (m - transpositions places b) m)).third

/-- What a word has to exceed to be near another. -/
def threshold : Binary64 := .ofFraction false 7 10

/-- The candidate most like a word, if one is alike enough. The last of equals wins. -/
def nearest (word : Text) (candidates : List Text) : Option Text :=
  let near := candidates.filter fun c => !(likeness word c).notAbove threshold
  near.foldl (fun best c =>
    match best with
    | some b => if (likeness word b).notAbove (likeness word c) then some c else some b
    | none => some c) none

example : nearest "conf".toList ["config".toList, "output".toList] = some "config".toList := by decide +kernel

example : nearest "foncg".toList ["config".toList] = some "config".toList := by decide +kernel

end RuleCap.CommandLine
