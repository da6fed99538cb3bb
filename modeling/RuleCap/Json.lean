import RuleCap.Decode

/-!
# JSON values

Integers from `-2 ^ 63` to `2 ^ 64 - 1` are kept apart from numbers with a fraction; an integer beyond them is kept as
a number of 64 binary digits (`Json.ofInteger`). The entries of an object stand in the order of their keys, and of
several entries with one key only the last counts (`Json.ofEntries`).
-/

namespace RuleCap

/-- A JSON value. -/
inductive Json
  | null
  | bool (b : Bool)
  | int (n : Int)
  | float (x : Binary64)
  | string (t : Text)
  | array (items : List Json)
  | object (entries : List (Text × Json))

namespace Json

/-- An integer as read: minus zero and what 64 bits do not hold become numbers with a fraction. -/
def ofInteger (negative : Bool) (digits : Nat) : Json :=
  let n : Int := if negative then -digits else digits
  if (negative && digits == 0) || n < -Nat.pow 2 63 || Nat.pow 2 64 ≤ n then .float (.ofDecimal negative digits 0)
  else .int n

/-- Whether one key comes before another, character by character. -/
def keyBefore : Text → Text → Bool
  | _, [] => false
  | [], _ :: _ => true
  | c :: s, d :: t => c < d || (c == d && keyBefore s t)

/-- Puts an entry in its place, instead of the one that has its key. -/
def insertEntry (key : Text) (value : Json) : List (Text × Json) → List (Text × Json)
  | [] => [(key, value)]
  | e :: rest =>
    if keyBefore key e.1 then (key, value) :: e :: rest
    else if key = e.1 then (key, value) :: rest
    else e :: insertEntry key value rest

/-- An object of entries as read. -/
def ofEntries (entries : List (Text × Json)) : Json :=
  .object (entries.foldl (fun sorted e => insertEntry e.1 e.2 sorted) [])

/-- What a value is called where another belongs. -/
def found : Json → Found
  | .null => .null
  | .bool b => .bool b
  | .int n => .integer n
  | .float x => .float x
  | .string t => .text t
  | .array _ => .sequence
  | .object _ => .map

end Json

end RuleCap
