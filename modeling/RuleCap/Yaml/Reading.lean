import RuleCap.Yaml.Value

/-!
# Reading records from YAML

A fault of a YAML document says where it lies: the way from the root of the document to the node, and the position at
which the node begins. A cause gets its place from the innermost node that is being read when it arises (`within`).
Aliases are followed as they are met (`follow`); a document that nests or repeats its nodes without end is refused.
-/

namespace RuleCap.Yaml

/-- The way from the root of a document to a node. -/
inductive Route
  | root
  | item (parent : Route) (index : Nat)
  | entry (parent : Route) (key : Text)
  /-- The value of a key that is no scalar. -/
  | unnamed (parent : Route)
  /-- What an alias stands for. -/
  | target (parent : Route)
deriving DecidableEq, Repr

namespace Route

/-- A way as text; the root is a point, which goes without saying in front of a name, but not behind an alias. -/
def toText : Route → Text
  | root => ['.']
  | item parent index => parent.toText ++ '[' :: (Nat.toDigits 10 index ++ [']'])
  | entry parent key => if parent = root then key else parent.toText ++ '.' :: key
  | unnamed parent => if parent = root then ['?'] else parent.toText ++ ['.', '?']
  | target parent => parent.toText

end Route

/-- Where a fault lies. -/
structure Place where
  route : Route
  mark : Mark
deriving DecidableEq, Repr

/-- A position in words, counted from one; the begin of the stream goes without saying. -/
def Mark.message (m : Mark) : String :=
  if m.line = 0 ∧ m.column = 0 then "" else s!" at line {m.line + 1} column {m.column + 1}"

/-- Why a document is refused. -/
inductive Fault
  /-- A value does not fit. -/
  | unfit (cause : DecodeFault) (place : Option Place)
  /-- Collections are nested too deeply. -/
  | tooDeep (mark : Mark)
  /-- Aliases are followed too often. -/
  | tooManyAliases
deriving Repr

namespace Fault

/-- The wording of a fault. -/
def message : Fault → String
  | unfit cause none => cause.message
  | unfit cause (some place) =>
    (if place.route.toText = Route.root.toText then "" else String.ofList place.route.toText ++ ": ") ++
      cause.message ++ place.mark.message
  | tooDeep mark => "recursion limit exceeded" ++ mark.message
  | tooManyAliases => "repetition limit exceeded"

/-- Gives a cause its place, unless it has one. -/
def placed (place : Place) : Fault → Fault
  | unfit cause none => unfit cause (some place)
  | fault => fault

end Fault

/-- A step of reading: it counts the aliases followed so far, and may find a fault. -/
abbrev Reading (α : Type) := StateT Nat (Except Fault) α

namespace Reading

/-- Refuses a value. -/
def refuse {α : Type} (cause : DecodeFault) : Reading α := throw (.unfit cause none)

/-- The answer of a rule that may refuse a value. -/
def ofExcept {α : Type} : Except DecodeFault α → Reading α
  | .ok a => pure a
  | .error cause => refuse cause

/-- Reads inside a node: a cause without a place gets that of the node. -/
def within {α : Type} (route : Route) (mark : Mark) (reading : Reading α) : Reading α := fun count =>
  (reading count).mapError (Fault.placed ⟨route, mark⟩)

end Reading

open Reading

/-- The depth to which collections may be nested. -/
def depthLimit : Nat := 128

/-- How often a document may follow aliases, for every unit of its size. -/
def aliasAllowance : Nat := 100

/-- The node itself, or the one that it is an alias of, with the way to it. -/
def follow (doc : Document) (route : Route) : Node → Reading (Route × Node)
  | .aliasOf mark number => do
    let count ← get
    set (count + 1)
    if doc.size * aliasAllowance < count + 1 then throw .tooManyAliases
    else pure (.target route, (doc.target? number).getD (.absent mark))
  | node => pure (route, node)

/-- Reads a node with what reads nodes that are no aliases, given the way to them. -/
def readNode {α : Type} (doc : Document) (route : Route) (node : Node) (read : Route → Node → Reading α) :
    Reading α :=
  within route node.mark do
    let (route, target) ← follow doc route node
    within route target.mark (read route target)

/-- Whether a node is a plain scalar without text. -/
def Node.isEmptyPlain : Node → Bool
  | .scalar _ _ true [] => true
  | _ => false

/-- Refuses a node that is of another type than expected. -/
def refuseNode {α : Type} (expected : String) : Node → Reading α
  | .scalar _ label isPlain text => do
    let value ← ofExcept (Value.ofScalar label.tag isPlain text)
    refuse (.wrongType value.found expected)
  | .mapping .. => refuse (.wrongType .map expected)
  | _ => refuse (.wrongType .sequence expected)

/-- Reads a text: any scalar, as it is written. -/
def readText (doc : Document) (expected : String) (route : Route) (node : Node) : Reading Text :=
  readNode doc route node fun
    | _, .scalar _ _ _ text => pure text
    | _, other => refuseNode expected other

/-- Reads the items of a sequence, the first of which has a given index. -/
def readItems {α : Type} (read : Route → Node → Reading α) (route : Route) :
    Nat → List Node → Reading (List α)
  | _, [] => pure []
  | index, node :: rest => do
    let a ← read (.item route index) node
    let as ← readItems read route (index + 1) rest
    pure (a :: as)

/-- Reads a list of texts; a value that is not written is an empty list. -/
def readTexts (doc : Document) (route : Route) (node : Node) : Reading (List Text) :=
  readNode doc route node fun
    | route, .sequence _ _ items => readItems (readText doc "a string") route 0 items
    | _, other => if other.isEmptyPlain then pure [] else refuseNode "a sequence" other

/-- The way to the value of a key. -/
def Route.toValue (route : Route) : Node → Route
  | .scalar _ _ _ key => .entry route key
  | _ => .unnamed route

/-- Reads the entries of a mapping of which nothing is wanted. -/
def scanEntries (scan : Route → Node → Reading Unit) (route : Route) : List (Node × Node) → Reading Unit
  | [] => pure ()
  | (k, v) :: rest => do
    scan route k
    scan (route.toValue k) v
    scanEntries scan route rest

/-- Refuses a node with a tag of the document's own. -/
def refuseOwnTag (label : Label) : Reading Unit :=
  if Value.isOwnTag label.tag then refuse .taggedLimit else pure ()

/-- Reads a value of any type, a collection with everything in it. The value of a collection is nothing. -/
def readValue (doc : Document) : Nat → Route → Node → Reading (Option Value)
  | depth, route, node => readNode doc route node fun
    | _, .scalar _ label isPlain text => do
      refuseOwnTag label
      let value ← ofExcept (Value.ofScalar label.tag isPlain text)
      match value.found with
      | .wide n => refuse (.wrongType (.wide n) "any value")
      | _ => pure (some value)
    | route, .sequence mark label items => do
      refuseOwnTag label
      match depth with
      | 0 => throw (.tooDeep mark)
      | depth + 1 =>
        let _ ← readItems (readValue doc depth) route 0 items
        pure none
    | route, .mapping mark label entries => do
      refuseOwnTag label
      match depth with
      | 0 => throw (.tooDeep mark)
      | depth + 1 =>
        scanEntries (fun route node => do let _ ← readValue doc depth route node) route entries
        pure none
    | _, .aliasOf .. => pure none

end RuleCap.Yaml
