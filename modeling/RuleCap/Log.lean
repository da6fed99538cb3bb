import RuleCap.Pattern
import RuleCap.Text.Terminal

/-!
# Log

Records of what a run does, each from one part of the program and at one level. A filter lets through the records of a
level or a graver one, by default for all parts alike; a filter given as text (`Filter.ofText`) can also name the parts
it is for, and of the entries that fit a part the one with the longest name decides. Behind a slash it can hold a pattern
that has to be found in the text of a record.
-/

namespace RuleCap.Log

/-- How grave a record is, or how much a filter lets through. -/
inductive Level
  | off
  | error
  | warn
  | info
  | debug
  | trace
deriving DecidableEq, Repr

namespace Level

/-- The place of a level, the gravest first. -/
def rank : Level → Nat
  | off => 0
  | error => 1
  | warn => 2
  | info => 3
  | debug => 4
  | trace => 5

/-- All levels. -/
def all : List Level := [off, error, warn, info, debug, trace]

/-- The name of a level. -/
def name : Level → String
  | off => "off"
  | error => "error"
  | warn => "warn"
  | info => "info"
  | debug => "debug"
  | trace => "trace"

/-- The level with a name, in capitals or not. -/
def ofText? (t : Text) : Option Level :=
  all.find? fun level => level.name.toList == t.map Char.toLower

/-- The name of a level in capitals. -/
def label (level : Level) : String := String.ofList (level.name.toList.map Char.toUpper)

end Level

/-- The part of the program that a record comes from. -/
inductive Source
  | command
  | settings
  | listing
  | trim
deriving DecidableEq, Repr

/-- The name of a part, as filters know it. -/
def Source.name : Source → String
  | .command => "trim"
  | .settings => "filtertrim_core::config"
  | .listing => "filtertrim_core::document"
  | .trim => "filtertrim_core::processor"

/-- A record. -/
structure Record where
  level : Level
  source : Source
  text : String
deriving DecidableEq, Repr

/-- A record as a line; what follows a line break in its text stands on a line of its own, four columns in. Only what a
terminal would show is written. -/
def Record.line (r : Record) : String :=
  let level := r.level.label.toList.rightpad 5 ' '
  let text := List.intercalate ['\n', ' ', ' ', ' ', ' '] (pieces '\n' r.text.toList)
  String.ofList (Terminal.shown .stream ('[' :: level ++ [']', ' '] ++ text ++ ['\n']))

/-- An entry of a filter: the begin of the names of the parts it is for, all parts if there is none, and what it lets
through of them. -/
structure Rule where
  target : Option Text
  level : Level
deriving DecidableEq, Repr

namespace Rule

/-- Whether a rule is for a part. -/
def covers (rule : Rule) (source : Source) : Bool :=
  rule.target.all fun target => target.isPrefixOf source.name.toList

/-- The length of the name in a rule. -/
def length (rule : Rule) : Nat := (rule.target.getD []).length

end Rule

/-- What is let through: by rules, and by a pattern for the text. -/
structure Filter where
  rules : List Rule
  pattern : Option Pattern

/-- Why a part of a filter given as text is ignored. -/
inductive FilterFault
  /-- There is more than one slash. -/
  | slashes (spec : Text)
  /-- An entry, or the level in it, stands for nothing. -/
  | entry (text : Text)
  /-- The pattern is of no use. -/
  | pattern (text : Text) (refusal : Pattern.Refusal)

/-- The wording of a fault. -/
def FilterFault.message : FilterFault → String
  | slashes spec => s!"invalid logging spec '{String.ofList spec}' (too many '/'s)"
  | entry text => s!"invalid logging spec '{String.ofList text}'"
  | pattern text refusal => s!"invalid regex filter - {refusal.message text}"

namespace Filter

/-- The filter that lets through a level and graver ones. -/
def upTo (level : Level) : Filter := ⟨[⟨none, level⟩], none⟩

/-- The rule with the longer name, the later one if they are equally long. -/
def longer (best : Option Rule) (rule : Rule) : Option Rule :=
  match best with
  | some b => if b.length ≤ rule.length then some rule else some b
  | none => some rule

/-- Whether a record gets through. -/
def admits (f : Filter) (r : Record) : Bool :=
  match (f.rules.filter (·.covers r.source)).foldl longer none with
  | some rule => r.level.rank ≤ rule.level.rank && f.pattern.all (·.isFoundIn r.text.toList)
  | none => false

/-- The rules with one more, in the place of one for the same parts if there is one. -/
def put (rules : List Rule) (rule : Rule) : List Rule :=
  if rules.any (·.target == rule.target) then rules.map fun r => if r.target = rule.target then rule else r
  else rules ++ [rule]

/-- What an entry stands for: a level, a part, or a part with its level; or the text in it that stands for nothing. -/
def readRule (entry : Text) : Except Text Rule :=
  match pieces '=' entry with
  | [one] =>
    match Level.ofText? one with
    | some level => .ok ⟨none, level⟩
    | none => .ok ⟨some one, .trace⟩
  | [target, level] =>
    let level := trimWith isSpace level
    if level.isEmpty then .ok ⟨some target, .trace⟩
    else
      match Level.ofText? level with
      | some level => .ok ⟨some target, level⟩
      | none => .error level
  | _ => .error entry

/-- The rules of some entries, with commas between them, and what is wrong with those that stand for nothing. -/
def readRules (t : Text) : List Rule × List FilterFault :=
  (((pieces ',' t).map (trimWith isSpace)).filter (!·.isEmpty)).foldl (fun (rules, faults) entry =>
    match readRule entry with
    | .ok rule => (put rules rule, faults)
    | .error bad => (rules, faults ++ [.entry bad])) ([], [])

/-- **The filter that a text stands for**, and what is wrong with the text. Without any entry that stands for something,
only errors get through. -/
def ofText (t : Text) : Filter × List FilterFault :=
  let withRules (rules : List Rule) (pattern : Option Pattern) : Filter :=
    ⟨if rules.isEmpty then (upTo .error).rules else rules, pattern⟩
  match pieces '/' t with
  | [entries] =>
    let (rules, faults) := readRules entries
    (withRules rules none, faults)
  | [entries, text] =>
    let (rules, faults) := readRules entries
    match Pattern.ofText text with
    | .ok pattern => (withRules rules (some pattern), faults)
    | .error refusal => (withRules rules none, faults ++ [.pattern text refusal])
  | _ => (withRules [] none, [.slashes t])

/-- The warnings of some faults, each on a line of its own. -/
def warnings (faults : List FilterFault) : String :=
  String.join (faults.map fun fault => s!"warning: {fault.message}, ignoring it\n")

/-- The filter for a number of requests to say more. -/
def ofVerbosity (n : Nat) : Level :=
  if n = 0 then .warn else if n = 1 then .info else .debug

end Filter

/-- The records that get through, as lines. -/
def render (f : Filter) (records : List Record) : String :=
  String.join ((records.filter f.admits).map (·.line))

end RuleCap.Log
