import RuleCap.CommandLine.Nearness
import RuleCap.Decode
import RuleCap.Limit
import RuleCap.Text.Terminal

/-!
# Usage

What the command line of the program can hold, and what is said of one that can not be used: the fault, a tip if there
is one, how the program is used, and where more is found. `Stop.text` puts this together.
-/

namespace RuleCap.CommandLine

/-- What a word of the command line is for. -/
inductive Slot
  | path
  | limit
  | ignored
  | config
  | output
  | verbose
  | help
  | version
deriving DecidableEq, Repr

namespace Slot

/-- A slot as it is shown. -/
def label : Slot → String
  | path => "<PATH>"
  | limit => "[MAX_RULES]"
  | ignored => "[IGNORED]..."
  | config => "--config <CONFIG>"
  | output => "--output <OUTPUT>"
  | verbose => "--verbose..."
  | help => "--help"
  | version => "--version"

/-- Whether a slot is filled by place and not by name. -/
def isPositional : Slot → Bool
  | path => true
  | limit => true
  | ignored => true
  | _ => false

/-- Whether a slot is an option with a value. -/
def takesValue : Slot → Bool
  | config => true
  | output => true
  | _ => false

/-- The options by their long names. -/
def longNames : List (Text × Slot) :=
  [("config".toList, config), ("output".toList, output), ("verbose".toList, verbose), ("help".toList, help),
    ("version".toList, version)]

/-- The option with a long name. -/
def ofName? (name : Text) : Option Slot := longNames.lookup name

/-- The options by their letters. -/
def letters : List (Char × Slot) :=
  [('c', config), ('o', output), ('v', verbose), ('h', help), ('V', version)]

/-- The option with a letter. -/
def ofLetter? (c : Char) : Option Slot := letters.lookup c

/-- The long name of an option. -/
def longName (slot : Slot) : Text := ((longNames.find? (·.2 == slot)).map (·.1)).getD []

end Slot

/-- Why a command line can not be used. -/
inductive UsageFault
  /-- The path is missing. -/
  | missingPath (given : List Slot)
  /-- The limit is none. -/
  | badLimit (value : Text)
  /-- A value is missing or empty. -/
  | noValue (slot : Slot)
  /-- A word looks like an option and is none; it may be near to one. -/
  | unknown (word : Text) (near : Option Slot) (given : List Slot)
  /-- An option is given twice. -/
  | repeated (slot : Slot)
  /-- An option has a value and takes none; some slot may have been filled before it. -/
  | unneeded (value : Text) (slot : Slot) (afterOthers : Bool)
  /-- A word that has to be text is none. -/
  | notUtf8
deriving DecidableEq, Repr

/-- How the program is used, given what has been said of it already. -/
def usage (given : List Slot) : String :=
  if given.isEmpty then "Usage: trim [OPTIONS] <PATH> [MAX_RULES]"
  else
    let options := (given.filter fun slot => !slot.isPositional).eraseDups.map (·.label)
    let limit := if given.contains .limit then "<MAX_RULES>" else Slot.limit.label
    "Usage: trim " ++ " ".intercalate (options ++ [Slot.path.label, limit])

/-- What a use of the program can consist of, as it is shown where it is not known what is meant. -/
def usageChoices : String :=
  "<" ++ "|".intercalate ["PATH", "MAX_RULES", "IGNORED", Slot.config.label, Slot.output.label, Slot.verbose.label] ++ ">"

/-- How the program is used with an option that takes no value, before which other slots may have been filled. -/
def usageOfFlag (slot : Slot) (afterOthers : Bool) : String :=
  if !afterOthers then usage [slot]
  else if slot = .verbose then "Usage: trim " ++ usageChoices
  else "Usage: trim " ++ slot.label ++ " " ++ usageChoices

namespace UsageFault

/-- What is wrong. -/
def headline : UsageFault → String
  | missingPath _ => "the following required arguments were not provided:\n  <PATH>"
  | badLimit value =>
    s!"invalid value '{String.ofList value}' for '{Slot.limit.label}': {notALimitMessage}"
  | noValue slot => s!"a value is required for '{slot.label}' but none was supplied"
  | unknown word .. => s!"unexpected argument '{String.ofList word}' found"
  | repeated slot => s!"the argument '{slot.label}' cannot be used multiple times"
  | unneeded value slot _ =>
    s!"unexpected value '{String.ofList value}' for '{slot.label}' found; no more were expected"
  | notUtf8 => "invalid UTF-8 was detected in one or more arguments"

/-- What else is said: a tip and how the program is used. -/
def details : UsageFault → List String
  | missingPath given => [usage (given ++ [.path])]
  | badLimit _ => []
  | noValue _ => []
  | unknown word near given =>
    let word := String.ofList word
    match near with
    | some slot =>
      [s!"  tip: a similar argument exists: '--{String.ofList slot.longName}'", usage (given ++ [slot])]
    | none => [s!"  tip: to pass '{word}' as a value, use '-- {word}'", usage given]
  | repeated _ => [usage []]
  | unneeded _ slot afterOthers => [usageOfFlag slot afterOthers]
  | notUtf8 => [usage []]

/-- The wording of a fault, part by part. -/
def text (f : UsageFault) : String :=
  "\n\n".intercalate (("error: " ++ f.headline) :: (f.details ++ ["For more information, try '--help'.\n"]))

end UsageFault

/-- Why a command line leads to no trim. -/
inductive Stop
  /-- Help is asked for. -/
  | help
  /-- The version is asked for. -/
  | version
  /-- It can not be used. -/
  | refused (fault : UsageFault)
deriving DecidableEq, Repr

/-- The help, line by line. -/
def helpLines : List String :=
  ["Trim a filter list to a maximum number of rules, keeping its comment header",
    "",
    usage [],
    "",
    "Arguments:",
    "  <PATH>       Path to the filter list (rewritten in place unless --output is given)",
    "  [MAX_RULES]  Maximum number of rules to keep; negative keeps all but the last N " ++
      "[default: 800, or max_rules from --config]",
    "",
    "Options:",
    "  -c, --config <CONFIG>  Path to config file (YAML format)",
    "  -o, --output <OUTPUT>  Write the trimmed list here instead of overwriting the input",
    "  -v, --verbose...       Log more to stderr (-v for info, -vv for debug)",
    "  -h, --help             Print help",
    "  -V, --version          Print version"]

/-- The help. -/
def helpText : String := String.join (helpLines.map (· ++ "\n"))

/-- A fault with the words of the command line as a terminal would show them, each for itself. -/
def UsageFault.shown (medium : Terminal.Medium) : UsageFault → UsageFault
  | .badLimit value => .badLimit (Terminal.shown medium value)
  | .unknown word near given => .unknown (Terminal.shown medium word) near given
  | .unneeded value slot afterOthers => .unneeded (Terminal.shown medium value) slot afterOthers
  | fault => fault

namespace Stop

/-- The text of a stop, as it is put in some place. -/
def text (medium : Terminal.Medium) : Stop → String
  | help => helpText
  | version => "trim 0.1.0\n"
  | refused fault => (fault.shown medium).text

/-- Whether a stop is what was asked for. -/
def isAsked : Stop → Bool
  | help => true
  | version => true
  | refused _ => false

end Stop

end RuleCap.CommandLine
