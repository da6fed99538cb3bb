import RuleCap.Settings
import RuleCap.Yaml.Reading

/-!
# Limits and settings in YAML

A limit is written on a line of its own, as a plain number where 64 bits hold it and as a text otherwise; the text is
put in single quotes where it would mean a number without them (`Limit.toYaml`). Settings are read from a mapping, of
which other keys are passed over; a document without content leaves everything at its default. `Numeral.ofYaml`,
`Limit.ofYaml` and `Settings.ofYaml` read streams.
-/

namespace RuleCap

/-- Why a YAML stream is refused. -/
inductive YamlFault
  /-- The stream is not well formed, or holds several documents. -/
  | syntaxFault
  /-- The document does not fit. -/
  | unfit (fault : Yaml.Fault)
deriving Repr

/-- The wording of a fault. -/
def YamlFault.message : YamlFault → String
  | .syntaxFault => "<yaml syntax error>"
  | .unfit fault => fault.message

namespace Yaml

open Reading

/-- Reads the form of a limit: an integer of 64 bits, or a text. -/
def readForm (doc : Document) (depth : Nat) (route : Route) (node : Node) : Reading Limit.Form := do
  match ← readValue doc depth route node with
  | some (.int n) => if Limit.fits n then pure (.integer n) else refuse .noLimitForm
  | some (.text t) => pure (.text t)
  | _ => refuse .noLimitForm

/-- Reads a numeral. -/
def readNumeral (doc : Document) (depth : Nat) (route : Route) (node : Node) : Reading Numeral := do
  match (← readForm doc depth route node).numeral? with
  | some n => pure n
  | none => refuse .notALimit

/-- Reads a limit. -/
def readLimit (doc : Document) (depth : Nat) (route : Route) (node : Node) : Reading Limit := do
  return .ofNumeral (← readNumeral doc depth route node)

/-- Reads an entry of settings. -/
def readSetting (doc : Document) (d : Settings.Draft) (k v : Node) : Reading Settings.Draft := do
  let name ← readText doc "field identifier" .root k
  let route := Route.root.toValue k
  if name = Settings.limitField then
    if d.limit.isSome then refuse (.repeated name)
    else do
      let limit ← readLimit doc (depthLimit - 1) route v
      pure { d with limit := some limit }
  else if name = Settings.prefixesField then
    if d.prefixes.isSome then refuse (.repeated name)
    else do
      let prefixes ← readTexts doc route v
      pure { d with prefixes := some prefixes }
  else pure d

/-- Reads the entries of settings, one after the other. -/
def readSettings (doc : Document) (node : Node) : Reading Settings :=
  readNode doc .root node fun
    | _, .mapping _ _ entries => do
      let draft ← entries.foldlM (fun d e => readSetting doc d e.1 e.2) Settings.Draft.empty
      pure draft.toSettings
    | _, other => if other.isEmptyPlain then pure Settings.default else refuseNode "struct TrimConfig" other

/-- Reads the document of a stream. -/
def readStream {α : Type} (read : Document → Reading α) (t : Text) : Except YamlFault α :=
  match document? t with
  | none => .error .syntaxFault
  | some doc =>
    match (read doc).run 0 with
    | .ok (a, _) => .ok a
    | .error fault => .error (.unfit fault)

end Yaml

/-- Writes a text without line breaks and quotes: in single quotes if it would not mean a text without them. -/
def Yaml.writeText (t : Text) : Text :=
  if Value.ofPlain t = .text t then t else '\'' :: (t ++ ['\''])

/-- Writes the form of a limit. -/
def Limit.Form.toYaml : Limit.Form → Text
  | .integer n => (Numeral.ofInt n).toText ++ ['\n']
  | .text t => Yaml.writeText t ++ ['\n']

/-- **Writes a numeral.** -/
def Numeral.toYaml (n : Numeral) : Text := (Limit.Form.ofNumeral n).toYaml

/-- **Writes a limit.** -/
def Limit.toYaml (l : Limit) : Text := l.form.toYaml

/-- **Reads a numeral.** -/
def Numeral.ofYaml : Text → Except YamlFault Numeral :=
  Yaml.readStream fun doc =>
    match doc.root with
    | some node => Yaml.readNumeral doc Yaml.depthLimit .root node
    | none => Yaml.Reading.refuse .noLimitForm

/-- **Reads a limit.** -/
def Limit.ofYaml (t : Text) : Except YamlFault Limit := (Numeral.ofYaml t).map ofNumeral

/-- **Reads settings.** -/
def Settings.ofYaml : Text → Except YamlFault Settings :=
  Yaml.readStream fun doc =>
    match doc.root with
    | some node => Yaml.readSettings doc node
    | none => pure Settings.default

end RuleCap
