import ScenarioRunner.Fault
import ScenarioRunner.Placeholder
import ScenarioRunner.Rule.Registry
import ScenarioRunner.Template
import ScenarioRunner.Text.LetterCase
import ScenarioRunner.Url

/-! From step texts to descriptors. The first rule whose expression is found in the text takes the
step; a step that no rule takes is carried out as it stands. -/
namespace ScenarioRunner

/-- A way to move that needs no address. -/
inductive Move
  | refresh
  | back
deriving DecidableEq, Repr

namespace Move

def name : Move → String
  | refresh => "refresh"
  | back => "back"

def refreshWords : List String := ["刷新", "重新加载", "refresh", "reload"]

def backWords : List String := ["返回", "后退", "back", "go back"]

/-- The move that an action word asks for, whatever its case and the blanks around it. -/
def ofAction? (action : Option String) : Option Move :=
  match action with
  | none => none
  | some action =>
    let word := String.ofList (Text.lower (Text.trim action.toList))
    if refreshWords.contains word then some refresh
    else if backWords.contains word then some back
    else none

end Move

namespace Descriptor

def param? (d : Descriptor) (name : String) : Option String := d.params.get? name

/-- A parameter that is not empty. -/
def filled? (d : Descriptor) (name : String) : Option String := (d.param? name).filter (· != "")

def move? (d : Descriptor) : Option Move := Move.ofAction? (d.param? "action")

/-- The descriptor has what its kind needs. -/
def isValid (d : Descriptor) : Bool :=
  let holds (text : String) := trimmed text != ""
  !d.invalid &&
    match d.kind with
    | .goto => (d.filled? "url").isSome || d.move?.isSome
    | .extract | .observe => holds ((d.param? "target").getD "")
    | .agent => holds ((d.param? "instruction").getD "")
    | .act | .template => holds ((d.filled? "raw").getD d.resolved)
    | .other _ => false

/-- The descriptor itself if it is valid. -/
def checked (d : Descriptor) : Except Fault Descriptor :=
  if d.isValid then .ok d else .error (.invalidStep d)

/-- The step in one line. -/
def describe (d : Descriptor) : String :=
  match d.kind with
  | .goto =>
    match d.move?, d.filled? "url" with
    | some .refresh, _ => "Refresh page"
    | some .back, _ => "Go back"
    | none, some url => "Navigate to: " ++ url
    | none, none => "Navigate: " ++ d.paramsText
  | .extract =>
    let into := match d.filled? "variable" with
      | some key => " -> " ++ key
      | none => ""
    "Extract: " ++ (d.param? "target").getD "" ++ into
  | .observe => "Observe: " ++ (d.param? "target").getD ""
  | .agent => "Agent task: " ++ (d.param? "instruction").getD ""
  | .template => "Run script: " ++ d.ruleName.getD "None"
  | .act | .other _ => "Act: " ++ (d.filled? "raw").getD d.resolved

end Descriptor

namespace Interpretation

/-- The parameters of a match: what each named group holds, trimmed, as far as it is not blank. -/
def paramsOf (rule : Rule) (m : Regex.Match) : Assoc String :=
  let named := (rule.groups.take rule.pattern.groups).mapIdx fun i name =>
    (name, String.ofList (Text.trim ((m.group? (i + 1)).getD [])))
  Assoc.ofPairs (named.filter fun entry => entry.2 != "")

/-- The address of a step that opens one is cleaned. -/
def cleanParams (rule : Rule) (params : Assoc String) : Assoc String :=
  match rule.kind == "goto", params.get? "url" with
  | true, some url => params.put "url" (sanitizeUrl url)
  | _, _ => params

/-- What stands in the slots of a template: parameters, then values of placeholders, then the
text of the step. -/
def templateValue? (params captured : Assoc String) (wording resolved : String) (name : String) :
    Option String :=
  params.get? name <|> captured.get? name <|>
    (if name == "original_text" then some wording
    else if name == "text" then some resolved
    else none)

/-- The script of a rule, filled in. -/
def scriptOf (rule : Rule) (params captured : Assoc String) (wording resolved : String) :
    Option String :=
  match rule.engine, rule.template with
  | .rules, some template =>
    if template == "" then none
    else some (Template.renderQuoted template (templateValue? params captured wording resolved))
  | _, _ => none

def ofMatch (wording : String) (r : Placeholder.Resolution) (rule : Rule) (m : Regex.Match) :
    Descriptor :=
  let params := cleanParams rule (paramsOf rule m)
  { kind := .ofName rule.kind
    wording
    resolved := r.text
    params
    captured := r.captured
    unresolved := r.unresolved
    ruleName := some rule.name
    ruleDescription := some rule.description
    ruleSource := some rule.source
    builtin := rule.builtin
    priority := rule.priority
    engine := rule.engine
    script := scriptOf rule params r.captured wording r.text }

/-- The descriptor of a step that no rule takes. -/
def fallback (wording : String) (r : Placeholder.Resolution) (reason : Option String) :
    Descriptor where
  kind := .act
  wording := wording
  resolved := r.text
  params := [("raw", r.text)]
  captured := r.captured
  unresolved := r.unresolved
  ruleName := some Descriptor.fallbackName
  ruleDescription := some "默认回退到直接执行"
  engine := .direct
  invalid := reason.isSome
  invalidReason := reason

/-- The first rule that takes a text, with its match. -/
def firstMatch? (registry : Registry) (text : String) : Option (Rule × Regex.Match) :=
  registry.rules.findSome? fun rule => (rule.pattern.search text.toList).map fun m => (rule, m)

/-- The descriptor of a step, with the placeholders resolved from a table of variables. -/
def interpret (registry : Registry) (step : String) (values : Assoc String) : Descriptor :=
  let wording := trimmed step
  if wording == "" then fallback "" ⟨"", [], []⟩ (some "empty step")
  else
    let r := Placeholder.resolve wording values
    match firstMatch? registry r.text with
    | some (rule, m) => ofMatch wording r rule m
    | none => fallback wording r none

end Interpretation

end ScenarioRunner
