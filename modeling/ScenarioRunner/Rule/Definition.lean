import ScenarioRunner.Json.Fields

/-! Rules as their authors write them, and tables of them by the kind of action they give. -/
namespace ScenarioRunner

structure RuleDefinition where
  name : String
  /-- The source of the regular expression that a step has to match. -/
  pattern : String
  /-- Names for the groups of the expression, in order. -/
  groups : List String := []
  priority : Int := 0
  description : String := ""
  template : Option String := none
  engine : Option String := none
deriving DecidableEq, Repr

/-- Definitions by the kind of action that they give. -/
abbrev RuleTable := Assoc (List RuleDefinition)

namespace RuleDefinition

/-- The names under which the pattern may be given; the first one present counts. -/
def patternNames : List String := ["pattern", "matcher", "matcherSource"]

def readPattern (fields : Assoc Json) : Checked String :=
  match patternNames.findSome? fields.get? with
  | some v => (Checked.text v).under "pattern"
  | none => .bad ["pattern"]

def ofFields (fields : Assoc Json) : Checked RuleDefinition :=
  RuleDefinition.mk
    <$> Checked.need fields "name" .text
    <*> readPattern fields
    <*> Checked.get fields "groups" (.list .text) []
    <*> Checked.get fields "priority" .int 0
    <*> Checked.get fields "description" .text ""
    <*> Checked.get fields "template" (.optional .text) none
    <*> Checked.get fields "engine" (.optional .text) none

/-- Reads an entry of a rule document; entries that do not fit are passed over. -/
def ofJson? : Json → Option RuleDefinition
  | .obj fields =>
    match ofFields fields with
    | .good definition => some definition
    | .bad _ => none
  | _ => none

def toJson (d : RuleDefinition) : Json := .obj [
  ("name", .str d.name),
  ("pattern", .str d.pattern),
  ("groups", .strings d.groups),
  ("priority", .int d.priority),
  ("description", .str d.description),
  ("template", .ofOption d.template),
  ("engine", .ofOption d.engine)]

end RuleDefinition

end ScenarioRunner
