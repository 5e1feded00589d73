import ScenarioRunner.Json.Fields

/-! Descriptors: what a step asks for, once its text has been read. The kind says what is done, the
parameters with what, and the engine by whom: by a script of the rule, by an agent, or by the session
directly. -/
namespace ScenarioRunner

/-- What a step does. Rule tables may use further kinds, which nothing carries out. -/
inductive ActionKind
  | goto
  | extract
  | observe
  | agent
  | act
  | template
  | other (name : String)
deriving DecidableEq, Repr

namespace ActionKind

def name : ActionKind → String
  | goto => "goto"
  | extract => "extract"
  | observe => "observe"
  | agent => "agent"
  | act => "act"
  | template => "template"
  | other name => name

def ofName (name : String) : ActionKind :=
  if name == "goto" then goto
  else if name == "extract" then extract
  else if name == "observe" then observe
  else if name == "agent" then agent
  else if name == "act" then act
  else if name == "template" then template
  else other name

end ActionKind

/-- Who carries a step out. -/
inductive Engine
  | rules
  | agent
  | direct
  | other (name : String)
deriving DecidableEq, Repr

namespace Engine

def name : Engine → String
  | rules => "rules"
  | agent => "agent"
  | direct => "direct"
  | other name => name

def ofName (name : String) : Engine :=
  if name == "rules" then rules
  else if name == "agent" then agent
  else if name == "direct" then direct
  else other name

def isKnown : Engine → Bool
  | other _ => false
  | _ => true

end Engine

structure Descriptor where
  kind : ActionKind
  /-- The text of the step as it was written. -/
  wording : String
  /-- The text of the step with its placeholders resolved. -/
  resolved : String
  params : Assoc String := []
  /-- The values that were put into placeholders. -/
  captured : Assoc String := []
  unresolved : List String := []
  ruleName : Option String := none
  ruleDescription : Option String := none
  ruleSource : Option String := none
  builtin : Bool := true
  priority : Int := 0
  engine : Engine := .direct
  /-- The script of the rule, filled in for this step. -/
  script : Option String := none
  invalid : Bool := false
  invalidReason : Option String := none
deriving DecidableEq, Repr

namespace Descriptor

/-- The name under which a step stands that no rule took. -/
def fallbackName : String := "default_fallback"

def isFallback (d : Descriptor) : Bool := d.ruleName == some fallbackName

def toJson (d : Descriptor) : Json := .obj [
  ("kind", .str d.kind.name),
  ("original_text", .str d.wording),
  ("resolved_text", .str d.resolved),
  ("params", .ofAssoc d.params),
  ("captured_variables", .ofAssoc d.captured),
  ("unresolved_placeholders", .strings d.unresolved),
  ("matched_pattern_name", .ofOption d.ruleName),
  ("matched_pattern_description", .ofOption d.ruleDescription),
  ("matched_pattern_source", .ofOption d.ruleSource),
  ("is_builtin", .bool d.builtin),
  ("priority", .int d.priority),
  ("engine", .str d.engine.name),
  ("generated_code", .ofOption d.script),
  ("invalid", .bool d.invalid),
  ("invalid_reason", .ofOption d.invalidReason)]

/-- Reads a descriptor out of the fields of an object. -/
def ofFields (fields : Assoc Json) : Checked Descriptor :=
  Descriptor.mk
    <$> (ActionKind.ofName <$> Checked.need fields "kind" .text)
    <*> Checked.need fields "original_text" .text
    <*> Checked.need fields "resolved_text" .text
    <*> Checked.get fields "params" (.table .text) []
    <*> Checked.get fields "captured_variables" (.table .text) []
    <*> Checked.get fields "unresolved_placeholders" (.list .text) []
    <*> Checked.get fields "matched_pattern_name" (.optional .text) none
    <*> Checked.get fields "matched_pattern_description" (.optional .text) none
    <*> Checked.get fields "matched_pattern_source" (.optional .text) none
    <*> Checked.get fields "is_builtin" .bool true
    <*> Checked.get fields "priority" .int 0
    <*> (Engine.ofName <$> Checked.get fields "engine" .text "direct")
    <*> Checked.get fields "generated_code" (.optional .text) none
    <*> Checked.get fields "invalid" .bool false
    <*> Checked.get fields "invalid_reason" (.optional .text) none

/-- The parameters as they stand in messages. -/
def paramsText (d : Descriptor) : String := (Json.ofAssoc d.params).quotedText

end Descriptor

end ScenarioRunner
