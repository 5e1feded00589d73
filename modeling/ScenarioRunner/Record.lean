import ScenarioRunner.Script.Run

/-! Records of what became of steps, and the counts that are taken of them. -/
namespace ScenarioRunner

/-- An element of a page that was found. -/
structure Element where
  index : Nat
  description : String := ""
  selector : String := ""
  type : String := ""
  attributes : List (String × Json) := []

namespace Element

def toJson (e : Element) : Json := .obj [
  ("index", .ofNat e.index),
  ("description", .str e.description),
  ("selector", .str e.selector),
  ("type", .str e.type),
  ("attributes", .obj e.attributes)]

/-- A field of a found element, where it holds something. -/
def filled? (raw : Json) (name : String) : Option Json := (raw.field? name).filter Json.truthy

/-- The element with a number, from what a session says about it. What is missing stays empty. -/
def ofJson (index : Nat) (raw : Json) : Checked Element :=
  let text name := match filled? raw name with
    | some v => (Checked.text v).under name
    | none => pure ""
  Element.mk index <$> text "description" <*> text "selector" <*> text "type" <*>
    (match filled? raw "attributes" with
      | some v => (Checked.table Checked.any v).under "attributes"
      | none => pure [])

def ofItems (index : Nat) : List Json → Except Fault (List Element)
  | [] => .ok []
  | raw :: rest =>
    match ofJson index raw with
    | .bad places => .error (.misfits places)
    | .good element => do return element :: (← ofItems (index + 1) rest)

/-- The elements in the answer of a session, numbered from one on. -/
def ofAnswer (answer : Json) : Except Fault (List Element) := do
  ofItems 1 (← if answer.truthy then answer.items else pure [])

end Element

namespace AgentReport

def ofFields (fields : Assoc Json) : Checked AgentReport :=
  AgentReport.mk
    <$> Checked.get fields "steps" (.list .any) []
    <*> Checked.get fields "result" .any .null
    <*> Checked.get fields "error" (.optional .text) none
    <*> Checked.get fields "completed" .bool false

/-- The steps in the answer of a session; a bare number stands for that many steps. -/
def stepsOf (v : Json) : Except Fault (List Json) :=
  match v with
  | .int n => .ok (List.replicate n.toNat .null)
  | .bool b => .ok (List.replicate b.toNat .null)
  | v => v.items

/-- The report in the answer of a session. -/
def ofAnswer : Reply → Except Fault AgentReport
  | .report r => .ok r
  | .data v => do
    let field name := (v.field? name).getD .null
    let steps ← if (field "steps").truthy then stepsOf (field "steps") else pure []
    match Checked.optional .text (field "error") with
    | .good error =>
      return { steps, result := field "result", error, completed := (field "completed").truthy }
    | .bad _ => .error (.misfits ["error"])

end AgentReport

/-- What a step came to. -/
inductive StepResult
  | refreshed
  | wentBack
  | opened (url : String) (title : Json)
  | extracted (target shape key : String) (data : Json) (size : Nat)
  | observed (target : String) (elements : List Element)
  | agentDone (instruction : String) (report : AgentReport)
  | scripted (kind : ActionKind) (rule : Option String) (result : Script.Result)
  | acted (action : String) (params : Assoc String) (result : Json)
  /-- A result that was not produced here. -/
  | other (v : Json)

namespace StepResult

def toJson : StepResult → Json
  | refreshed => .obj [("type", .str "goto"), ("action", .str "refresh")]
  | wentBack => .obj [("type", .str "goto"), ("action", .str "go_back")]
  | opened url title => .obj [("type", .str "goto"), ("url", .str url), ("page_title", title)]
  | extracted target shape key data size => .obj [
    ("type", .str "extract"),
    ("target", .str target),
    ("shape", .str shape),
    ("storage_key", .str key),
    ("data", data),
    ("data_size", .ofNat size)]
  | observed target elements => .obj [
    ("type", .str "observe"),
    ("target", .str target),
    ("elements_found", .ofNat elements.length),
    ("elements", .arr (elements.map (·.toJson)))]
  | agentDone instruction report => .obj [
    ("type", .str "agent"),
    ("instruction", .str instruction),
    ("steps", .ofNat report.steps.length),
    ("result", report.result),
    ("error", .ofOption report.error),
    ("completed", .bool report.completed)]
  | scripted kind rule result => .obj [
    ("type", .str kind.name),
    ("engine", .str Engine.rules.name),
    ("rule", .ofOption rule),
    ("script", result.toJson)]
  | acted action params result => .obj [
    ("type", .str "act"),
    ("action", .str action),
    ("params", .ofAssoc params),
    ("result", result)]
  | other v => v

end StepResult

/-- What became of a step. -/
structure Record where
  id : String
  descriptor : Descriptor
  success : Bool
  result : StepResult := .other .null
  errorMessage : Option String := none
  durationMs : Int := 0
  workflow : String := ""
  timestamp : String := ""

namespace Record

def kind (r : Record) : String := r.descriptor.kind.name

/-- The text of the step as it was written. -/
def action (r : Record) : String := r.descriptor.wording

def toJson (r : Record) : Json := .obj [
  ("id", .str r.id),
  ("descriptor", r.descriptor.toJson),
  ("success", .bool r.success),
  ("result", r.result.toJson),
  ("error_message", .ofOption r.errorMessage),
  ("duration_ms", .int r.durationMs),
  ("workflow_id", .str r.workflow),
  ("timestamp", .str r.timestamp)]

/-- Reads a descriptor as a part of something larger. -/
def readDescriptor : Json → Checked Descriptor
  | .obj fields => Descriptor.ofFields fields
  | _ => Checked.misfit

def ofFields (fields : Assoc Json) : Checked Record :=
  Record.mk
    <$> Checked.need fields "id" .text
    <*> Checked.need fields "descriptor" readDescriptor
    <*> Checked.need fields "success" .bool
    <*> (StepResult.other <$> Checked.get fields "result" .any .null)
    <*> Checked.get fields "error_message" (.optional .text) none
    <*> Checked.get fields "duration_ms" .int 0
    <*> Checked.get fields "workflow_id" .text ""
    <*> Checked.get fields "timestamp" .text ""

end Record

end ScenarioRunner
