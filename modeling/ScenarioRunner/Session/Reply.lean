import ScenarioRunner.Json.Writer

/-! What sessions answer: plain data, or the report of an agent on its task. -/
namespace ScenarioRunner

/-- What an agent did for a task, and how it ended. -/
structure AgentReport where
  steps : List Json := []
  result : Json := .null
  error : Option String := none
  completed : Bool := false

namespace AgentReport

def toJson (r : AgentReport) : Json := .obj [
  ("steps", .arr r.steps),
  ("result", r.result),
  ("error", .ofOption r.error),
  ("completed", .bool r.completed)]

/-- The fields of the report with their values, in order. -/
def fieldTexts (r : AgentReport) : List String :=
  ["steps=" ++ (Json.arr r.steps).quotedText, "result=" ++ r.result.quotedText,
    "error=" ++ (Json.ofOption r.error).quotedText,
    "completed=" ++ (Json.bool r.completed).quotedText]

/-- The report on one line. -/
def text (r : AgentReport) : String := " ".intercalate r.fieldTexts

end AgentReport

inductive Reply
  | data (v : Json)
  | report (r : AgentReport)

namespace Reply

instance : Inhabited Reply := ⟨.data .null⟩

def ofText (s : String) : Reply := data (.str s)

def toJson : Reply → Json
  | data v => v
  | report r => r.toJson

/-- The text that expectations compare: a string as it stands, all else as JSON. -/
def text : Reply → String
  | data (.str s) => s
  | data v => v.compact
  | report r => (Json.str r.text).compact

/-- The reply as it stands in messages. -/
def quotedText : Reply → String
  | data v => v.quotedText
  | report r => "AgentTaskResult(" ++ ", ".intercalate r.fieldTexts ++ ")"

/-- The reply as a part of a text. -/
def display : Reply → String
  | data v => v.display
  | report r => r.text

/-- Nothing, an empty text, an empty list or an empty object. -/
def isEmpty : Reply → Bool
  | data .null => true
  | data (.str s) => s == ""
  | data (.arr items) => items.isEmpty
  | data (.obj fields) => fields.isEmpty
  | _ => false

end Reply

end ScenarioRunner
