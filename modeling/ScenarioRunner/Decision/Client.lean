import ScenarioRunner.Decision.Reply
import ScenarioRunner.Timestamp
import ScenarioRunner.World

/-! Asking the model. Every exchange is kept in a log file of its own, so that a failed step can be
followed by reading what the model saw. -/
namespace ScenarioRunner

namespace Outside

/-- How many decisions were asked for so far. -/
def decisionsAsked : Outside Nat := do
  return (← get).calls.countP fun
    | .askModel _ => true
    | _ => false

/-- The folder of the logs unless another one has been set. -/
def standardDebugDir : Path := Path.ofText "itest-reports/debug"

/-- Sets the folder of the logs, and makes it. -/
def setDebugDir (dir : Path) : Outside (Except FileTrouble Unit) := do
  modify fun w => { w with debugDir := some dir }
  changeFiles (·.makeFolders dir)

end Outside

namespace ModelClient

/-- The name of the variable that holds the key for the model. -/
def keyName : String := "ANTHROPIC_API_KEY"

/-- Connects to the model with the key from the environment. -/
def connect (model : String) (maxTokens : Int) : Attempt ModelClient := do
  match (← Outside.environ).get? keyName with
  | some key =>
    if key == "" then throw .noModelKey
    else
      let _ ← Attempt.call (.connectModel key)
      return { model, maxTokens }
  | none => throw .noModelKey

/-- A text under a headline that counts its characters. -/
def titled (title text shown : String) : String :=
  s!"=== {title} ({text.length} chars) ===\n{shown}"

/-- The log of an exchange. -/
def exchangeText (number clock : Nat) (system message reply error : String) : String :=
  let sections :=
    [s!"=== DECISION CALL #{number} at {Timestamp.inLog clock} ===",
      titled "SYSTEM PROMPT" system system, titled "PAGE AND STEP" message message,
      titled "REPLY" reply (if reply == "" then "(empty)" else reply)]
  let errors := if error == "" then [] else ["=== ERROR ===\n" ++ error]
  "\n\n".intercalate (sections ++ errors) ++ "\n"

/-- Writes the log of an exchange. Where that is not possible there is no log. -/
def saveExchange (number : Nat) (system message reply error : String) : Outside Unit := do
  let clock ← Outside.now
  let dir := (← get).debugDir.getD Outside.standardDebugDir
  let name := s!"ai_call_{Timestamp.inFileName clock}_{Timestamp.padded 3 number}.log"
  let _ ← Outside.writeInto dir (dir.child name)
    (exchangeText number clock system message reply error)

/-- How freely the model chooses its words. -/
def standardTemperature : Json := .float (.ofDecimal false 2 (-1))

/-- The text of a reply. -/
def replyText : Json → String
  | .str s => s
  | v => v.display

/-- Asks for one decision. -/
def complete (c : ModelClient) (system message : String) (maxTokens : Option Int)
    (temperature : Json) : Attempt String := do
  let number := (← Outside.decisionsAsked) + 1
  let limit := match maxTokens with
    | some n => if n = 0 then c.maxTokens else n
    | none => c.maxTokens
  let request : ModelRequest := ⟨c.model, limit, temperature, system, message⟩
  match ← (Attempt.call (.askModel request)).outcome with
  | .ok v =>
    saveExchange number system message (replyText v) ""
    return replyText v
  | .error fault =>
    if fault.isModelFault then saveExchange number system message "" fault.message
    throw fault

/-- Asks for one decision and reads it. -/
def completeJson (c : ModelClient) (system message : String) (maxTokens : Option Int)
    (temperature : Json) : Attempt Json := do
  Attempt.ofExcept (Decision.read (← c.complete system message maxTokens temperature))

end ModelClient

end ScenarioRunner
