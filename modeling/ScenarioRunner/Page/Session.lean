import ScenarioRunner.Decision.Client
import ScenarioRunner.Decision.Instruction
import ScenarioRunner.Decision.Question
import ScenarioRunner.Page.Action

/-! Sessions on a page of a browser. Moving about goes straight to the page. Carrying out a text,
extracting, observing and working on a task ask the model for a decision first and then act on the
page; the elements that a decision names by number are those of the catalogue it was asked with. -/
namespace ScenarioRunner

namespace PageAction

/-- The selector that goes with the number of an element: that of the element, if it has one. -/
def selectorIn (elements : List Json) (a : PageAction) : Except Fault (Option String) :=
  match a.elementIndex with
  | some (.ofNat i) =>
    match elements[i]? with
    | some element => do
      let v ← element.fieldOr "selector" .null
      return if v.truthy then some v.display else a.selector
    | none => .ok a.selector
  | _ => .ok a.selector

/-- The action that an entry of a decision asks for. Entries without a type of action are passed
over. -/
def ofDecision? (elements : List Json) (raw : Json) : Except Fault (Option PageAction) :=
  match raw.field? "action_type" with
  | none => .ok none
  | some type =>
    if !type.truthy then .ok none
    else
      let field name := (raw.field? name).getD .null
      let description := field "description"
      let read := PageAction.mk type.display
        <$> (Checked.optional .int (field "element_index")).under "element_index"
        <*> (Checked.optional .text (field "selector")).under "selector"
        <*> pure (if (field "value").isNull then none else some (field "value").display)
        <*> (if description.truthy then (Checked.text description).under "description"
          else pure "")
      match read with
      | .good a => do return some { a with selector := ← a.selectorIn elements }
      | .bad places => .error (.misfits places)

/-- The actions of a decision, in order. -/
def ofDecision (elements : List Json) (raw : Json) : Except Fault (List PageAction) := do
  let entries ← if raw.truthy then raw.items else pure []
  return (← entries.mapM (ofDecision? elements)).filterMap id

end PageAction

namespace PageSession

variable (p : PageSession)

def call (c : PageCall) : Attempt Json := Attempt.call (.page p.page c)

/-- The longest time that is waited for a page to go quiet. -/
def settleLimit : Int := 10000

/-- Waits until the page goes quiet; a page that never does is no fault. -/
def settle (timeout : Int) : Attempt Unit := do
  match ← (p.call (.settle (min timeout settleLimit))).outcome with
  | .ok _ => return ()
  | .error (.reported .pageTimeout _) => return ()
  | .error fault => throw fault

def navigate (url : Json) : Attempt Unit := do
  let _ ← p.call (.goto url)
  p.settle settleLimit

def goBack : Attempt Unit := do
  let _ ← p.call .goBack
  p.settle settleLimit

def reload : Attempt Unit := do
  let _ ← p.call .reload
  p.settle settleLimit

def title : Attempt Json := p.call .title

def close : Attempt Unit := do
  let _ ← Attempt.call (.closeContext p.context)

def url : Attempt String := do return (← read).pageUrl p.page

/-- The elements in the answer to a request for the catalogue. -/
def elementsOf : Json → Except Fault (List Json)
  | .arr elements => .ok elements
  | .str s => (Json.str s).items
  | .obj _ => .error (.wrongType "unhashable type: 'slice'")
  | v => .error (.wrongType s!"object of type '{Fault.typeWord v}' has no len()")

/-- The elements of the page with which one can interact. -/
def elements : Attempt (List Json) := do Attempt.ofExcept (elementsOf (← p.call .catalogue))

/-- The client for the model, which an operation cannot do without. -/
def needModel (operation : String) : Except Fault ModelClient :=
  match p.client with
  | some client => .ok client
  | none => .error (.needsModel operation)

/-- Asks for a decision. A reply that cannot be read is a fault of the session. -/
def decide (instruction question : String) : Attempt Json := do
  let client ← Attempt.ofExcept (p.needModel "ai decision")
  let asked := client.completeJson instruction question none ModelClient.standardTemperature
  match ← asked.outcome with
  | .ok decision => return decision
  | .error fault => if fault.isValueFault then throw (.noDecision fault.message) else throw fault

/-- Does actions one after another and collects what they give. -/
def runAll (timeout : Int) : List PageAction → Attempt (List String)
  | [] => return []
  | a :: rest => do
    let output ← a.run p.page timeout p.shots
    return output.toList ++ (← runAll timeout rest)

/-- Carries out a text once: takes the catalogue, asks for a decision, does its actions. -/
def actOnce (text : String) (timeout : Int) (values : Assoc String) : Attempt Json := do
  let elements ← p.elements
  let title ← p.title
  let question ← Attempt.ofExcept
    (Question.act text (← p.url) title elements (.ofAssoc values))
  let decision ← p.decide Instruction.act question
  let actions ← Attempt.ofExcept do
    PageAction.ofDecision elements (← decision.fieldOr "actions" (.arr []))
  if actions.isEmpty then
    let reasoning ← Attempt.ofExcept (decision.fieldOr "reasoning" (.str "no reasoning given"))
    throw (.noAction text reasoning.display)
  let outputs ← p.runAll timeout actions
  let reasoning ← Attempt.ofExcept (decision.fieldOr "reasoning" (.str ""))
  return .obj [("actions", .arr (actions.map (·.toJson))), ("outputs", .strings outputs),
    ("reasoning", reasoning)]

/-- Another attempt may get past this fault. -/
def isPassing (fault : Fault) : Bool :=
  fault.isPageFault || fault.isValueFault || fault.isBackendFault

/-- Tries up to so many more times to carry out a text; `last` tells of the attempt before. -/
def actUpTo (text : String) (timeout : Int) (values : Assoc String) (attempts : Int) :
    Nat → String → Attempt Json
  | 0, last => throw (.actFailed attempts last)
  | more + 1, _ => do
    match ← (p.actOnce text timeout values).outcome with
    | .ok result => return result
    | .error fault =>
      if isPassing fault then actUpTo text timeout values attempts more fault.message
      else throw fault

/-- Carries out a text, with a number of further attempts after a failed one. -/
def act (text : String) (timeout retries : Int) (values : Assoc String) : Attempt Json := do
  let _ ← Attempt.ofExcept (p.needModel "act")
  p.actUpTo text timeout values (retries + 1) (retries + 1).toNat "None"

/-- Takes data from the text of the page. -/
def extract (target shape : String) : Attempt Json := do
  let _ ← Attempt.ofExcept (p.needModel "extract")
  let pageText ← p.call .pageText
  let question ← Attempt.ofExcept (Question.extract target shape (← p.url) pageText)
  let decision ← p.decide Instruction.extract question
  Attempt.ofExcept (decision.fieldOr "data" .null)

/-- The number of an element in an entry of a decision. Truth values count as numbers here. -/
def indexOf? (entry : Json) : Option Int :=
  match entry.field? "element_index" with
  | some (.int i) => some i
  | some (.bool b) => some (if b then 1 else 0)
  | _ => none

/-- What is known about the element that an entry of a decision names; entries that name none are
passed over. -/
def observed? (elements : List Json) (entry : Json) : Except Fault (Option Json) :=
  match indexOf? entry with
  | some (.ofNat i) =>
    match elements[i]? with
    | some element => do
      let description := (entry.field? "description").getD .null
      let text ← element.fieldOr "text" (.str "")
      return some (.obj [
        ("description", if description.truthy then description else text),
        ("selector", ← element.fieldOr "selector" (.str "")),
        ("type", ← element.fieldOr "type" (.str "")),
        ("attributes", ← element.fieldOr "attributes" (.obj []))])
    | none => .ok none
  | _ => .ok none

/-- Looks for elements of the page. -/
def observe (target : String) : Attempt Json := do
  let _ ← Attempt.ofExcept (p.needModel "observe")
  let elements ← p.elements
  let question ← Attempt.ofExcept (Question.observe target (← p.url) elements)
  let decision ← p.decide Instruction.observe question
  let found ← Attempt.ofExcept do
    (← (← decision.fieldOr "elements" (.arr [])).items).mapM (observed? elements)
  return .arr (found.filterMap id)

/-- What an agent has done so far: a line for the model and an entry for the report of each step. -/
structure Progress where
  history : List String := []
  steps : List Json := []

namespace Progress

/-- Adds an action that was done in a turn, or that failed. -/
def add (progress : Progress) (turn : Nat) (a : PageAction) (failure : Option String) : Progress :=
  let step := ("turn", Json.ofNat turn) :: a.fields
  match failure with
  | none =>
    { history := progress.history ++ [a.title]
      steps := progress.steps ++ [.obj (step ++ [("success", .bool true)])] }
  | some error =>
    { history := progress.history ++ [s!"FAILED {a.title}: {error}"]
      steps := progress.steps ++ [.obj (step ++ [("success", .bool false), ("error", .str error)])] }

end Progress

/-- Does the actions of one turn. An action that fails does not keep the others from being done. -/
def runTurn (turn : Nat) : List PageAction → Progress → Attempt Progress
  | [], progress => return progress
  | a :: rest, progress => do
    match ← (a.run p.page PageAction.standardTimeout p.shots).outcome with
    | .ok _ => runTurn turn rest (progress.add turn a none)
    | .error fault =>
      if fault.isPageFault || fault.isValueFault then
        runTurn turn rest (progress.add turn a (some fault.message))
      else throw fault

/-- The report of a task whose end the model has decided on. -/
def finished (decision : Json) (steps : List Json) : Except Fault AgentReport := do
  let error ← decision.fieldOr "error" .null
  let result ← decision.fieldOr "result" .null
  match error with
  | .str s => return { steps, result, error := some s, completed := s == "" }
  | .null => return { steps, result, completed := true }
  | _ => .error (.misfits ["error"])

/-- Works on a task for so many more turns. -/
def taskTurns (instruction : String) (turns : Int) : Nat → Nat → Progress → Attempt AgentReport
  | 0, _, progress =>
    return { steps := progress.steps
             error := some s!"Stopped after {turns} steps without finishing" }
  | more + 1, turn, progress => do
    let elements ← p.elements
    let title ← p.title
    let question ← Attempt.ofExcept
      (Question.agent instruction progress.history (← p.url) title elements)
    let decision ← p.decide Instruction.agent question
    if (← Attempt.ofExcept (decision.fieldOr "done" .null)).truthy then
      Attempt.ofExcept (finished decision progress.steps)
    else
      let actions ← Attempt.ofExcept do
        PageAction.ofDecision elements (← decision.fieldOr "actions" (.arr []))
      taskTurns instruction turns more (turn + 1) (← p.runTurn turn actions progress)

/-- Works on a task turn by turn, until the model ends it or the turns are spent. -/
def runTask (instruction : String) (turns : Int) : Attempt AgentReport := do
  let _ ← Attempt.ofExcept (p.needModel "agent")
  p.taskTurns instruction turns turns.toNat 1 {}

end PageSession

end ScenarioRunner
