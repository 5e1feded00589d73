import ScenarioRunner.World

/-! The actions that can be done on a page, one by one. -/
namespace ScenarioRunner

/-- One action on a page. Which of the fields count depends on its type. -/
structure PageAction where
  actionType : String
  /-- The position of the element in the catalogue of the page. -/
  elementIndex : Option Int := none
  selector : Option String := none
  value : Option String := none
  description : String := ""
deriving DecidableEq, Repr

namespace PageAction

def fields (a : PageAction) : List (String × Json) := [
  ("action_type", .str a.actionType),
  ("element_index", (a.elementIndex.map Json.int).getD .null),
  ("selector", .ofOption a.selector),
  ("value", .ofOption a.value),
  ("description", .str a.description)]

def toJson (a : PageAction) : Json := .obj a.fields

def ofFields (fields : Assoc Json) : Checked PageAction :=
  PageAction.mk
    <$> Checked.need fields "action_type" .text
    <*> Checked.get fields "element_index" (.optional .int) none
    <*> Checked.get fields "selector" (.optional .text) none
    <*> Checked.get fields "value" (.optional .text) none
    <*> Checked.get fields "description" .text ""

/-- What the action is called in reports: its description, or else its type. -/
def title (a : PageAction) : String := if a.description == "" then a.actionType else a.description

/-- A selector that is not empty. -/
def selector? (a : PageAction) : Option String := a.selector.filter (· != "")

/-- A value that is not empty. -/
def value? (a : PageAction) : Option String := a.value.filter (· != "")

/-- How long an action may wait for its element unless told otherwise. -/
def standardTimeout : Int := 10000

/-- The selector of an action that cannot do without one. -/
def needSelector (a : PageAction) : Except Fault String :=
  match a.selector? with
  | some selector => .ok selector
  | none => .error (.needsSelector a.actionType)

/-- Reads an integer. -/
def readInt (text : String) : Except Fault Int :=
  match Numeral.readInteger text.toList with
  | .ok n => .ok n
  | .error .malformed => .error (.notAnInteger text)
  | .error (.tooLong digits) => .error (.integerTooLong digits)

/-- The file of a screenshot. -/
def screenshotPath (a : PageAction) (shots : Option Path) : Path :=
  let name := a.value?.getD "screenshot"
  let name := if endsWith name ".png" then name else name ++ ".png"
  (shots.getD (Path.ofText "screenshots")).child name

variable (page : Nat)

/-- Calls the page for its effect alone. -/
def onPage (call : PageCall) : Attempt Unit := do
  let _ ← Attempt.call (.page page call)

def scroll (a : PageAction) (timeout : Int) : Attempt Unit := do
  match a.selector?, a.value? with
  | some selector, _ =>
    onPage page (.locate selector)
    onPage page (.scrollIntoView timeout)
  | none, some value => onPage page (.scrollTo (← Attempt.ofExcept (readInt value)))
  | none, none => onPage page .scrollToBottom

def wait (a : PageAction) (timeout : Int) : Attempt Unit := do
  match a.selector?, a.value? with
  | some selector, _ => onPage page (.waitForSelector selector timeout)
  | none, some value => onPage page (.waitFor (← Attempt.ofExcept (readInt value)))
  | none, none => onPage page (.waitFor 1000)

def screenshot (a : PageAction) (shots : Option Path) : Attempt String := do
  let path := a.screenshotPath shots
  Attempt.onFiles (Outside.changeFiles (·.makeFolders path.parent))
  onPage page (.screenshot path.text)
  return path.text

/-- Does an action on a page. A screenshot gives the path of its file, all else nothing. -/
def run (a : PageAction) (timeout : Int) (shots : Option Path) : Attempt (Option String) := do
  match a.actionType with
  | "click" =>
    onPage page (.click (← Attempt.ofExcept a.needSelector) timeout)
    return none
  | "fill" =>
    onPage page (.fill (← Attempt.ofExcept a.needSelector) (a.value.getD "") timeout)
    return none
  | "clear" =>
    onPage page (.fill (← Attempt.ofExcept a.needSelector) "" timeout)
    return none
  | "select" =>
    onPage page (.select (← Attempt.ofExcept a.needSelector) (a.value.getD "") timeout)
    return none
  | "hover" =>
    onPage page (.hover (← Attempt.ofExcept a.needSelector) timeout)
    return none
  | "scroll" =>
    a.scroll page timeout
    return none
  | "wait" =>
    a.wait page timeout
    return none
  | "keyboard" =>
    onPage page (.press (a.value?.getD "Enter"))
    return none
  | "screenshot" => return some (← a.screenshot page shots)
  | other => Attempt.ofExcept (.error (.unknownAction other))

end PageAction

end ScenarioRunner
