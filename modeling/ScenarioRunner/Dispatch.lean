import ScenarioRunner.Context
import ScenarioRunner.History
import ScenarioRunner.Interpretation

/-! Carrying out descriptors on a session. Whatever happens, exactly one record comes of it, and it
is added to the history. -/
namespace ScenarioRunner

namespace Dispatch

/-- Words by which the shape of wanted data is guessed, in the order in which they are looked for. -/
def shapeWords : List (String × List String) := [
  ("list", ["列表", "表格", "所有", "list", "table", "all "]),
  ("text", ["文本", "内容", "信息", "text", "content"]),
  ("links", ["链接", "URL", "url", "link"])]

/-- A guess at the shape of wanted data. -/
def shapeOf (target : String) : String :=
  let small (s : String) := String.ofList (Text.lower s.toList)
  let mentions (word : String) := contains target word || contains (small target) (small word)
  ((shapeWords.find? fun entry => entry.2.any mentions).map (·.1)).getD "auto"

/-- The message of a failed rule: the rule, its pattern, the parameters, the script and the cause. -/
def ruleFailure (d : Descriptor) (cause : String) : String :=
  let filled (s : Option String) := s.filter (· != "")
  let pattern := match filled d.ruleSource with
    | some source => ["Pattern: " ++ source]
    | none => []
  joinLines (["Rule execution failed:", "Rule: " ++ (filled d.ruleName).getD "(unknown)"] ++ pattern ++
    ["Params: " ++ (Json.ofAssoc d.params).indented, "Code:", (filled d.script).getD "",
      "Cause: " ++ cause])

/-- Why a step came to nothing. -/
inductive Obstacle
  /-- The handler takes a parameter that is not there. -/
  | missingParam (name : String)
  | fault (f : Fault)
deriving DecidableEq, Repr

namespace Obstacle

def message : Obstacle → String
  | missingParam name => quoted name
  | fault f => f.message

/-- The message, or the class where the message is empty. -/
def text : Obstacle → String
  | missingParam name => quoted name
  | fault f => f.text

end Obstacle

/-- The message of a failed step. -/
def failureText (d : Descriptor) (obstacle : Obstacle) : String :=
  if d.engine == .rules && !d.isFallback then ruleFailure d obstacle.message else obstacle.text

/-- The address that a step asks for: what it names, the value of a variable of that name, or the
value of a placeholder that it is. Without a usable one it is the base address. -/
def targetUrl (url : Option String) (d : Descriptor) (context : Context) : String :=
  let value (name : String) := (context.values.override d.captured).get? name
  let wanted := match url.filter (· != "") with
    | none => none
    | some url =>
      match (value url).filter (· != "") with
      | some known => some known
      | none =>
        let chars := url.toList
        if 2 < chars.length && startsWith url "%" && endsWith url "%" then
          value (String.ofList (chars.drop 1).dropLast)
        else some url
  match wanted with
  | some wanted =>
    if wanted == "" || startsWith wanted "%" then context.baseUrl else wanted
  | none => context.baseUrl

def goto (d : Descriptor) (session : Session) (context : Context) : Attempt StepResult := do
  match d.move? with
  | some .refresh =>
    session.reload
    return .refreshed
  | some .back =>
    session.goBack
    return .wentBack
  | none =>
    let url := targetUrl (d.param? "url") d context
    session.navigate (.ofText url)
    return .opened url (← session.title)

/-- The key under which the data of a step is kept. -/
def storageKey (d : Descriptor) (target : String) : Outside String :=
  match d.filled? "variable" with
  | some name => return name
  | none => History.freshKey target

/-- Takes data from the page and keeps it, also when writing its file goes wrong. -/
def extract (h : History) (d : Descriptor) (target : String) (session : Session) :
    Outside (Except Fault StepResult × History) := do
  let shape := shapeOf target
  match ← (session.extract target (.ofText shape)).run with
  | .error fault => return (.error fault, h)
  | .ok data => do
    let key ← storageKey d target
    let kept := h.keep key data
    let written ← (kept.persistArtifact key data).run
    return (written.map fun _ => .extracted target shape key data (History.dataSize data), kept)

def observe (target : String) (session : Session) : Attempt StepResult := do
  let elements ← Attempt.ofExcept (Element.ofAnswer (← session.observe target))
  return .observed target elements

/-- Hands a task to an agent. A report with an error is a fault if the configuration says so. -/
def runTask (config : Config) (instruction : String) (session : Session) : Attempt StepResult := do
  let report ← Attempt.ofExcept (AgentReport.ofAnswer (← session.runTask instruction))
  let error := report.error.getD ""
  if error != "" && config.failOnAgentError then throw (.agentFailed error)
  return .agentDone instruction report

/-- Runs the script of a rule, hands the text to an agent, or has the session carry it out. -/
def act (config : Config) (d : Descriptor) (session : Session) : Attempt StepResult := do
  let script := d.script.filter (· != "")
  match d.engine, script with
  | .rules, some source =>
    let (outcome, _) ← Script.run session d.captured source
    return .scripted d.kind d.ruleName (← Attempt.ofExcept outcome)
  | .agent, script =>
    let instruction := (script <|> d.filled? "raw").getD d.resolved
    runTask config instruction session
  | _, _ => return .acted d.wording d.params (← session.act d.wording d.captured)

/-- What a handler came to, and the history that it leaves. -/
abbrev Ending := Except Obstacle StepResult × History

/-- Runs a handler that keeps data. -/
def handle (handler : Outside (Except Fault StepResult × History)) : Outside Ending := do
  let (outcome, h) ← handler
  return (outcome.mapError .fault, h)

/-- Runs a handler that leaves the history alone. -/
def handleWith (h : History) (handler : Attempt StepResult) : Outside Ending :=
  handle do return (← handler.run, h)

/-- Runs a handler on the parameter that it takes. -/
def withParam (h : History) (d : Descriptor) (name : String) (handler : String → Outside Ending) :
    Outside Ending :=
  match d.param? name with
  | some value => handler value
  | none => return (.error (.missingParam name), h)

/-- Carries out a descriptor by the handler of its kind. -/
def perform (config : Config) (h : History) (d : Descriptor) (session : Session) (context : Context) :
    Outside Ending :=
  match d.kind with
  | .goto => handleWith h (goto d session context)
  | .extract => withParam h d "target" fun target => handle (extract h d target session)
  | .observe => withParam h d "target" fun target => handleWith h (observe target session)
  | .agent =>
    withParam h d "instruction" fun instruction => handleWith h (runTask config instruction session)
  | .act | .template | .other _ => handleWith h (act config d session)

/-- The record of an outcome. -/
def recordOf (id : String) (d : Descriptor) (workflow : String) (start clock : Nat) :
    Except Obstacle StepResult → Record
  | .ok result =>
    { id, descriptor := d, success := true, result, durationMs := (clock : Int) - start, workflow
      timestamp := Timestamp.precise clock }
  | .error obstacle =>
    { id, descriptor := d, success := false, errorMessage := some (failureText d obstacle)
      durationMs := (clock : Int) - start, workflow, timestamp := Timestamp.precise clock }

/-- Carries out a descriptor and records what became of it. -/
def execute (config : Config) (h : History) (d : Descriptor) (session : Session) (workflow : String)
    (context : Context) : Outside (Record × History) := do
  let id ← Outside.freshId
  let start ← Outside.now
  let (outcome, h) ← match d.checked with
    | .ok d => perform config h d session context
    | .error fault => pure (.error (.fault fault), h)
  let record := recordOf (idText 12 id) d workflow start (← Outside.now) outcome
  return (record, h.append record)

end Dispatch

end ScenarioRunner
