import ScenarioRunner.CommandLine.Arguments
import ScenarioRunner.CommandLine.Console
import ScenarioRunner.Suite.Debugging

/-! The commands of the command line. -/
namespace ScenarioRunner.CommandLine

open Talk

/-- A configuration that is no JSON or holds values that do not fit. -/
def isBadConfig : Fault → Bool
  | .misfits _ => true
  | .badJson _ => true
  | _ => false

/-- Complains about a configuration and ends the command. -/
def refuseConfig {α : Type} (complaint : String) (f : Fault) : Talk α := do
  if isBadConfig f then
    say s!"[red]{complaint}:[/red] {f.message}"
    stop (.exit 1)
  else stop (.fault f)

/-- The configuration of a file, or the standard one where the file is missing. -/
def loadConfig (path : String) : Talk Config := do
  match Config.loadOrDefault (← files) path with
  | .ok config => return config
  | .error f => refuseConfig s!"Invalid config file {path}" f

/-- What is not there, be it a file or a folder, was not found. -/
def isMissing (f : Fault) : Bool := f.label == "FileNotFoundError"

/-- The names and values of variables given as `NAME=VALUE`. -/
def readVariables : List String → Except String (Assoc String)
  | [] => .ok []
  | text :: rest => do
    match Text.cutAt? ['='] text.toList with
    | some (c :: name, value) =>
      return (String.ofList (c :: name), String.ofList value) :: (← readVariables rest)
    | _ => .error s!"expected NAME=VALUE, got {quoted text}"

/-! Running -/

def summaryTable (r : RunResult) : Item :=
  .table "Results Summary" ["Metric", "Value"] [
    ["Run ID", r.runId],
    ["Duration", s!"{r.duration.text}s"],
    ["Test Cases", toString r.summary.totalCases],
    ["Passed", s!"[green]{r.summary.passedCases}[/green]"],
    ["Failed", s!"[red]{r.summary.failedCases}[/red]"],
    ["Steps Passed", s!"{r.summary.passedSteps}/{r.summary.totalSteps}"],
    ["Success Rate", s!"{r.summary.successRate.text}%"]]

def failureRow (r : CaseResult) : List String :=
  [r.name, r.failedAction.getD "", (r.firstError.filter (· != "")).getD "unknown error"]

def failureTable (failed : List CaseResult) : Item :=
  .table "Failures" ["Case", "Step", "Error"] (failed.map failureRow)

/-- Shows what a run came to; it fails if a case failed. -/
def showRun (r : RunResult) : Talk Unit := do
  say "\n[bold green]Run Complete[/bold green]"
  showItem (summaryTable r)
  let failed := r.results.filter fun result => !result.passed
  if !failed.isEmpty then showItem (failureTable failed)
  say s!"  JSON: [blue]{r.reportPath.text}[/blue]"
  say s!"  EXPORT: [blue]{r.exportPath.text}[/blue]"
  if !failed.isEmpty then stop (.exit 1)

/-- A suite with a browser of its own. -/
def assemble (config : Config) : Talk Suite := do
  ofAttempt (Suite.assemble config none (← ofOutside Outside.environ))

def run (paths : List String) (configPath : String) (parallel : Option Int) : Talk Unit := do
  let config ← loadConfig configPath
  let config := match parallel with
    | some n => { config with maxParallelCases := max 1 n }
    | none => config
  let suite ← assemble config
  match ← ofOutside (suite.run paths).run with
  | .ok result => showRun result
  | .error f =>
    if isMissing f then
      say s!"[red]{f.message}[/red]"
      stop (.exit 1)
    else stop (.fault f)

/-! Debugging -/

/-- The commands that are accepted now, in the order in which they are offered. -/
def offered (d : Debugger) : List DebugCommand := DebugCommand.all.filter d.allowed.contains

def promptOf (d : Debugger) : Prompt where
  text := "Command (" ++ ", ".intercalate ((offered d).map fun c => c.key ++ "=" ++ c.name) ++ ")"
  choices := (offered d).map (·.key)

/-- Commands are given by the letters that are offered. -/
def operator : Operator where
  command? := fun d answer => if (promptOf d).choices.contains answer then some answer else none
  spent := some .inputEnded

/-- What is shown before a command is asked for. -/
def beforePrompt (d : Debugger) : List Item :=
  match d.state, d.currentStep?, d.lastRecord with
  | .pending, some step, _ =>
    let place := s!"step {d.index + 1}/{d.case.steps.length}"
    .text s!"\n[bold]{d.case.name}[/bold] {place}: {step.action}" ::
      (step.comment.filter (· != "")).toList.map fun comment => .text s!"  [dim]# {comment}[/dim]"
  | .failed, _, some record =>
    [.text s!"[red]Failed:[/red] {(Json.ofOption record.errorMessage).display}"]
  | _, _, _ => []

/-- What became of a case. -/
def caseLine (d : Debugger) : String :=
  let done := d.records.countP (·.success)
  s!"  {d.case.name}: {d.state.name} ({done}/{d.records.length} executions succeeded, " ++
    s!"{d.skipped.length} skipped)"

/-- The file that a path means: the path itself, or one in the folder of scenarios. -/
def scenarioFile (path : String) : Talk Path := do
  let there := (Path.ofText "tests/scenarios").join (Path.ofText path)
  if ← isThere (Path.ofText path) then return Path.ofText path
  else if ← isThere there then return there
  else
    say s!"[red]Scenario file not found: {path}[/red]"
    stop (.exit 1)

def debug (path configPath : String) (maxRetries : Int) : Talk Unit := do
  let config ← loadConfig configPath
  let file ← scenarioFile path
  say s!"Debugging [blue]{file.text}[/blue]"
  let suite ← assemble config
  let result ← ofOutside (suite.debug operator file maxRetries (← get).input)
  modify fun c => { c with
    items := c.items ++ result.seen.flatMap beforePrompt
    prompts := c.prompts ++ result.seen.map promptOf }
  let debuggers ← demand result.outcome
  if debuggers.isEmpty then say "[yellow]No test cases found[/yellow]"
  for d in debuggers do say (caseLine d)

/-! Looking -/

def originWord (d : Descriptor) : String := if d.builtin then "builtin" else "custom"

def descriptorTable (d : Descriptor) : Item :=
  let values := if d.captured.isEmpty then []
    else [["Variables", ", ".intercalate d.captured.keys]]
  let missing := if d.unresolved.isEmpty then []
    else [["Unresolved", "[yellow]" ++ ", ".intercalate d.unresolved ++ "[/yellow]"]]
  let script := (d.script.filter (· != "")).toList.map fun script =>
    ["Script", String.ofList (Text.trimEnd script.toList)]
  let rule := (Json.ofOption d.ruleName).display
  .table d.describe ["Field", "Value"] <|
    [["Type", d.kind.name],
      ["Pattern", s!"{rule} ({originWord d}, priority {d.priority})"],
      ["Engine", d.engine.name],
      ["Params", (Json.ofAssoc d.params).compact]] ++
    values ++ missing ++ script ++
    [["Valid", if d.isValid then "[green]yes[/green]" else "[red]no[/red]"]]

def interpret (step configPath : String) (values : List String) (asJson : Bool) : Talk Unit := do
  let config ← loadConfig configPath
  let registry ← demand (Registry.ofFile (← readYaml) (← files) config.patternsFile)
  let context := Context.ofEnvironment config (← ofOutside Outside.environ) none
  match readVariables values with
  | .error message => stop (.misuse (some message))
  | .ok values => do
    let context ← demand (context.withVariables (Assoc.ofPairs values))
    let d := Interpretation.interpret registry step context.values
    showItem (if asJson then .json d.toJson else descriptorTable d)

def ruleRow (kind : String) (rule : Rule) : List String :=
  [kind, rule.name, toString rule.priority, rule.origin, rule.engine.name, rule.description]

/-- How many rules there are. -/
def countText (s : Registry.Stats) : String :=
  s!"{s.total} ({s.builtin} builtin, {s.custom} custom)"

def patterns (configPath : String) (kind : Option String) : Talk Unit := do
  let config ← loadConfig configPath
  let registry ← demand (Registry.ofFile (← readYaml) (← files) config.patternsFile)
  let kinds := match kind.filter (· != "") with
    | some kind => [kind]
    | none => registry.kinds
  showItem (.table "Step Patterns" ["Type", "Name", "Priority", "Origin", "Engine", "Description"]
    (kinds.flatMap fun kind => (registry.rulesOf kind).map (ruleRow kind)))
  say ("Total: " ++ countText registry.stats)

def stepLabel (step : Step) : String :=
  match step.comment.filter (· != "") with
  | some comment => s!"{step.action}  [dim]# {comment}[/dim]"
  | none => step.action

def caseBranch (case : TestCase) : String × List String :=
  (s!"[bold]{case.name}[/bold] ({case.steps.length} steps)", case.steps.map stepLabel)

def parse (path : String) : Talk Unit := do
  match Scenario.ofFile (← files) (Path.ofText path) none with
  | .ok cases => showItem (.tree s!"[blue]{path}[/blue]" (cases.map caseBranch))
  | .error f =>
    if isMissing f then
      say s!"[red]Scenario file not found: {path}[/red]"
      stop (.exit 1)
    else stop (.fault f)

/-! Configuration -/

def yesWords : List String := ["y", "yes"]

def noWords : List String := ["n", "no", ""]

/-- Yes or no; an empty line means no. -/
def agreement? (line : String) : Option Bool :=
  let word := String.ofList (Text.trim (Text.lower line.toList))
  if yesWords.contains word then some true
  else if noWords.contains word then some false
  else none

/-- The address for a new configuration: the one given, or the line that is asked for. -/
def askBaseUrl (given : Option String) : Talk String := do
  match given with
  | some url => return url
  | none => do
    let line ← line
    return if line == "" then defaultBaseUrl else line

def writeConfig (baseUrl : String) : Talk Unit := do
  let config : Config := { baseUrl }
  let path := Path.ofText standardConfig
  ofAttempt (Attempt.onFiles (Outside.changeFiles (config.save · path)))
  say s!"[green]Created {path.text}[/green]"
  say "\nWrite scenarios under tests/scenarios/ and run:"
  say "  [blue]itest run tests/scenarios[/blue]"
  say "\nOptional: add your own step patterns in:"
  say s!"  [blue]{(Json.ofOption config.patternsFile).display}[/blue]"

/-- Writes a new configuration file; one that is there already only after a question. -/
def init (baseUrl : String) : Talk Unit := do
  if !(← isThere (Path.ofText standardConfig)) then writeConfig baseUrl
  else if ← answer agreement? then writeConfig baseUrl

/-- The configuration of a file, for checking it. -/
def checkConfig (path : String) : Talk Config := do
  match Config.load (← files) path with
  | .ok config => return config
  | .error f =>
    if isMissing f then
      say s!"[yellow]No config at {path}; defaults would be used[/yellow]"
      return {}
    else refuseConfig "Invalid config" f

def validateConfig (path : String) : Talk Unit := do
  let config ← checkConfig path
  say s!"[green]Config OK[/green] (base_url={config.baseUrl})"
  if let some file := config.patternsFile.filter (· != "") then
    if ← isThere (Path.ofText file) then
      let table ← demand (RuleTable.load (← readYaml) (← files) (some file))
      let count := table.foldl (fun n entry => n + entry.2.length) 0
      say s!"Custom patterns: {count} in {table.length} categories"
  let registry ← demand (Registry.ofFile (← readYaml) (← files) config.patternsFile)
  say ("Active patterns: " ++ countText registry.stats)

/-! All commands -/

def perform : Command → Talk Unit
  | .run paths config parallel => run paths config parallel
  | .debug path config maxRetries => debug path config maxRetries
  | .interpret step config values asJson => interpret step config values asJson
  | .patterns config kind => patterns config kind
  | .parse path => parse path
  | .init given => do init (← askBaseUrl given)
  | .validateConfig config => validateConfig config

/-- What a command asks for before its words are counted. -/
def askFirst : Command → Talk Unit
  | .init given => do
    let _ ← askBaseUrl given
  | _ => return ()

def follow : Option Request → Talk Unit
  | none => stop (.misuse none)
  | some .help => stop .help
  | some (.command c) => perform c
  | some (.surplus c) => do
    askFirst c
    stop (.misuse none)

/-- The lines of the input. -/
def inputLines (input : String) : List String :=
  let lines := (FileTree.unifyNewlines input.toList).splitOn '\n'
  (if lines.getLast? == some [] then lines.dropLast else lines).map String.ofList

/-- Runs the command that arguments ask for, with a text as input. -/
def execute (args : List String) (input : String) : Outside (Except Stop Unit × Console) :=
  (follow (read args)).run.run { input := inputLines input }

/-- The code with which a command ends. -/
def exitCode : Except Stop Unit → Nat
  | .ok () => 0
  | .error (.exit code) => code
  | .error .help => 0
  | .error (.misuse _) => 1
  | .error (.fault _) => 1

end ScenarioRunner.CommandLine
