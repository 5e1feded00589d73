import ScenarioRunner.Fault
import ScenarioRunner.Json.Reader
import ScenarioRunner.Json.Writer

/-! The configuration of a run and the file that keeps it. -/
namespace ScenarioRunner

/-- Where steps go that name no usable address. -/
def defaultBaseUrl : String := "http://localhost:3000"

structure Config where
  baseUrl : String := defaultBaseUrl
  /-- The document with custom rules. -/
  patternsFile : Option String := some "tests/config/step-patterns.yaml"
  resultsDir : String := "results/extracted-data"
  persistExtracted : Bool := true
  maxParallelCases : Int := 1
  failOnAgentError : Bool := false
  headless : Bool := true
  viewportWidth : Int := 1280
  viewportHeight : Int := 720
  aiModel : String := "claude-opus-4-6"
  aiMaxTokens : Int := 4000
  reportOutputDir : String := "./itest-reports"
  /-- Values for placeholders, beside those of the environment. -/
  values : Assoc String := []
deriving DecidableEq, Repr

namespace Config

def toJson (c : Config) : Json := .obj [
  ("base_url", .str c.baseUrl),
  ("patterns_file", .ofOption c.patternsFile),
  ("results_dir", .str c.resultsDir),
  ("persist_extracted", .bool c.persistExtracted),
  ("max_parallel_cases", .int c.maxParallelCases),
  ("fail_on_agent_error", .bool c.failOnAgentError),
  ("headless", .bool c.headless),
  ("viewport_width", .int c.viewportWidth),
  ("viewport_height", .int c.viewportHeight),
  ("ai_model", .str c.aiModel),
  ("ai_max_tokens", .int c.aiMaxTokens),
  ("report_output_dir", .str c.reportOutputDir),
  ("variables", .ofAssoc c.values)]

/-- Reads a configuration out of the fields of an object. At least one case runs at a time. -/
def ofFields (fields : Assoc Json) : Checked Config :=
  let standard : Config := {}
  Config.mk
    <$> Checked.get fields "base_url" .text standard.baseUrl
    <*> Checked.get fields "patterns_file" (.optional .text) standard.patternsFile
    <*> Checked.get fields "results_dir" .text standard.resultsDir
    <*> Checked.get fields "persist_extracted" .bool standard.persistExtracted
    <*> Checked.get fields "max_parallel_cases" (fun v => (Checked.int v).ensure (1 ≤ ·))
      standard.maxParallelCases
    <*> Checked.get fields "fail_on_agent_error" .bool standard.failOnAgentError
    <*> Checked.get fields "headless" .bool standard.headless
    <*> Checked.get fields "viewport_width" .int standard.viewportWidth
    <*> Checked.get fields "viewport_height" .int standard.viewportHeight
    <*> Checked.get fields "ai_model" .text standard.aiModel
    <*> Checked.get fields "ai_max_tokens" .int standard.aiMaxTokens
    <*> Checked.get fields "report_output_dir" .text standard.reportOutputDir
    <*> Checked.get fields "variables" (.table .text) standard.values

/-- Reads a configuration out of a JSON value, which has to be an object. -/
def ofJson : Json → Except Fault Config
  | .obj fields =>
    match ofFields fields with
    | .good config => .ok config
    | .bad places => .error (.misfits places)
  | _ => .error (.wrongType "the configuration must be an object")

/-- Reads a JSON document of a file. -/
def readDocument (text : String) : Except Fault Json :=
  match Json.readDocument true text.toList with
  | .ok v => .ok v
  | .error (.badText complaint left) =>
    .error (.badJson ((Json.Refusal.badText complaint left).message text.toList))
  | .error (.longInteger digits) => .error (.integerTooLong digits)

/-- Turns a trouble with files into a fault. -/
def onFiles {α : Type} (e : Except FileTrouble α) : Except Fault α := e.mapError .file

def load (files : FileTree) (path : String) : Except Fault Config := do
  let p := Path.ofText path
  if !(← onFiles (files.exists? p)) then .error (.missingConfig p.text)
  else ofJson (← readDocument (← onFiles (files.read p)))

/-- The configuration of a file, or the standard one where the file is missing. -/
def loadOrDefault (files : FileTree) (path : String) : Except Fault Config :=
  match load files path with
  | .error (.missingConfig _) => .ok {}
  | .error (.file (.notFound _)) => .ok {}
  | result => result

/-- Writes a configuration, and makes the folders that its file needs. -/
def save (c : Config) (files : FileTree) (path : Path) : Except FileTrouble FileTree := do
  (← files.makeFolders path.parent).write path c.toJson.indented

end Config

end ScenarioRunner
