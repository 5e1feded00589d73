import ScenarioRunner.Report
import ScenarioRunner.Rule.Document
import ScenarioRunner.Scenario.File

/-! A suite: all that a run needs, put together from a configuration. Running a suite reads scenario
files, runs their cases, closes all sessions, exports the history and writes the report. -/
namespace ScenarioRunner

structure Suite where
  runId : String
  /-- The folder for reports, screenshots and logs. -/
  reportDir : Path
  executor : Executor
  history : History
  context : Context

/-- What a run came to. -/
structure RunResult where
  runId : String
  /-- Seconds, with two decimals. -/
  duration : Binary64
  summary : RunSummary
  results : List CaseResult
  reportPath : Path
  exportPath : Path

/-- A run at its end: what it came to, the report that was written, and the history that is left. -/
structure CompletedRun where
  result : RunResult
  report : Report
  history : History

namespace Suite

/-- The client for the model; without a key for it there is none. -/
def connectModel (config : Config) (reportDir : Path) : Attempt (Option ModelClient) := do
  Attempt.onFiles (Outside.setDebugDir (reportDir.child "debug"))
  match ← (ModelClient.connect config.aiModel config.aiMaxTokens).outcome with
  | .ok client => return some client
  | .error fault => if fault.isSystemFault then return none else throw fault

/-- A provider with a browser of its own. -/
def browserProvider (config : Config) (reportDir : Path) : Attempt Provider := do
  return .browser
    { headless := config.headless
      width := config.viewportWidth
      height := config.viewportHeight
      client := ← connectModel config reportDir
      shots := some (reportDir.child "screenshots") }

/-- Puts a suite together, with a given provider of sessions or one of its own. -/
def assemble (config : Config) (provider : Option Provider) (environ : Assoc String) :
    Attempt Suite := do
  let id ← Outside.freshId
  let reportDir := Path.ofText config.reportOutputDir
  let readYaml ← Outside.readYaml
  let registry ← Attempt.ofExcept (Registry.ofFile readYaml (← get).files config.patternsFile)
  let provider ← match provider with
    | some provider => pure provider
    | none => browserProvider config reportDir
  return {
    runId := "run_" ++ idText 8 id
    reportDir
    executor := { registry, config, provider }
    history := History.start config.resultsDir config.persistExtracted
    context := Context.ofEnvironment config environ (some provider) }

variable (s : Suite)

/-- Closes all sessions and exports the history; done after every run, whatever came of it. -/
def conclude (history : History) : Attempt Path := do
  s.executor.provider.closeAll
  history.exportTo none History.exportLimit

/-- Runs the cases of scenario files, to the end. -/
def complete (files : List Path) : Attempt CompletedRun := do
  let start ← Outside.now
  let cases ← Attempt.ofExcept (Scenario.ofFiles (← get).files files)
  let (outcome, history) ← Runner.runCases s.executor s.context s.history cases
  let exportPath ← s.conclude history
  let results ← Attempt.ofExcept outcome.results
  let summary := RunSummary.ofResults outcome.finished
  let clock ← Outside.now
  let report : Report :=
    { runId := s.runId
      scenarioFiles := files.map (·.text)
      summary
      results
      history := some history.stats
      startedAt := Timestamp.toSecond start
      completedAt := Timestamp.toSecond clock }
  let reportPath ← report.write s.reportDir
  let duration := (Binary64.ofRatio false (clock - start) 1000).roundTo 2
  return {
    result := { runId := s.runId, duration, summary, results, reportPath, exportPath }
    report
    history }

/-- Runs the cases of scenario files. -/
def runFiles (files : List Path) : Attempt RunResult := do
  return (← s.complete files).result

/-- Runs the scenario files that paths stand for. -/
def run (paths : List String) : Attempt RunResult := do
  s.runFiles (← Attempt.ofExcept (Scenario.collect (← get).files paths))

end Suite

end ScenarioRunner
