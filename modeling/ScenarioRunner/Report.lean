import ScenarioRunner.Runner

/-! The report of a run and its file. -/
namespace ScenarioRunner

/-- All that a report tells. -/
structure Report where
  runId : String
  scenarioFiles : List String
  summary : RunSummary
  results : List CaseResult
  history : Option HistoryStats := none
  startedAt : String := ""
  completedAt : String := ""

namespace Report

def stepJson (r : Record) : Json := .obj [
  ("action", .str r.action),
  ("type", .str r.kind),
  ("pattern", .ofOption r.descriptor.ruleName),
  ("engine", .str r.descriptor.engine.name),
  ("success", .bool r.success),
  ("duration_ms", .int r.durationMs),
  ("error", .ofOption r.errorMessage)]

def caseJson (r : CaseResult) : Json := .obj [
  ("name", .str r.name),
  ("status", .str r.status.name),
  ("passed", .bool r.passed),
  ("duration_ms", .int r.durationMs),
  ("first_error", .ofOption r.firstError),
  ("failed_action", .ofOption r.failedAction),
  ("steps", .arr (r.records.map stepJson))]

def toJson (r : Report) : Json := .obj <| [
  ("run_id", .str r.runId),
  ("started_at", .str r.startedAt),
  ("completed_at", .str r.completedAt),
  ("scenario_files", .strings r.scenarioFiles),
  ("summary", r.summary.toJson),
  ("cases", .arr (r.results.map caseJson))] ++
  r.history.toList.map fun stats => ("history", stats.toJson)

/-- The file of a report in a folder. -/
def pathIn (r : Report) (dir : Path) : Path := dir.child s!"report_{r.runId}.json"

/-- Writes a report into a folder and gives the path of its file. -/
def write (r : Report) (dir : Path) : Attempt Path := do
  Attempt.onFiles (Outside.writeInto dir (r.pathIn dir) r.toJson.indented)
  return r.pathIn dir

end Report

end ScenarioRunner
