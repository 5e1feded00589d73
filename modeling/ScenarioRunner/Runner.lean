import ScenarioRunner.Dispatch
import ScenarioRunner.Scenario

/-! Running test cases. The steps of a case are carried out one after another, up to the first one
that fails; all cases of a run are run, in order. -/
namespace ScenarioRunner

/-- All that is needed to carry out a single step. -/
structure Executor where
  registry : Registry
  config : Config
  provider : Provider

namespace Executor

/-- Carries out a step. Where no session can be had, there is no record. -/
def executeStep (e : Executor) (context : Context) (h : History) (step : Step) :
    Outside (Except Fault Record × History) := do
  match ← (e.provider.getSession step.workflow).run with
  | .error fault => return (.error fault, h)
  | .ok session => do
    let d := Interpretation.interpret e.registry step.action context.values
    let (record, h) ← Dispatch.execute e.config h d session step.workflow context
    return (.ok record, h)

end Executor

inductive CaseStatus
  | notStarted
  | running
  | passed
  | failed
  | other (name : String)
deriving DecidableEq, Repr

namespace CaseStatus

def name : CaseStatus → String
  | notStarted => "not_started"
  | running => "running"
  | passed => "passed"
  | failed => "failed"
  | other name => name

def ofName (name : String) : CaseStatus :=
  if name == "not_started" then notStarted
  else if name == "running" then running
  else if name == "passed" then passed
  else if name == "failed" then failed
  else other name

end CaseStatus

/-- What became of a test case. -/
structure CaseResult where
  name : String
  status : CaseStatus := .notStarted
  passed : Bool := false
  records : List Record := []
  firstError : Option String := none
  failedAction : Option String := none
  startTime : String := ""
  endTime : String := ""
  durationMs : Int := 0

namespace CaseResult

def ofFields (fields : Assoc Json) : Checked CaseResult :=
  let record : Json → Checked Record
    | .obj fields => Record.ofFields fields
    | _ => Checked.misfit
  CaseResult.mk
    <$> Checked.need fields "name" .text
    <*> (CaseStatus.ofName <$> Checked.get fields "status" .text "not_started")
    <*> Checked.get fields "passed" .bool false
    <*> Checked.get fields "step_records" (.list record) []
    <*> Checked.get fields "first_error" (.optional .text) none
    <*> Checked.get fields "failed_action" (.optional .text) none
    <*> Checked.get fields "start_time" .text ""
    <*> Checked.get fields "end_time" .text ""
    <*> Checked.get fields "duration_ms" .int 0

end CaseResult

/-- The records of steps that were carried out, and the step that failed. -/
structure Trail where
  records : List Record := []
  failure : Option (Step × Record) := none

namespace Runner

variable (e : Executor) (context : Context)

/-- Carries out steps up to the first one that fails. -/
def runSteps (h : History) : List Step → Outside (Except Fault Trail × History)
  | [] => return (.ok {}, h)
  | step :: rest => do
    match ← e.executeStep context h step with
    | (.error fault, h) => return (.error fault, h)
    | (.ok record, h) =>
      if record.success then
        let (outcome, h) ← runSteps h rest
        return (outcome.map fun trail => { trail with records := record :: trail.records }, h)
      else return (.ok { records := [record], failure := some (step, record) }, h)

/-- The result of a case, from its trail and the times at which it began and ended. -/
def resultOf (case : TestCase) (start clock : Nat) (trail : Trail) : CaseResult where
  name := case.name
  status := if trail.failure.isNone then .passed else .failed
  passed := trail.failure.isNone
  records := trail.records
  firstError := trail.failure.bind fun (_, record) => record.errorMessage
  failedAction := trail.failure.map fun (step, _) => step.action
  startTime := Timestamp.precise start
  endTime := Timestamp.precise clock
  durationMs := (clock : Int) - start

def runCase (h : History) (case : TestCase) : Outside (Except Fault CaseResult × History) := do
  let start ← Outside.now
  let (outcome, h) ← runSteps e context h case.steps
  let clock ← Outside.now
  return (outcome.map (resultOf case start clock), h)

/-- What became of a run: the results of all cases, or the first fault; and the results of the
cases that came to an end. -/
structure Outcome where
  results : Except Fault (List CaseResult)
  finished : List CaseResult

namespace Outcome

/-- The outcome with that of an earlier case in front. -/
def after (first : Except Fault CaseResult) (rest : Outcome) : Outcome :=
  match first with
  | .ok result =>
    { results := rest.results.map (result :: ·), finished := result :: rest.finished }
  | .error fault => { results := .error fault, finished := rest.finished }

end Outcome

/-- Runs cases in order. A case without a session does not keep the others from running. -/
def runCases (h : History) : List TestCase → Outside (Outcome × History)
  | [] => return ({ results := .ok [], finished := [] }, h)
  | case :: rest => do
    let (first, h) ← runCase e context h case
    let (others, h) ← runCases h rest
    return (.after first others, h)

end Runner

/-- The counts of a run. -/
structure RunSummary where
  totalCases : Int := 0
  passedCases : Int := 0
  failedCases : Int := 0
  totalSteps : Int := 0
  passedSteps : Int := 0
  /-- Percent of the cases that passed, with one decimal. -/
  successRate : Binary64 := .zero false
deriving DecidableEq, Repr

namespace RunSummary

def ofResults (results : List CaseResult) : RunSummary :=
  let total := results.length
  let passed := results.countP (·.passed)
  let records := results.flatMap (·.records)
  { totalCases := total
    passedCases := passed
    failedCases := (total : Int) - passed
    totalSteps := records.length
    passedSteps := records.countP (·.success)
    successRate := if total = 0 then .zero false else (percentage passed total).roundTo 1 }

def toJson (s : RunSummary) : Json := .obj [
  ("total_cases", .int s.totalCases),
  ("passed_cases", .int s.passedCases),
  ("failed_cases", .int s.failedCases),
  ("total_steps", .int s.totalSteps),
  ("passed_steps", .int s.passedSteps),
  ("success_rate", .float s.successRate)]

def ofFields (fields : Assoc Json) : Checked RunSummary :=
  RunSummary.mk
    <$> Checked.get fields "total_cases" .int 0
    <*> Checked.get fields "passed_cases" .int 0
    <*> Checked.get fields "failed_cases" .int 0
    <*> Checked.get fields "total_steps" .int 0
    <*> Checked.get fields "passed_steps" .int 0
    <*> Checked.get fields "success_rate" .double (.zero false)

end RunSummary

end ScenarioRunner
