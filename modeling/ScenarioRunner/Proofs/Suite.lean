import ScenarioRunner.Proofs.History
import ScenarioRunner.Proofs.Runner
import ScenarioRunner.Suite

/-! Runs of suites. The summary and the report count results, the statistics count the history; as
the history holds the records of the results and nothing else, all counts agree. -/
namespace ScenarioRunner

namespace RunSummary

/-- A case that failed has one record of a failure, so there are as many such records as cases. -/
theorem steps_ofResults {results : List CaseResult} {cases : List TestCase}
    (hAll : List.Forall₂ CaseResult.AccountsFor results cases) :
    (ofResults results).totalSteps - (ofResults results).passedSteps =
      (ofResults results).failedCases := by
  have hCount : (results.flatMap (·.records)).length + results.countP (·.passed) =
      (results.flatMap (·.records)).countP (·.success) + results.length := by
    induction hAll with
    | nil => rfl
    | @cons result case rest cases hResult hRest ih =>
        have hRecords := hResult.length_records
        simp only [List.flatMap_cons, List.length_append, List.countP_append, List.countP_cons,
          List.length_cons]
        cases hPassed : result.passed <;> simp only [hPassed, Bool.false_eq_true, if_false, if_true]
          at hRecords ⊢ <;> omega
  simp only [ofResults]
  omega

end RunSummary

namespace Json

/-- The value at the end of a path of fields. -/
def at? (v : Json) : List String → Option Json
  | [] => some v
  | name :: rest => (v.field? name).bind (·.at? rest)

def intAt? (v : Json) (path : List String) : Option Int :=
  match v.at? path with
  | some (.int n) => some n
  | _ => none

def listAt (v : Json) (path : List String) : List Json :=
  match v.at? path with
  | some (.arr items) => items
  | _ => []

def intsAt (v : Json) (path : List String) : List Int :=
  match v.at? path with
  | some (.obj fields) => fields.filterMap fun entry => entry.2.intAt? []
  | _ => []

end Json

/-- A report gives the counts of a summary, and these agree with one another, with the steps that
the report lists and with what it says of the history. -/
structure Report.Balanced (summary : RunSummary) (report : Json) : Prop where
  totalCases : report.intAt? ["summary", "total_cases"] = some summary.totalCases
  passedCases : report.intAt? ["summary", "passed_cases"] = some summary.passedCases
  failedCases : report.intAt? ["summary", "failed_cases"] = some summary.failedCases
  totalSteps : report.intAt? ["summary", "total_steps"] = some summary.totalSteps
  passedSteps : report.intAt? ["summary", "passed_steps"] = some summary.passedSteps
  executions : report.intAt? ["history", "total_executions"] = some summary.totalSteps
  successes : report.intAt? ["history", "successful_executions"] = some summary.passedSteps
  failures : report.intAt? ["history", "failed_executions"] = some summary.failedCases
  cases : summary.totalCases = summary.passedCases + summary.failedCases
  steps : summary.totalSteps - summary.passedSteps = summary.failedCases
  listed : (((report.listAt ["cases"]).map fun case => (case.listAt ["steps"]).length).sum : Nat) =
    summary.totalSteps
  kinds : (report.intsAt ["history", "execution_types"]).sum = summary.totalSteps

/-- Each record is counted under its kind. -/
theorem History.sum_kinds_stats (h : History) :
    (h.stats.toJson.intsAt ["execution_types"]).sum = h.records.length := by
  have hKinds : h.stats.toJson.intsAt ["execution_types"] =
      (h.stats.kinds.mapValues Json.int).filterMap fun entry => entry.2.intAt? [] := rfl
  have hInts : ((h.stats.kinds.mapValues Json.int).filterMap fun entry => entry.2.intAt? []) =
      h.stats.kinds.map (·.2) := by
    rw [Assoc.mapValues, List.filterMap_map, ← List.filterMap_eq_map]
    rfl
  rw [hKinds, hInts]
  exact h.countSum_kinds_stats

namespace Report

variable {report : Report} {history : History}

theorem sum_steps_listed :
    ((report.toJson.listAt ["cases"]).map fun case => (case.listAt ["steps"]).length).sum =
      (report.results.flatMap (·.records)).length := by
  have hCases : report.toJson.listAt ["cases"] = report.results.map caseJson := rfl
  have hSteps (result : CaseResult) :
      (caseJson result).listAt ["steps"] = result.records.map stepJson := rfl
  simp [hCases, hSteps, List.length_flatMap, Function.comp_def]

theorem sum_kinds_listed (hHistory : report.history = some history.stats) :
    (report.toJson.intsAt ["history", "execution_types"]).sum = history.records.length := by
  have hKinds : report.toJson.intsAt ["history", "execution_types"] =
      history.stats.toJson.intsAt ["execution_types"] := by
    rw [toJson, hHistory]
    rfl
  rw [hKinds, history.sum_kinds_stats]

theorem intAt?_history (hHistory : report.history = some history.stats) (name : String) :
    report.toJson.intAt? ["history", name] = history.stats.toJson.intAt? [name] := by
  rw [toJson, hHistory]
  rfl

/-- A report on results, with the statistics of the history that they left, is balanced. -/
theorem balanced_toJson {cases : List TestCase}
    (hAll : List.Forall₂ CaseResult.AccountsFor report.results cases)
    (hRecords : history.records = report.results.flatMap (·.records))
    (hSummary : report.summary = .ofResults report.results)
    (hHistory : report.history = some history.stats) : Balanced report.summary report.toJson := by
  have hSteps := RunSummary.steps_ofResults hAll
  rw [← hSummary] at hSteps
  have hTotal : report.summary.totalSteps = history.records.length := by
    rw [hSummary, hRecords]
    rfl
  have hPassed : report.summary.passedSteps = history.records.countP (·.success) := by
    rw [hSummary, hRecords]
    rfl
  refine ⟨rfl, rfl, rfl, rfl, rfl, ?_, ?_, ?_, ?_, hSteps, ?_, ?_⟩
  · rw [intAt?_history hHistory, hTotal]
    rfl
  · rw [intAt?_history hHistory, hPassed, ← history.successful_stats]
    rfl
  · rw [intAt?_history hHistory, ← hSteps, hTotal, hPassed, ← history.failed_stats]
    rfl
  · rw [hSummary]
    simp only [RunSummary.ofResults]
    omega
  · rw [sum_steps_listed, hTotal, hRecords]
  · rw [sum_kinds_listed hHistory, hTotal]

end Report

namespace Suite

variable {s : Surroundings} {w w' : World} {suite : Suite}

/-- What a run that ends is made of. -/
theorem exists_runCases_of_complete {files : List Path} {run : CompletedRun}
    (hRun : Attempt.runIn s w (suite.complete files) = (.ok run, w')) :
    ∃ cases outcome w₁, Scenario.ofFiles w.files files = .ok cases ∧
      Outside.runIn s w (Runner.runCases suite.executor suite.context suite.history cases) =
        ((outcome, run.history), w₁) ∧
      outcome.results = .ok run.result.results ∧ run.report.results = run.result.results ∧
      run.result.summary = .ofResults outcome.finished ∧ run.report.summary = run.result.summary ∧
      run.report.history = some run.history.stats := by
  rw [complete] at hRun
  obtain ⟨start, w₁, hStart, hRun⟩ := Attempt.runIn_bind_eq_ok hRun
  obtain ⟨now, w₂, hNow, hRun⟩ := Attempt.runIn_bind_eq_ok hRun
  obtain ⟨cases, w₃, hCases, hRun⟩ := Attempt.runIn_bind_eq_ok hRun
  obtain ⟨⟨outcome, history⟩, w₄, hOutcome, hRun⟩ := Attempt.runIn_bind_eq_ok hRun
  obtain ⟨exportPath, w₅, hExport, hRun⟩ := Attempt.runIn_bind_eq_ok hRun
  obtain ⟨results, w₆, hResults, hRun⟩ := Attempt.runIn_bind_eq_ok hRun
  obtain ⟨clock, w₇, hClock, hRun⟩ := Attempt.runIn_bind_eq_ok hRun
  obtain ⟨reportPath, w₈, hReport, hRun⟩ := Attempt.runIn_bind_eq_ok hRun
  obtain ⟨hCompleted, -⟩ := Prod.mk.inj hRun
  obtain rfl := Except.ok.inj hCompleted
  obtain ⟨-, rfl⟩ := Prod.mk.inj hStart
  obtain ⟨hWorld, rfl⟩ := Prod.mk.inj hNow
  obtain rfl := Except.ok.inj hWorld
  obtain ⟨hRead, rfl⟩ := Prod.mk.inj hCases
  rw [Attempt.runIn_lift] at hOutcome
  obtain ⟨hEnded, hWorld⟩ := Prod.mk.inj hOutcome
  exact ⟨cases, outcome, w₄, hRead, Prod.ext (Except.ok.inj hEnded) hWorld,
    (Prod.mk.inj hResults).1, rfl, rfl, rfl, rfl⟩

/-- A run accounts for every step: a suite with an empty history that comes to the end of its
scenario files has one result for each case, in order, and in its history the records of the results
and nothing else. Its summary, its report and the statistics of its history count the same. -/
theorem complete_accounts {files : List Path} {run : CompletedRun}
    (hFresh : suite.history.records = [])
    (hRun : Attempt.runIn s w (suite.complete files) = (.ok run, w')) :
    ∃ cases, Scenario.ofFiles w.files files = .ok cases ∧
      List.Forall₂ CaseResult.AccountsFor run.result.results cases ∧
      run.history.records = run.result.results.flatMap (·.records) ∧
      run.report.results = run.result.results ∧
      Report.Balanced run.result.summary run.report.toJson := by
  obtain ⟨cases, outcome, w₁, hCases, hOutcome, hResults, hListed, hCounted, hSummary, hHistory⟩ :=
    exists_runCases_of_complete hRun
  obtain ⟨hAll, hFinished, hRecords⟩ := Runner.accountsFor_of_runCases
    (Scenario.trimmed_of_mem_ofFiles hCases) hOutcome hResults
  rw [hFresh, List.nil_append] at hRecords
  refine ⟨cases, hCases, hAll, hRecords, hListed, ?_⟩
  rw [← hSummary]
  refine Report.balanced_toJson (hListed ▸ hAll) (hListed ▸ hRecords) ?_ hHistory
  rw [hSummary, hCounted, hFinished, hListed]

/-- A suite without rules, on sessions from elsewhere. -/
def bareSuite : Suite where
  runId := "run"
  reportDir := Path.ofText "reports"
  executor := { registry := ⟨[]⟩, config := {}, provider := .given }
  history := History.start "out" false
  context := {}

/-- Sessions that carry out every text but one. -/
def breaksAt (text : String) : Surroundings where
  respond _ c :=
    match c with
    | .session (.act wanted _ _) =>
      if wanted == text then { outcome := .error (.reported .runtime "no such button") }
      else { outcome := .ok .null }
    | _ => { outcome := .ok .null }

def twoCases : World where
  files := { files :=
    [(["shop.txt"], .text "## buy\nopen shop\npress pay\nclose\n## look\nopen shop\n")] }

/-- The first of two cases fails at its second step, the other one passes. -/
theorem complete_accounts_shop : bareSuite.history.records = [] ∧ ∃ run w',
    Attempt.runIn (breaksAt "press pay") twoCases (bareSuite.complete [Path.ofText "shop.txt"]) =
      (.ok run, w') ∧
      run.result.results.map (·.records.map (·.success)) = [[true, false], [true]] ∧
      run.history.records = run.result.results.flatMap (·.records) ∧
      Report.Balanced run.result.summary run.report.toJson := by
  have hEnds : (Attempt.runIn (breaksAt "press pay") twoCases
      (bareSuite.complete [Path.ofText "shop.txt"])).1.toOption.map (fun run =>
        run.result.results.map (·.records.map (·.success))) = some [[true, false], [true]] := by
    decide +kernel
  obtain ⟨run, hOk, hShown⟩ := Option.map_eq_some_iff.mp hEnds
  rcases hRun : Attempt.runIn (breaksAt "press pay") twoCases
    (bareSuite.complete [Path.ofText "shop.txt"]) with ⟨fault | ended, w'⟩
  · simp [hRun, Except.toOption] at hOk
  · obtain rfl : ended = run := by simpa [hRun, Except.toOption] using hOk
    obtain ⟨cases, -, -, hRecords, -, hBalanced⟩ := complete_accounts rfl hRun
    exact ⟨rfl, ended, w', rfl, hShown, hRecords, hBalanced⟩

end Suite

end ScenarioRunner
