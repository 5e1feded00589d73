import Mathlib.Data.List.Forall2
import ScenarioRunner.Proofs.Dispatch
import ScenarioRunner.Proofs.Scenario
import ScenarioRunner.Runner

/-! Running cases. Step by step, what the runner collects is what comes to the history: the records
of a case follow its steps up to the first one that fails, and the history grows by the records of
one case after another. -/
namespace ScenarioRunner

/-- A descriptor keeps the wording of its step, whatever takes it. -/
theorem Interpretation.wording_interpret (registry : Registry) (step : String)
    (values : Assoc String) : (interpret registry step values).wording = trimmed step := by
  unfold interpret
  dsimp only
  split
  · rename_i hBlank
    exact (eq_of_beq hBlank).symm
  · split <;> rfl

/-- The record tells of this step. -/
def Record.IsOf (record : Record) (step : Step) : Prop :=
  record.action = trimmed step.action ∧ record.workflow = step.workflow

/-- A trail as it comes of steps: each step has a record, until one fails. -/
inductive Trail.Follows : Trail → List Step → Prop
  | finished : Follows {} []
  | passed {step : Step} {rest : List Step} {record : Record} {trail : Trail}
      (hRecord : record.IsOf step) (hSuccess : record.success = true) (hRest : Follows trail rest) :
      Follows { trail with records := record :: trail.records } (step :: rest)
  | failed {step : Step} {rest : List Step} {record : Record}
      (hRecord : record.IsOf step) (hFailure : record.success = false) :
      Follows { records := [record], failure := some (step, record) } (step :: rest)

namespace Trail.Follows

variable {trail : Trail} {steps : List Step}

/-- The record at a position is that of the step there. -/
theorem isOf (hTrail : trail.Follows steps) {j : Nat} {record : Record}
    (hRecord : trail.records[j]? = some record) :
    ∃ step, steps[j]? = some step ∧ record.IsOf step := by
  -- along the trail, as its tail tells of the tail of the steps
  induction hTrail generalizing j with
  | finished => simp at hRecord
  | @passed step rest first trail hFirst hSuccess hRest ih =>
      cases j with
      | zero =>
          obtain rfl : first = record := by simpa using hRecord
          exact ⟨step, rfl, hFirst⟩
      | succ j => exact ih (by simpa using hRecord)
  | @failed step rest only hOnly hFailure =>
      cases j with
      | zero =>
          obtain rfl : only = record := by simpa using hRecord
          exact ⟨step, rfl, hOnly⟩
      | succ j => simp at hRecord

/-- Either all steps have records of success, or the last record is the only one of a failure. -/
theorem ending (hTrail : trail.Follows steps) :
    (trail.failure = none ∧ trail.records.length = steps.length ∧
      ∀ record ∈ trail.records, record.success = true) ∨
    ∃ before record step, trail.records = before ++ [record] ∧
      (∀ earlier ∈ before, earlier.success = true) ∧ record.success = false ∧
        steps[before.length]? = some step ∧ trail.failure = some (step, record) := by
  induction hTrail with
  | finished => exact .inl ⟨rfl, rfl, by simp⟩
  | @passed step rest first trail hFirst hSuccess hRest ih =>
      rcases ih with ⟨hNone, hLength, hAll⟩ | ⟨before, last, stopped, hRecords, hBefore, hLast⟩
      · exact .inl ⟨hNone, congrArg (· + 1) hLength, List.forall_mem_cons.mpr ⟨hSuccess, hAll⟩⟩
      · refine .inr ⟨first :: before, last, stopped, by rw [hRecords]; rfl, ?_, hLast⟩
        exact List.forall_mem_cons.mpr ⟨hSuccess, hBefore⟩
  | @failed step rest only hOnly hFailure =>
      exact .inr ⟨[], only, step, rfl, by simp, hFailure, rfl, rfl⟩

end Trail.Follows

variable {s : Surroundings} {w w' : World} {e : Executor} {context : Context} {h h' : History}

/-- A step that is carried out leaves one record behind. -/
theorem Executor.records_executeStep {step : Step} {record : Record}
    (hRun : Outside.runIn s w (e.executeStep context h step) = ((.ok record, h'), w')) :
    h'.records = h.records ++ [record] ∧ record.IsOf step := by
  rw [executeStep, Outside.runIn_bind] at hRun
  rcases hSession : Outside.runIn s w (e.provider.getSession step.workflow).run with ⟨outcome, w₁⟩
  rw [hSession] at hRun
  cases outcome with
  | error fault => simp at hRun
  | ok session =>
      have hRecorded := Dispatch.recorded_execute s w₁ e.config h
        (Interpretation.interpret e.registry step.action context.values) session step.workflow
          context
      simp only [Outside.runIn_bind, Outside.runIn_pure] at hRun
      rcases hExecute : Outside.runIn s w₁ (Dispatch.execute e.config h
        (Interpretation.interpret e.registry step.action context.values) session step.workflow
          context) with ⟨⟨made, kept⟩, w₂⟩
      rw [hExecute] at hRun hRecorded
      obtain ⟨hPair, -⟩ := Prod.mk.inj hRun
      obtain ⟨hRecord, rfl⟩ := Prod.mk.inj hPair
      obtain rfl : made = record := Except.ok.inj hRecord
      refine ⟨hRecorded.records, ?_, hRecorded.workflow⟩
      rw [Record.action, hRecorded.descriptor, Interpretation.wording_interpret]

/-- A step without a record leaves the history as it was: there was no session for it. -/
theorem Executor.executeStep_eq_error
    (hRun : Outside.runIn s w (e.executeStep context h step) = ((.error fault, h'), w')) :
    Attempt.runIn s w (e.provider.getSession step.workflow) = (.error fault, w') ∧ h' = h := by
  rw [executeStep, Outside.runIn_bind] at hRun
  rw [Attempt.runIn]
  rcases hSession : Outside.runIn s w (e.provider.getSession step.workflow).run with ⟨outcome, w₁⟩
  rw [hSession] at hRun
  cases outcome with
  | error raised =>
      obtain ⟨hPair, rfl⟩ := Prod.mk.inj hRun
      obtain ⟨hFault, rfl⟩ := Prod.mk.inj hPair
      obtain rfl := Except.error.inj hFault
      exact ⟨rfl, rfl⟩
  | ok session =>
      obtain ⟨hPair, -⟩ := Prod.mk.inj hRun
      cases (Prod.mk.inj hPair).1

namespace Runner

/-- Steps that leave a trail begin with one that is carried out. The trail ends there if it fails,
and else goes on with that of the other steps. -/
theorem runSteps_cons_eq_ok {step : Step} {rest : List Step} {trail : Trail}
    (hRun : Outside.runIn s w (runSteps e context h (step :: rest)) = ((.ok trail, h'), w')) :
    ∃ record h₁ w₁, Outside.runIn s w (e.executeStep context h step) = ((.ok record, h₁), w₁) ∧
      (record.success = false ∧ trail = { records := [record], failure := some (step, record) } ∧
          h' = h₁ ∨
        record.success = true ∧ ∃ others,
          Outside.runIn s w₁ (runSteps e context h₁ rest) = ((.ok others, h'), w') ∧
            trail = { others with records := record :: others.records }) := by
  rw [runSteps, Outside.runIn_bind] at hRun
  rcases hStep : Outside.runIn s w (e.executeStep context h step) with ⟨⟨outcome, h₁⟩, w₁⟩
  rw [hStep] at hRun
  cases outcome with
  | error fault => simp at hRun
  | ok record =>
      refine ⟨record, h₁, w₁, rfl, ?_⟩
      cases hSuccess : record.success with
      | false =>
          simp only [hSuccess, Bool.false_eq_true, if_false, Outside.runIn_pure] at hRun
          obtain ⟨hPair, -⟩ := Prod.mk.inj hRun
          obtain ⟨hTrail, rfl⟩ := Prod.mk.inj hPair
          exact .inl ⟨rfl, (Except.ok.inj hTrail).symm, rfl⟩
      | true =>
          simp only [hSuccess, if_true, Outside.runIn_bind, Outside.runIn_pure] at hRun
          rcases hRest : Outside.runIn s w₁ (runSteps e context h₁ rest) with ⟨⟨others, h₂⟩, w₂⟩
          rw [hRest] at hRun
          obtain ⟨hPair, rfl⟩ := Prod.mk.inj hRun
          obtain ⟨hTrail, rfl⟩ := Prod.mk.inj hPair
          obtain ⟨trail, rfl, rfl⟩ := map_eq_ok_iff.mp hTrail
          exact .inr ⟨rfl, trail, rfl, rfl⟩

/-- The records that come to the history while steps are carried out are those of the trail. -/
theorem follows_of_runSteps {steps : List Step} {trail : Trail}
    (hRun : Outside.runIn s w (runSteps e context h steps) = ((.ok trail, h'), w')) :
    trail.Follows steps ∧ h'.records = h.records ++ trail.records := by
  induction steps generalizing h w w' trail with
  | nil =>
      obtain ⟨hPair, -⟩ := Prod.mk.inj hRun
      obtain ⟨hTrail, rfl⟩ := Prod.mk.inj hPair
      obtain rfl := Except.ok.inj hTrail
      exact ⟨.finished, (List.append_nil _).symm⟩
  | cons step rest ih =>
      obtain ⟨record, h₁, w₁, hStep, hMore⟩ := runSteps_cons_eq_ok hRun
      obtain ⟨hRecords, hRecord⟩ := Executor.records_executeStep hStep
      rcases hMore with ⟨hFailure, rfl, rfl⟩ | ⟨hSuccess, others, hRest, rfl⟩
      · exact ⟨.failed hRecord hFailure, hRecords⟩
      · obtain ⟨hFollows, hOthers⟩ := ih hRest
        refine ⟨.passed hRecord hSuccess hFollows, ?_⟩
        rw [hOthers, hRecords, List.append_assoc, List.singleton_append]

end Runner

namespace CaseResult

/-- A result accounts for a case: its records are those of the steps from the first on, all of
success but perhaps the last, and the case passed just if all of its steps have a record of success;
else the last record is that of the failure that the result tells of. -/
structure AccountsFor (result : CaseResult) (case : TestCase) : Prop where
  name : result.name = case.name
  recorded : ∀ (j : Nat) record, result.records[j]? = some record →
    ∃ step, case.steps[j]? = some step ∧ record.action = step.action ∧
      record.workflow = step.workflow
  status : result.status = if result.passed then .passed else .failed
  passed : result.passed = true ↔ result.records.length = case.steps.length ∧
    ∀ record ∈ result.records, record.success = true
  failure : result.passed = false → ∃ before record step, result.records = before ++ [record] ∧
    (∀ earlier ∈ before, earlier.success = true) ∧ record.success = false ∧
      case.steps[before.length]? = some step ∧ result.firstError = record.errorMessage ∧
        result.failedAction = some step.action

/-- As many records tell of a failure as the result does. -/
theorem AccountsFor.length_records {result : CaseResult} {case : TestCase}
    (hAccounts : result.AccountsFor case) :
    result.records.length = result.records.countP (·.success) + if result.passed then 0 else 1 := by
  cases hPassed : result.passed with
  | true =>
      obtain ⟨-, hAll⟩ := hAccounts.passed.mp hPassed
      simp [List.countP_eq_length.mpr hAll]
  | false =>
      obtain ⟨before, record, step, hRecords, hBefore, hFailure, -⟩ := hAccounts.failure hPassed
      simp [hRecords, List.countP_eq_length.mpr hBefore, hFailure]

end CaseResult

namespace Runner

/-- A result accounts for its case if its trail follows the steps of the case. -/
theorem accountsFor_resultOf {case : TestCase} {trail : Trail} (hTrimmed : case.Trimmed)
    (hTrail : trail.Follows case.steps) (start clock : Nat) :
    (resultOf case start clock trail).AccountsFor case where
  name := rfl
  recorded := by
    intro j record hRecord
    obtain ⟨step, hStep, hAction, hWorkflow⟩ := hTrail.isOf hRecord
    refine ⟨step, hStep, ?_, hWorkflow⟩
    rw [hAction, hTrimmed step (List.mem_of_getElem? hStep)]
  status := rfl
  passed := by
    rcases hTrail.ending with ⟨hNone, hLength, hAll⟩ | ⟨before, record, step, hRecords, -, hLast⟩
    · simpa [resultOf, hNone, hLength] using hAll
    · simp [resultOf, hRecords, hLast]
  failure := by
    intro hFailed
    rcases hTrail.ending with ⟨hNone, -, -⟩ | ⟨before, record, step, hRecords, hBefore, hLast⟩
    · simp [resultOf, hNone] at hFailed
    · obtain ⟨hFailure, hStep, hEnd⟩ := hLast
      refine ⟨before, record, step, hRecords, hBefore, hFailure, hStep, ?_, ?_⟩
      · rw [resultOf, hEnd]
        rfl
      · rw [resultOf, hEnd]
        rfl

/-- A case that was run is accounted for, and its records are added to the history. -/
theorem accountsFor_of_runCase {case : TestCase} {result : CaseResult} (hTrimmed : case.Trimmed)
    (hRun : Outside.runIn s w (runCase e context h case) = ((.ok result, h'), w')) :
    result.AccountsFor case ∧ h'.records = h.records ++ result.records := by
  rw [runCase] at hRun
  simp only [Outside.runIn_bind, Outside.runIn_now, Outside.runIn_pure] at hRun
  rcases hSteps : Outside.runIn s w (runSteps e context h case.steps) with ⟨⟨outcome, h₁⟩, w₁⟩
  rw [hSteps] at hRun
  obtain ⟨hPair, -⟩ := Prod.mk.inj hRun
  obtain ⟨hResult, rfl⟩ := Prod.mk.inj hPair
  cases outcome with
  | error fault => simp [Except.map] at hResult
  | ok trail =>
      obtain rfl := Except.ok.inj hResult
      obtain ⟨hFollows, hRecords⟩ := follows_of_runSteps hSteps
      exact ⟨accountsFor_resultOf hTrimmed hFollows w.clock w₁.clock, hRecords⟩

/-- Cases that all have results begin with one that has a result, and go on with the others. -/
theorem runCases_cons_eq_ok {case : TestCase} {rest : List TestCase} {outcome : Outcome}
    {results : List CaseResult}
    (hRun : Outside.runIn s w (runCases e context h (case :: rest)) = ((outcome, h'), w'))
    (hResults : outcome.results = .ok results) :
    ∃ result h₁ w₁ others tail,
      Outside.runIn s w (runCase e context h case) = ((.ok result, h₁), w₁) ∧
        Outside.runIn s w₁ (runCases e context h₁ rest) = ((others, h'), w') ∧
          others.results = .ok tail ∧ results = result :: tail ∧
            outcome.finished = result :: others.finished := by
  rw [runCases] at hRun
  simp only [Outside.runIn_bind, Outside.runIn_pure] at hRun
  rcases hFirst : Outside.runIn s w (runCase e context h case) with ⟨⟨first, h₁⟩, w₁⟩
  rw [hFirst] at hRun
  rcases hRest : Outside.runIn s w₁ (runCases e context h₁ rest) with ⟨⟨others, h₂⟩, w₂⟩
  rw [hRest] at hRun
  obtain ⟨hPair, rfl⟩ := Prod.mk.inj hRun
  obtain ⟨rfl, rfl⟩ := Prod.mk.inj hPair
  cases first with
  | error fault => simp [Outcome.after] at hResults
  | ok result =>
      obtain ⟨tail, hTail, rfl⟩ := map_eq_ok_iff.mp hResults
      exact ⟨result, h₁, w₁, others, tail, rfl, hRest, hTail, rfl, rfl⟩

/-- A run of cases that comes to its end has one result for each, in order, and leaves the records
of all of them in the history. -/
theorem accountsFor_of_runCases {cases : List TestCase} {outcome : Outcome}
    {results : List CaseResult} (hTrimmed : ∀ case ∈ cases, case.Trimmed)
    (hRun : Outside.runIn s w (runCases e context h cases) = ((outcome, h'), w'))
    (hResults : outcome.results = .ok results) :
    List.Forall₂ CaseResult.AccountsFor results cases ∧ outcome.finished = results ∧
      h'.records = h.records ++ results.flatMap (·.records) := by
  induction cases generalizing h w w' outcome results with
  | nil =>
      obtain ⟨hPair, -⟩ := Prod.mk.inj hRun
      obtain ⟨rfl, rfl⟩ := Prod.mk.inj hPair
      obtain rfl := Except.ok.inj hResults
      exact ⟨.nil, rfl, (List.append_nil _).symm⟩
  | cons case rest ih =>
      obtain ⟨hCase, hOthers⟩ := List.forall_mem_cons.mp hTrimmed
      obtain ⟨result, h₁, w₁, others, tail, hFirst, hRest, hTail, rfl, hEnded⟩ :=
        runCases_cons_eq_ok hRun hResults
      obtain ⟨hAccounts, hRecords⟩ := accountsFor_of_runCase hCase hFirst
      obtain ⟨hAll, hFinished, hLater⟩ := ih hOthers hRest hTail
      refine ⟨.cons hAccounts hAll, by rw [hEnded, hFinished], ?_⟩
      rw [hLater, hRecords, List.flatMap_cons, List.append_assoc]

end Runner

end ScenarioRunner
