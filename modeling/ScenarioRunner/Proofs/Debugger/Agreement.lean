import ScenarioRunner.Proofs.Debugger.Refusal
import ScenarioRunner.Proofs.Runner

/-! A debugger that is told to go on does what running the case does: both follow the course of its
steps, with the same calls, the same history and the same records. -/
namespace ScenarioRunner

variable {s : Surroundings} {w w' : World} {e : Executor} {context : Context} {h h' : History}
  {step : Step} {steps : List Step} {records : List Record} {ending : CourseEnd} {fault : Fault}

/-- What comes to the history along a course are its records. -/
theorem Course.records_history
    (hCourse : Course (e.executeStep context) s h w steps records ending h' w') :
    h'.records = h.records ++ (records ++ ending.records) := by
  induction hCourse with
  | passed => simp [CourseEnd.records]
  | raised hStep => simp [(Executor.executeStep_eq_error hStep).2, CourseEnd.records]
  | failed hStep hFailure => exact (Executor.records_executeStep hStep).1
  | succeeded hStep hSuccess hRest ih =>
      rw [ih, (Executor.records_executeStep hStep).1, List.append_assoc]
      rfl

namespace Runner

def trailOf (steps : List Step) (records : List Record) : CourseEnd → Except Fault Trail
  | .passed => .ok { records }
  | .failed record => .ok
    { records := records ++ [record]
      failure := steps[records.length]?.map fun step => (step, record) }
  | .raised fault => .error fault

/-- Running steps follows their course. -/
theorem runIn_runSteps_of_course
    (hCourse : Course (e.executeStep context) s h w steps records ending h' w') :
    Outside.runIn s w (runSteps e context h steps) = ((trailOf steps records ending, h'), w') := by
  induction hCourse with
  | passed => rfl
  | raised hStep =>
      rw [runSteps, Outside.runIn_bind, hStep]
      rfl
  | failed hStep hFailure =>
      rw [runSteps, Outside.runIn_bind, hStep]
      simp [hFailure, trailOf]
  | @succeeded h h₁ h' w w₁ w' step rest r records ending hStep hSuccess hRest ih =>
      rw [runSteps, Outside.runIn_bind, hStep]
      simp only [hSuccess, if_true, Outside.runIn_bind, ih, Outside.runIn_pure]
      cases ending <;> rfl

/-- A case that is run leaves behind exactly what its course says: the records with the steps they
are of, the history and the world. -/
theorem runIn_runCase_of_course {case : TestCase}
    (hCourse : Course (e.executeStep context) s h w case.steps records ending h' w') :
    Outside.runIn s w (runCase e context h case) =
      (((trailOf case.steps records ending).map (resultOf case w.clock w'.clock), h'), w') := by
  have hRun := runIn_runSteps_of_course hCourse
  rw [runCase, Outside.runIn_bind, Outside.runIn_now, Outside.runIn_bind, hRun, Outside.runIn_bind,
    Outside.runIn_now, Outside.runIn_pure]

/-- The result of a case whose course passes. -/
theorem exists_result_of_passed (case : TestCase) (start clock : Nat) (records : List Record) :
    ∃ r, (trailOf case.steps records .passed).map (resultOf case start clock) = .ok r ∧
      r.status = .passed ∧ r.records = records :=
  ⟨_, rfl, rfl, rfl⟩

/-- The result of a case whose course stops at a step that failed. -/
theorem exists_result_of_failed {case : TestCase} (hStep : records.length < case.steps.length)
    (start clock : Nat) (record : Record) :
    ∃ r, (trailOf case.steps records (.failed record)).map (resultOf case start clock) = .ok r ∧
      r.status = .failed ∧ r.records = records ++ [record] := by
  rw [trailOf, List.getElem?_eq_getElem hStep]
  exact ⟨_, rfl, rfl, rfl⟩

/-- A case has no result just if its course ends with a fault. -/
theorem raised_of_result_error {case : TestCase} {start clock : Nat}
    (hResult : (trailOf case.steps records ending).map (resultOf case start clock) = .error fault) :
    ending = .raised fault := by
  cases ending with
  | raised raised => exact congrArg CourseEnd.raised (Except.error.inj hResult)
  | _ => cases hResult

end Runner

namespace Debugger

section Ending

variable {perform : Performer} {d : Debugger}

/-- A debugger that takes up a course that passes has finished. -/
theorem finished_of_course (hCourse : Course perform s h w steps records .passed h' w')
    (hReady : d.Ready steps) : (records.foldl record d).state = .finished := by
  have hLength := hCourse.length_of_passed
  have hLast := hReady.foldl_record hCourse.success_of_mem (Nat.le_of_eq hLength)
  rw [hLength, List.drop_length] at hLast
  exact hLast.finished

/-- A debugger that takes up a course that fails stands at the step that failed. -/
theorem failed_of_course {r : Record}
    (hCourse : Course perform s h w steps records (.failed r) h' w') (hReady : d.Ready steps) :
    let stopped := (records ++ [r]).foldl record d
    stopped.state = .failed ∧ stopped.index = d.index + records.length := by
  have hBefore := foldl_record_of_success hReady hCourse.success_of_mem
    (hCourse.length_lt_of_not_passed (by simp))
  obtain ⟨hState, hIndex⟩ := @record_of_failure (records.foldl record d) r hCourse.failure_of_failed
  rw [List.foldl_append]
  exact ⟨hState, by rw [List.foldl_cons, List.foldl_nil, hIndex, hBefore]⟩

end Ending

/-- What a debugger shows that was told to go on, beside the result of a run of its case. It has
finished just if the case passed, and it stands at a step that failed just if the record of that step
is the last one of a case that failed. -/
structure Agrees (turn : Turn) (result : Except Fault CaseResult) : Prop where
  records : ∀ r, result = .ok r →
    turn.debugger.records = r.records ∧ turn.outcome = .ok r.records.getLast?
  finished : turn.debugger.state = .finished ↔ ∃ r, result = .ok r ∧ r.status = .passed
  failed : ∀ k, turn.debugger.state = .failed ∧ turn.debugger.index = k ↔
    ∃ r, result = .ok r ∧ r.status = .failed ∧ r.records.length = k + 1

section Results

variable {turn : Turn} {r : CaseResult}

/-- Both ways of running agree if both have passed with the same records. -/
theorem agrees_of_passed (hState : turn.debugger.state = .finished) (hStatus : r.status = .passed)
    (hRecords : turn.debugger.records = r.records)
    (hOutcome : turn.outcome = .ok r.records.getLast?) : Agrees turn (.ok r) where
  records := by
    rintro _ ⟨⟩
    exact ⟨hRecords, hOutcome⟩
  finished := iff_of_true hState ⟨r, rfl, hStatus⟩
  failed k := by simp [hState, hStatus]

/-- Both ways of running agree if both have stopped at the same failed step. -/
theorem agrees_of_failed (hState : turn.debugger.state = .failed) (hStatus : r.status = .failed)
    (hRecords : turn.debugger.records = r.records)
    (hLength : r.records.length = turn.debugger.index + 1)
    (hOutcome : turn.outcome = .ok r.records.getLast?) : Agrees turn (.ok r) where
  records := by
    rintro _ ⟨⟩
    exact ⟨hRecords, hOutcome⟩
  finished := by simp [hState, hStatus]
  failed k := by simp [hState, hStatus, hLength]

theorem agrees_of_raised (hState : turn.debugger.state = .pending) (fault : Fault) :
    Agrees turn (.error fault) where
  records := by simp
  finished := by simp [hState]
  failed k := by simp [hState]

/-- A debugger that takes up the course of a case from the start agrees with the result. -/
theorem agrees_of_course {case : TestCase}
    (hCourse : Course (e.executeStep context) s h w case.steps records ending h' w')
    (maxRetries : Int) (begun ended : Nat) :
    Agrees
      ⟨outcomeOf records.getLast? ending,
        (records ++ ending.records).foldl record (start case maxRetries), h'⟩
      ((Runner.trailOf case.steps records ending).map (Runner.resultOf case begun ended)) := by
  have hReady := ready_start case maxRetries
  have hRecords : ((records ++ ending.records).foldl record (start case maxRetries)).records =
      records ++ ending.records := records_foldl_record
  cases ending with
  | passed =>
      obtain ⟨r, hResult, hStatus, hKept⟩ := Runner.exists_result_of_passed case begun ended records
      simp only [CourseEnd.records, List.append_nil] at hRecords ⊢
      rw [hResult]
      refine agrees_of_passed (finished_of_course hCourse hReady) hStatus ?_ ?_
      · rw [hRecords, hKept]
      · rw [outcomeOf, hKept]
  | failed last =>
      have hLength := hCourse.length_lt_of_not_passed (by simp)
      obtain ⟨hState, hIndex⟩ := failed_of_course hCourse hReady
      obtain ⟨r, hResult, hStatus, hKept⟩ :=
        Runner.exists_result_of_failed hLength begun ended last
      simp only [CourseEnd.records] at hRecords ⊢
      rw [hResult]
      refine agrees_of_failed hState hStatus ?_ ?_ ?_
      · rw [hRecords, hKept]
      · dsimp only
        rw [hKept, hIndex, List.length_append, List.length_singleton]
        simp [start]
      · simp [outcomeOf, hKept]
  | raised fault =>
      have hInterrupted := interrupted_of_course hCourse hReady
      simp only [CourseEnd.records, List.append_nil]
      exact agrees_of_raised hInterrupted.state fault

end Results

variable (e : Executor) (context : Context) (s : Surroundings) (w : World) (h : History)

/-- A debugger that is told to go on from the first step and a run of the case end in the same world
with the same history, and have the same records. A fault is the same for both; the debugger then
waits at the step that raised it. -/
theorem proceed_start_agrees {case : TestCase} (hSteps : case.steps ≠ []) (maxRetries : Int) :
    ∃ turn result after,
      Outside.runIn s w ((start case maxRetries).proceed (e.executeStep context) h) =
        (turn, after) ∧
      Outside.runIn s w (Runner.runCase e context h case) = ((result, turn.history), after) ∧
      turn.history.records = h.records ++ turn.debugger.records ∧ Agrees turn result ∧
      ∀ fault, result = .error fault → turn.outcome = .error fault ∧
        Interrupted (e.executeStep context) s h w (start case maxRetries) fault turn after
          turn.debugger.records := by
  obtain ⟨records, ending, h', w', hCourse⟩ :=
    Course.exists_course (e.executeStep context) s h w case.steps
  have hReady := ready_start case maxRetries
  have hPending : (start case maxRetries).state = .pending := by simp [start, hSteps]
  have hRecords : ((records ++ ending.records).foldl record (start case maxRetries)).records =
      records ++ ending.records := records_foldl_record
  rw [proceed_of_pending hPending, runIn_proceedFrom_of_course hCourse hReady, Option.or_none,
    Runner.runIn_runCase_of_course hCourse]
  refine ⟨_, _, w', rfl, rfl, ?_, agrees_of_course hCourse maxRetries _ _, fun fault hFault => ?_⟩
  · rw [hCourse.records_history, hRecords]
  · obtain rfl := Runner.raised_of_result_error hFault
    refine ⟨rfl, ?_⟩
    rw [hRecords]
    simpa [CourseEnd.records, outcomeOf] using interrupted_of_course hCourse hReady

/-- Sessions that carry out every text but the second one of the case. -/
def noClosing : Surroundings where
  respond _ c :=
    match c with
    | .session (.act text _ _) =>
      if text == "close" then { outcome := .error (.reported .runtime "no such button") }
      else { outcome := .ok .null }
    | _ => { outcome := .ok .null }

/-- The second of two steps fails for both. -/
theorem proceed_start_agrees_noClosing : stuckCase.steps ≠ [] ∧ ∃ turn result after,
    Outside.runIn noClosing {} ((start stuckCase 3).proceed (bareExecutor.executeStep {})
      (History.start "out" false)) = (turn, after) ∧
    Outside.runIn noClosing {} (Runner.runCase bareExecutor {} (History.start "out" false) stuckCase) =
      ((result, turn.history), after) ∧
    turn.debugger.state = .failed ∧ turn.debugger.index = 1 ∧
      ∃ r, result = .ok r ∧ r.status = .failed ∧ r.records.length = 2 := by
  have hSteps : stuckCase.steps ≠ [] := List.cons_ne_nil _ _
  obtain ⟨turn, result, after, hDebug, hCase, -, hAgrees, -⟩ :=
    proceed_start_agrees bareExecutor {} noClosing {} (History.start "out" false) hSteps 3
  have hStopped : (Outside.runIn noClosing {} ((start stuckCase 3).proceed
      (bareExecutor.executeStep {}) (History.start "out" false))).1.debugger.state = .failed ∧
    (Outside.runIn noClosing {} ((start stuckCase 3).proceed
      (bareExecutor.executeStep {}) (History.start "out" false))).1.debugger.index = 1 := by
    decide +kernel
  rw [hDebug] at hStopped
  exact ⟨hSteps, turn, result, after, hDebug, hCase, hStopped.1, hStopped.2,
    (hAgrees.failed 1).mp hStopped⟩

end Debugger

end ScenarioRunner
