import ScenarioRunner.Proofs.Debugger.Invariant
import ScenarioRunner.Proofs.Runner
import ScenarioRunner.Proofs.Session

/-! What a command may end with. It is refused just if it is not offered, and then nothing has
happened; where a step raises a fault of its own, the debugger waits at that step with the records of
the steps that came before. -/
namespace ScenarioRunner

namespace Debugger

/-- No step raises what a refused command ends with. -/
def RaisesNoRefusal (perform : Performer) (s : Surroundings) : Prop :=
  ∀ w h step fault, (Outside.runIn s w (perform h step)).1.1 = .error fault →
    fault.isCommandFault = false

/-- An executor raises no refusal unless some outside party does: there is a record of every step for
which a session is had. -/
theorem raisesNoRefusal_executeStep (e : Executor) (context : Context) {s : Surroundings}
    (hAnswers : ∀ earlier c fault, (s.respond earlier c).outcome = .error fault →
      fault.isCommandFault = false) :
    RaisesNoRefusal (e.executeStep context) s := by
  intro w h step fault hFault
  rcases hRun : Outside.runIn s w (e.executeStep context h step) with ⟨⟨raised | record, h'⟩, w'⟩
  · rw [hRun] at hFault
    cases hFault
    obtain ⟨hSession, -⟩ := Executor.executeStep_eq_error hRun
    exact e.provider.raisesOnly_getSession hAnswers (fun _ _ => rfl) step.workflow w fault
      (by rw [hSession])
  · rw [hRun] at hFault
    cases hFault

/-- A turn that a step put an end to: the debugger waits at the step that raised the fault, and has
records of the steps before it. -/
structure Interrupted (perform : Performer) (s : Surroundings) (h : History) (w : World)
    (d : Debugger) (fault : Fault) (turn : Turn) (after : World) (records : List Record) : Prop where
  course : Course perform s h w (d.case.steps.drop d.index) records (.raised fault) turn.history after
  state : turn.debugger.state = .pending
  raised : ∃ step h₁ w₁, turn.debugger.currentStep? = some step ∧
    Outside.runIn s w₁ (perform h₁ step) = ((.error fault, turn.history), after)
  debugger : turn.debugger =
    { d with
      index := d.index + records.length
      records := d.records ++ records
      lastRecord := records.getLast?.or d.lastRecord }

variable {perform : Performer} {s : Surroundings} {w : World} {h : History} {d : Debugger}
  {step : Step} {rest steps : List Step} {fault : Fault} {text : String}

theorem currentStep?_of_pending (hPending : d.state = .pending) :
    d.currentStep? = d.case.steps[d.index]? := by
  simp [currentStep?, isDone, hPending, DebugState.isDone]

/-- A single step that raises leaves the debugger at that step, with no record made. -/
theorem interrupted_of_execute (hReady : d.Ready (step :: rest)) {turn : Turn} {after : World}
    (hRun : Outside.runIn s w (d.execute perform h) = (turn, after))
    (hFault : turn.outcome = .error fault) :
    Interrupted perform s h w d fault turn after [] := by
  rw [runIn_execute hReady] at hRun
  rcases hStep : Outside.runIn s w (perform h step) with ⟨⟨raised | record, h'⟩, w'⟩
  · rw [hStep] at hRun
    obtain ⟨rfl, rfl⟩ := Prod.mk.inj hRun
    obtain rfl := Except.error.inj hFault
    refine ⟨by rw [hReady.left]; exact .raised hStep, hReady.pending, ⟨step, h, w, ?_, hStep⟩, ?_⟩
    · rw [currentStep?_of_pending hReady.pending, hReady.getElem?_index]
    · simp
  · rw [hStep] at hRun
    obtain ⟨rfl, -⟩ := Prod.mk.inj hRun
    cases hFault

/-- The loop is interrupted where its course ends with a fault. -/
theorem interrupted_of_course {h' : History} {w' : World} {records : List Record}
    (hCourse : Course perform s h w steps records (.raised fault) h' w') (hReady : d.Ready steps) :
    Interrupted perform s h w d fault ⟨.error fault, records.foldl record d, h'⟩ w' records := by
  obtain ⟨raising, h₁, w₁, hAt, hRaised⟩ := hCourse.exists_raised_step
  obtain ⟨hLength, -⟩ := List.getElem?_eq_some_iff.mp hAt
  have hDebugger := foldl_record_of_success hReady hCourse.success_of_mem hLength
  have hState : (records.foldl record d).state = .pending := by
    rw [hDebugger]
    simp [hReady.state, List.ne_nil_of_length_pos (Nat.zero_lt_of_lt hLength)]
  refine ⟨by rw [hReady.left]; exact hCourse, hState, ⟨raising, h₁, w₁, ?_, hRaised⟩, hDebugger⟩
  rw [currentStep?_of_pending hState, hDebugger, ← hAt, ← hReady.left, List.getElem?_drop]

/-- A step that raises while running on leaves the debugger at that step, with the records of the
steps before it. -/
theorem interrupted_of_proceed (hReady : d.Ready (step :: rest)) {turn : Turn} {after : World}
    (hRun : Outside.runIn s w (d.proceed perform h) = (turn, after))
    (hFault : turn.outcome = .error fault) :
    ∃ records, Interrupted perform s h w d fault turn after records := by
  obtain ⟨records, ending, h', w', hCourse⟩ := Course.exists_course perform s h w (step :: rest)
  rw [proceed_of_pending hReady.pending, runIn_proceedFrom_of_course hCourse hReady] at hRun
  obtain ⟨rfl, rfl⟩ := Prod.mk.inj hRun
  cases ending with
  | passed | failed => cases hFault
  | raised raised =>
      obtain rfl := Except.error.inj hFault
      refine ⟨records, ?_⟩
      simpa [CourseEnd.records, outcomeOf] using interrupted_of_course hCourse hReady

/-- A command that is offered is not refused; what it fails with was raised by a step. -/
theorem exists_interrupted_of_allowed {case : TestCase} {maxRetries : Int} {log : Log}
    (hInv : Invariant case maxRetries log d)
    (hName : DebugCommand.nameOf text ∈ d.allowed.map DebugCommand.name) {turn : Turn}
    {after : World} (hRun : Outside.runIn s w (d.dispatch perform h text) = (turn, after))
    (hFault : turn.outcome = .error fault) :
    ∃ records, Interrupted perform s h w d fault turn after records ∧
      (DebugCommand.ofText? text = some .execute → records = []) := by
  obtain ⟨command, hText, hAdmits⟩ := nameOf_mem_allowed_iff.mp hName
  have hSettled {change : Except CommandFault Debugger} {d' : Debugger} (hChange : change = .ok d')
      (hTurn : Outside.runIn s w (pure (d.settle h change)) = (turn, after)) : False := by
    obtain ⟨rfl, -⟩ := Prod.mk.inj hTurn
    rw [hChange] at hFault
    cases hFault
  have hReady (hPending : d.state = .pending) : ∃ step rest, d.Ready (step :: rest) :=
    exists_ready_of_pending hPending (hInv.case_eq ▸ hInv.index_lt (.inl hPending))
  rw [dispatch, hText] at hRun
  cases command with
  | execute =>
      obtain ⟨step, rest, hReady⟩ := hReady hAdmits
      exact ⟨[], interrupted_of_execute hReady hRun hFault, fun _ => rfl⟩
  | proceed =>
      obtain ⟨step, rest, hReady⟩ := hReady hAdmits
      obtain ⟨records, hInterrupted⟩ := interrupted_of_proceed hReady hRun hFault
      refine ⟨records, hInterrupted, fun hExecute => ?_⟩
      cases hText.symm.trans hExecute
  | skip => exact (hSettled (skip_eq_ok_iff.mpr ⟨hAdmits, rfl⟩) hRun).elim
  | retry => exact (hSettled (retry_eq_ok_iff.mpr ⟨hAdmits, rfl⟩) hRun).elim
  | abort => exact (hSettled (abort_eq_ok_iff.mpr ⟨hAdmits, rfl⟩) hRun).elim

/-- A command is refused just if its name is not among those of the commands that are offered. A
refusal changes nothing and asks nobody for anything. Every other fault is that of a step: the
debugger waits at it, and what it has besides are the records of the steps before it. -/
theorem dispatch_refused_iff {case : TestCase} {maxRetries : Int} {log : Log}
    (hReached : Reached case maxRetries log d) (hRaises : RaisesNoRefusal perform s) (w : World)
    (h : History) (text : String) :
    ∃ turn after, Outside.runIn s w (d.dispatch perform h text) = (turn, after) ∧
      ((∃ refusal, turn.outcome = .error (.command refusal)) ↔
        DebugCommand.nameOf text ∉ d.allowed.map DebugCommand.name) ∧
      ((∃ refusal, turn.outcome = .error (.command refusal)) →
        turn.debugger = d ∧ turn.history = h ∧ after = w) ∧
      ∀ fault, turn.outcome = .error fault → fault.isCommandFault = false →
        ∃ records, Interrupted perform s h w d fault turn after records ∧
          (DebugCommand.ofText? text = some .execute → records = []) := by
  by_cases hName : DebugCommand.nameOf text ∈ d.allowed.map DebugCommand.name
  · rcases hRun : Outside.runIn s w (d.dispatch perform h text) with ⟨turn, after⟩
    have hNotRefused : ¬ ∃ refusal, turn.outcome = .error (.command refusal) := by
      rintro ⟨refusal, hRefused⟩
      obtain ⟨records, hInterrupted, -⟩ :=
        exists_interrupted_of_allowed hReached.invariant hName hRun hRefused
      obtain ⟨step, h₁, w₁, -, hStep⟩ := hInterrupted.raised
      cases hRaises w₁ h₁ step (.command refusal) (by rw [hStep])
    refine ⟨turn, after, rfl, iff_of_false hNotRefused (not_not.mpr hName), fun hRefused => ?_,
      fun fault hFault _ => ?_⟩
    · exact absurd hRefused hNotRefused
    · exact exists_interrupted_of_allowed hReached.invariant hName hRun hFault
  · obtain ⟨refusal, hRefused⟩ := @dispatch_of_not_allowed d perform h text hName
    rw [hRefused]
    refine ⟨_, w, rfl, iff_of_true ⟨refusal, rfl⟩ hName, fun _ => ⟨rfl, rfl, rfl⟩,
      fun fault hFault hOther => ?_⟩
    cases hFault
    cases hOther

def bareExecutor : Executor where
  registry := ⟨[]⟩
  config := {}
  provider := .given

/-- A provider that has a session to give only once. -/
def oneSession : Surroundings where
  respond earlier c :=
    match c, earlier with
    | .openSession _, _ :: _ => { outcome := .error (.reported .unavailable "gone") }
    | _, _ => { outcome := .ok .null }

/-- What comes of a first command, where there is one session only. -/
def firstTurn (text : String) : Turn × World :=
  Outside.runIn oneSession {} ((start stuckCase 1).dispatch (bareExecutor.executeStep {})
    (History.start "out" false) text)

/-- Going on is offered at the start and trying again is not. There is no session for the second
step, so the debugger goes on to it and stays there, with the record of the first. -/
theorem dispatch_refused_iff_oneSession :
    Reached stuckCase 1 [] (start stuckCase 1) ∧
      RaisesNoRefusal (bareExecutor.executeStep {}) oneSession ∧
      (∃ refusal, (firstTurn " R ").1.outcome = .error (.command refusal)) ∧
      ∃ turn after fault records, firstTurn "Continue" = (turn, after) ∧ records.length = 1 ∧
        Interrupted (bareExecutor.executeStep {}) oneSession (History.start "out" false) {}
          (start stuckCase 1) fault turn after records := by
  have hStart : Reached stuckCase 1 [] (start stuckCase 1) := .start
  have hRaises : RaisesNoRefusal (bareExecutor.executeStep {}) oneSession := by
    refine raisesNoRefusal_executeStep bareExecutor {} fun earlier c fault hFault => ?_
    simp only [oneSession] at hFault
    split at hFault
    · cases hFault
      rfl
    · cases hFault
  obtain ⟨refused, _, hRetry, hRefused, -⟩ :=
    dispatch_refused_iff hStart hRaises {} (History.start "out" false) " R "
  obtain ⟨turn, after, hProceed, -, -, hInterrupted⟩ :=
    dispatch_refused_iff hStart hRaises {} (History.start "out" false) "Continue"
  refine ⟨hStart, hRaises, ?_, turn, after, ?_⟩
  · rw [firstTurn, hRetry]
    exact hRefused.mpr (by decide +kernel)
  · have hEnd : (firstTurn "Continue").1.outcome.map (fun _ => ()) =
        .error (.reported .unavailable "gone") := by decide +kernel
    have hIndex : (firstTurn "Continue").1.debugger.index = 1 := by decide +kernel
    rw [firstTurn, hProceed] at hEnd hIndex
    cases hOutcome : turn.outcome with
    | ok made =>
        rw [hOutcome] at hEnd
        cases hEnd
    | error fault =>
        rw [hOutcome] at hEnd
        cases hEnd
        obtain ⟨records, hInterrupted, -⟩ := hInterrupted _ hOutcome rfl
        rw [hInterrupted.debugger] at hIndex
        exact ⟨_, records, hProceed, by simpa [start] using hIndex, hInterrupted⟩

end Debugger

end ScenarioRunner
