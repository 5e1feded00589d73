import Mathlib.Data.List.Basic
import ScenarioRunner.Proofs.Debugger.Command
import ScenarioRunner.Proofs.Debugger.Progress

/-! What holds of a debugger whatever commands it was given and however the steps fared. No debugger
keeps count of how often the step at a position was carried out; a log of its records, each with the
position at which it was made, is kept here beside it. -/
namespace ScenarioRunner

namespace Debugger

abbrev Log := List (Record × Nat)

section Making

variable (perform : Performer)

/-- The records that the loop makes from here on. -/
def madeFrom (h : History) (d : Debugger) : Outside Log :=
  if _hPending : d.state = .pending then
    match _hStep : d.case.steps[d.index]? with
    | none => return []
    | some step => do
      match ← perform h step with
      | (.error _, _) => return []
      | (.ok record, h) => return (record, d.index) :: (← madeFrom h (d.record record))
  else return []
termination_by d.ahead
decreasing_by exact ahead_record_lt _hPending _hStep record

def made (d : Debugger) (h : History) (text : String) : Outside Log :=
  match DebugCommand.ofText? text with
  | some .execute => do
    match (← d.execute perform h).outcome with
    | .ok (some record) => return [(record, d.index)]
    | _ => return []
  | some .proceed => madeFrom perform h d
  | _ => return []

end Making

/-- A debugger that can be reached by commands, with the log of its records. Each command may find
other surroundings, another world and another history, and steps may fare in any way. -/
inductive Reached (case : TestCase) (maxRetries : Int) : Log → Debugger → Prop
  | start : Reached case maxRetries [] (start case maxRetries)
  | turn {log : Log} {d : Debugger} (hBefore : Reached case maxRetries log d)
      (perform : Performer) (s : Surroundings) (w : World) (h : History) (text : String) :
      Reached case maxRetries (log ++ (Outside.runIn s w (d.made perform h text)).1)
        (Outside.runIn s w (d.dispatch perform h text)).1.debugger

def Log.madeAt (log : Log) (index : Nat) : Nat := (log.map Prod.snd).count index

/-- One more record counts for its own place only. -/
theorem Log.madeAt_append_singleton (log : Log) (r : Record) (place i : Nat) :
    (log ++ [(r, place)]).madeAt i = log.madeAt i + if place = i then 1 else 0 := by
  simp [madeAt, List.count_append, List.count_singleton]

/-- No record is of a place that none was made at. -/
theorem Log.ne_of_madeAt_eq_zero {log : Log} {i : Nat} (hNone : log.madeAt i = 0) :
    ∀ entry ∈ log, entry.2 ≠ i := by
  intro entry hEntry hPlace
  exact List.count_eq_zero.mp hNone (hPlace ▸ List.mem_map_of_mem hEntry)

/-- The debugger is at a step of its case, or behind the last one if it has finished. -/
structure Placed (case : TestCase) (maxRetries : Int) (d : Debugger) : Prop where
  case_eq : d.case = case
  maxRetries_eq : d.maxRetries = maxRetries
  index_le : d.index ≤ case.steps.length
  index_lt : d.state = .pending ∨ d.state = .failed → d.index < case.steps.length
  finished : d.state = .finished ↔ d.index = case.steps.length

/-- Each step that lies behind was either skipped or carried out with success. -/
structure Counted (d : Debugger) : Prop where
  index_eq : d.index = d.skipped.length + d.records.countP (·.success)
  skipped_sorted : d.skipped.Pairwise (· < ·)
  skipped_lt : ∀ i ∈ d.skipped, i < d.index

/-- The log tells of all records. No step was tried again too often, none was carried out more often
than that, and later ones not at all. -/
structure Logged (maxRetries : Int) (log : Log) (d : Debugger) : Prop where
  records : log.map Prod.fst = d.records
  madeAt_le : ∀ i, log.madeAt i ≤ 1 + d.retriesUsed i
  retriesUsed_le : ∀ i, (d.retriesUsed i : Int) ≤ max 0 maxRetries
  untouched : ∀ i, d.index < i → log.madeAt i = 0 ∧ d.retriesUsed i = 0

/-- At the current step there are failures only: one for each time that it was tried again, and one
more if it has failed since. -/
structure Attempted (log : Log) (d : Debugger) : Prop where
  pending : d.state = .pending → log.madeAt d.index = d.retriesUsed d.index
  failed : d.state = .failed → log.madeAt d.index = 1 + d.retriesUsed d.index
  failures : d.state = .pending ∨ d.state = .failed →
    ∀ entry ∈ log, entry.2 = d.index → entry.1.success = false

/-- How the fields of a debugger for a case and the log of its records hang together. -/
structure Invariant (case : TestCase) (maxRetries : Int) (log : Log) (d : Debugger) : Prop extends
  Placed case maxRetries d, Counted d, Logged maxRetries log d, Attempted log d

variable {case : TestCase} {maxRetries : Int} {log : Log} {d d' : Debugger} {r : Record}

/-- Moving on ends the session behind the last step, and finds the next one pending before it. -/
theorem advance_state :
    d.advance.state = if d.case.steps.length ≤ d.index + 1 then .finished else .pending := rfl

/-- The place stays within the case when the debugger moves on. -/
theorem Placed.advance (hPlaced : Placed case maxRetries d) (hIndex : d.index < case.steps.length) :
    Placed case maxRetries d.advance where
  case_eq := hPlaced.case_eq
  maxRetries_eq := hPlaced.maxRetries_eq
  index_le := hIndex
  index_lt := by
    rw [advance_state, hPlaced.case_eq]
    split
    · simp
    · rename_i hNext
      exact fun _ => Nat.not_le.mp hNext
  finished := by
    show d.advance.state = .finished ↔ d.index + 1 = case.steps.length
    rw [advance_state, hPlaced.case_eq]
    split
    · simp
      omega
    · simp
      omega

/-- What the log tells stays true when the debugger moves on. -/
theorem Logged.advance (hLogged : Logged maxRetries log d) : Logged maxRetries log d.advance where
  records := hLogged.records
  madeAt_le := hLogged.madeAt_le
  retriesUsed_le := hLogged.retriesUsed_le
  untouched i hLater := hLogged.untouched i (Nat.lt_of_succ_lt hLater)

/-- Nothing has happened yet at a step that the debugger comes to. -/
theorem Logged.attempted_advance (hLogged : Logged maxRetries log d) : Attempted log d.advance := by
  obtain ⟨hMade, hRetries⟩ := hLogged.untouched (d.index + 1) (Nat.lt_succ_self _)
  refine ⟨fun _ => hMade.trans hRetries.symm, fun hFailed => ?_, fun _ entry hEntry hPlace => ?_⟩
  · rw [advance_state] at hFailed
    split at hFailed <;> cases hFailed
  · exact absurd hPlace (Log.ne_of_madeAt_eq_zero hMade entry hEntry)

/-- A record that is made where the debugger waits. -/
theorem Logged.note (hLogged : Logged maxRetries log d)
    (hHere : log.madeAt d.index = d.retriesUsed d.index) (r : Record) :
    Logged maxRetries (log ++ [(r, d.index)])
      { d with records := d.records ++ [r], lastRecord := some r } where
  records := by rw [List.map_append, hLogged.records, List.map_singleton]
  madeAt_le i := by
    show Log.madeAt _ i ≤ 1 + d.retriesUsed i
    have hBefore := hLogged.madeAt_le i
    rw [Log.madeAt_append_singleton]
    split
    · subst i
      omega
    · omega
  retriesUsed_le := hLogged.retriesUsed_le
  untouched i hLater := by
    have hOther : d.index ≠ i := Nat.ne_of_lt hLater
    rw [Log.madeAt_append_singleton, if_neg hOther]
    exact hLogged.untouched i hLater

namespace Invariant

/-- A session starts with an empty log and all retries left. -/
theorem start : Invariant case maxRetries [] (start case maxRetries) where
  case_eq := rfl
  maxRetries_eq := rfl
  index_le := Nat.zero_le _
  index_lt := by cases hSteps : case.steps <;> simp [Debugger.start, hSteps]
  finished := by cases hSteps : case.steps <;> simp [Debugger.start, hSteps]
  index_eq := rfl
  skipped_sorted := .nil
  skipped_lt := by simp [Debugger.start]
  records := rfl
  madeAt_le := by simp [Log.madeAt]
  retriesUsed_le i := Int.le_max_left 0 maxRetries
  untouched := by simp [Log.madeAt, Debugger.start, retriesUsed]
  pending := by simp [Log.madeAt, Debugger.start, retriesUsed]
  failed := by cases hSteps : case.steps <;> simp [Debugger.start, hSteps]
  failures := by simp

/-- Recording a step at its place keeps the invariant, whether it succeeded or failed. -/
theorem record (hInv : Invariant case maxRetries log d) (hPending : d.state = .pending)
    (r : Record) : Invariant case maxRetries (log ++ [(r, d.index)]) (d.record r) := by
  have hIndex := hInv.index_lt (.inl hPending)
  have hHere := hInv.pending hPending
  have hNoted := hInv.toLogged.note hHere r
  cases hSuccess : r.success with
  | true =>
      have hRecord : d.record r =
          { d with records := d.records ++ [r], lastRecord := some r }.advance := by
        simp [Debugger.record, hSuccess]
      rw [hRecord]
      refine ⟨Placed.advance { hInv.toPlaced with } hIndex, ⟨?_, hInv.skipped_sorted, ?_⟩,
        hNoted.advance, hNoted.attempted_advance⟩
      · simp [Debugger.advance, hInv.index_eq, hSuccess, Nat.add_assoc]
      · exact fun i hi => Nat.lt_succ_of_lt (hInv.skipped_lt i hi)
  | false =>
      have hRecord : d.record r =
          { d with records := d.records ++ [r], lastRecord := some r, state := .failed } := by
        simp [Debugger.record, hSuccess]
      rw [hRecord]
      refine ⟨{ hInv.toPlaced with index_lt := fun _ => hIndex, finished := ?_ },
        { hInv.toCounted with index_eq := ?_ }, { hNoted with }, ⟨by simp, fun _ => ?_, fun _ => ?_⟩⟩
      · simp [Nat.ne_of_lt hIndex]
      · simp [hInv.index_eq, hSuccess]
      · rw [Log.madeAt_append_singleton, if_pos rfl, hHere, Nat.add_comm]
        rfl
      · simp only [List.forall_mem_append, List.forall_mem_singleton]
        exact ⟨hInv.failures (.inl hPending), fun _ => hSuccess⟩

/-- Skipping keeps the invariant, as the log has no part in it. -/
theorem skip (hInv : Invariant case maxRetries log d) (hSkip : d.skip = .ok d') :
    Invariant case maxRetries log d' := by
  obtain ⟨hOpen, rfl⟩ := skip_eq_ok_iff.mp hSkip
  have hIndex := hInv.index_lt hOpen
  refine ⟨Placed.advance { hInv.toPlaced with } hIndex, ⟨?_, ?_, ?_⟩,
    Logged.advance { hInv.toLogged with }, Logged.attempted_advance { hInv.toLogged with }⟩
  · have hCount := hInv.index_eq
    simp only [advance, List.length_append, List.length_singleton]
    omega
  · exact List.pairwise_append.mpr ⟨hInv.skipped_sorted, List.pairwise_singleton _ _,
      fun i hi j hj => List.mem_singleton.mp hj ▸ hInv.skipped_lt i hi⟩
  · intro i hi
    rcases List.mem_append.mp hi with hBefore | hHere
    · exact Nat.lt_succ_of_lt (hInv.skipped_lt i hBefore)
    · exact List.mem_singleton.mp hHere ▸ Nat.lt_succ_self _

/-- Retrying keeps the invariant: it uses one retry of the step, which had one left. -/
theorem retry (hInv : Invariant case maxRetries log d) (hRetry : d.retry = .ok d') :
    Invariant case maxRetries log d' := by
  obtain ⟨hCan, rfl⟩ := retry_eq_ok_iff.mp hRetry
  have hFailed := state_of_canRetry hCan
  have hBound := retriesUsed_lt_of_canRetry hCan
  have hIndex := hInv.index_lt (.inr hFailed)
  have hUsed (i : Nat) : (d.retried ++ [d.index]).count i =
      d.retriesUsed i + if d.index = i then 1 else 0 := by
    simp [retriesUsed, List.count_append, List.count_singleton]
  refine ⟨{ hInv.toPlaced with index_lt := fun _ => hIndex, finished := ?_ },
    { hInv.toCounted with }, ⟨hInv.records, fun i => ?_, fun i => ?_, fun i hLater => ?_⟩,
    ⟨fun _ => ?_, by simp, fun _ => hInv.failures (.inr hFailed)⟩⟩
  · simp [Nat.ne_of_lt hIndex]
  · have hBefore := hInv.madeAt_le i
    show log.madeAt i ≤ 1 + (d.retried ++ [d.index]).count i
    rw [hUsed]
    omega
  · have hBefore := hInv.retriesUsed_le i
    have hMax := hInv.maxRetries_eq
    show (((d.retried ++ [d.index]).count i : Nat) : Int) ≤ max 0 maxRetries
    rw [hUsed]
    split
    · subst i
      omega
    · omega
  · obtain ⟨hMade, hRetries⟩ := hInv.untouched i hLater
    have hOther : d.index ≠ i := Nat.ne_of_lt hLater
    refine ⟨hMade, ?_⟩
    show (d.retried ++ [d.index]).count i = 0
    rw [hUsed, hRetries, if_neg hOther]
  · show log.madeAt d.index = (d.retried ++ [d.index]).count d.index
    rw [hUsed, hInv.failed hFailed, if_pos rfl, Nat.add_comm]

/-- Aborting keeps the invariant, since it only changes the state. -/
theorem abort (hInv : Invariant case maxRetries log d) (hAbort : d.abort = .ok d') :
    Invariant case maxRetries log d' := by
  obtain ⟨hOpen, rfl⟩ := abort_eq_ok_iff.mp hAbort
  have hIndex : d.index ≠ case.steps.length := by
    intro hEnd
    simp [Admits, isDone, hInv.finished.mpr hEnd, DebugState.isDone] at hOpen
  exact ⟨{ hInv.toPlaced with index_lt := by simp, finished := by simpa using hIndex },
    { hInv.toCounted with }, { hInv.toLogged with }, ⟨by simp, by simp, by simp⟩⟩

end Invariant

/-! A command as a whole. -/

variable {perform : Performer} {s : Surroundings} {w w' : World} {h h' : History} {step : Step}
  {rest steps : List Step} {records : List Record} {ending : CourseEnd}

theorem madeFrom_of_not_pending (hState : d.state ≠ .pending) :
    madeFrom perform h d = pure [] := by
  rw [madeFrom, dif_neg hState]

/-- The records made from a pending step are its own and those of the steps behind it. -/
theorem runIn_madeFrom (hReady : d.Ready (step :: rest)) :
    Outside.runIn s w (madeFrom perform h d) =
      match Outside.runIn s w (perform h step) with
      | ((.error _, _), w) => ([], w)
      | ((.ok record, h), w) =>
        let (later, w) := Outside.runIn s w (madeFrom perform h (d.record record))
        ((record, d.index) :: later, w) := by
  rw [madeFrom, dif_pos hReady.pending]
  split
  · rename_i hNone
    simp [hReady.getElem?_index] at hNone
  · rename_i found hFound
    obtain rfl : step = found := by simpa [hReady.getElem?_index] using hFound
    rw [Outside.runIn_bind]
    rcases Outside.runIn s w (perform h step) with ⟨⟨_ | _, _⟩, _⟩ <;> rfl

/-- The loop makes the records of the course, at one position after another. -/
theorem runIn_madeFrom_of_course (hCourse : Course perform s h w steps records ending h' w')
    (hReady : d.Ready steps) :
    Outside.runIn s w (madeFrom perform h d) =
      ((records ++ ending.records).zipIdx d.index, w') := by
  induction hCourse generalizing d with
  | passed =>
      rw [madeFrom_of_not_pending (by simp [hReady.finished])]
      rfl
  | raised hStep =>
      rw [runIn_madeFrom hReady, hStep]
      rfl
  | @failed h h' w w' step rest r hStep hFailure =>
      have hStopped : (d.record r).state ≠ .pending := by simp [(record_of_failure hFailure).1]
      rw [runIn_madeFrom hReady, hStep]
      dsimp only
      rw [madeFrom_of_not_pending hStopped]
      rfl
  | @succeeded h h₁ h' w w₁ w' step rest r records ending hStep hSuccess hRest ih =>
      rw [runIn_madeFrom hReady, hStep]
      dsimp only
      rw [ih (hReady.record hSuccess), index_record_of_success hSuccess]
      rfl

namespace Invariant

/-- A whole course of records keeps the invariant, record by record. -/
theorem course (hInv : Invariant case maxRetries log d)
    (hCourse : Course perform s h w steps records ending h' w') (hReady : d.Ready steps) :
    Invariant case maxRetries (log ++ (records ++ ending.records).zipIdx d.index)
      ((records ++ ending.records).foldl Debugger.record d) := by
  induction hCourse generalizing d log with
  | passed | raised => simpa [CourseEnd.records] using hInv
  | @failed h h' w w' step rest r hStep hFailure => exact hInv.record hReady.pending r
  | @succeeded h h₁ h' w w₁ w' step rest r records ending hStep hSuccess hRest ih =>
      have hLater := ih (hInv.record hReady.pending r) (hReady.record hSuccess)
      rw [index_record_of_success hSuccess] at hLater
      simpa using hLater

/-- A command that is settled keeps the invariant if the change that it asks for does. -/
theorem settle (hInv : Invariant case maxRetries log d) {change : Except CommandFault Debugger}
    (hChange : ∀ d', change = .ok d' → Invariant case maxRetries log d') (h : History) :
    Invariant case maxRetries log (d.settle h change).debugger := by
  cases change with
  | ok changed => exact hChange changed rfl
  | error fault => exact hInv

/-- Whatever command is given and however the steps fare, the invariant is kept. -/
theorem dispatch (hInv : Invariant case maxRetries log d) (perform : Performer) (s : Surroundings)
    (w : World) (h : History) (text : String) :
    Invariant case maxRetries (log ++ (Outside.runIn s w (d.made perform h text)).1)
      (Outside.runIn s w (d.dispatch perform h text)).1.debugger := by
  rw [made, Debugger.dispatch]
  cases hText : DebugCommand.ofText? text with
  | none => simpa [Debugger.settle] using hInv
  | some command =>
      cases command with
      | execute =>
          by_cases hPending : d.state = .pending
          · obtain ⟨step, rest, hReady⟩ := exists_ready_of_pending hPending
              (hInv.case_eq ▸ hInv.index_lt (.inl hPending))
            dsimp only
            rw [Outside.runIn_bind, runIn_execute hReady]
            rcases Outside.runIn s w (perform h step) with ⟨⟨fault | record, h'⟩, w'⟩
            · simpa using hInv
            · exact hInv.record hPending record
          · dsimp only
            rw [execute_of_not_pending hPending]
            simpa using hInv
      | proceed =>
          by_cases hPending : d.state = .pending
          · have hReady := ready_of_pending hPending
              (hInv.case_eq ▸ hInv.index_lt (.inl hPending))
            obtain ⟨records, ending, h', w', hCourse⟩ :=
              Course.exists_course perform s h w (d.case.steps.drop d.index)
            have hLoop := @runIn_proceedFrom_of_course d _ _ perform s h h' w w' none _ hCourse hReady
            dsimp only
            rw [runIn_madeFrom_of_course hCourse hReady, proceed_of_pending hPending, hLoop]
            exact hInv.course hCourse hReady
          · dsimp only
            rw [proceed_of_not_pending hPending, madeFrom_of_not_pending hPending]
            simpa using hInv
      | skip => simpa using hInv.settle (fun d' hSkip => hInv.skip hSkip) h
      | retry => simpa using hInv.settle (fun d' hRetry => hInv.retry hRetry) h
      | abort => simpa using hInv.settle (fun d' hAbort => hInv.abort hAbort) h

end Invariant

/-- Whatever commands were given since the start, the invariant holds. -/
theorem Reached.invariant (hReached : Reached case maxRetries log d) :
    Invariant case maxRetries log d := by
  induction hReached with
  | start => exact .start
  | turn hBefore perform s w h text ih => exact ih.dispatch perform s w h text

/-- Whatever commands a debugger was given and however the steps fared, its fields hang together with
one another and with the log of its records; and once it is done, every further command is refused
with nothing changed and nobody asked for anything. -/
theorem invariant_of_reached (hReached : Reached case maxRetries log d) :
    Invariant case maxRetries log d ∧
      (d.isDone = true → ∀ (perform : Performer) (h : History) (text : String), ∃ fault,
        d.dispatch perform h text = pure ⟨.error (.command fault), d, h⟩) := by
  refine ⟨hReached.invariant, fun hDone perform h text => dispatch_of_not_allowed ?_⟩
  simp [allowed_of_isDone hDone]

def stuckRecord : Record where
  id := "1"
  descriptor := { kind := .act, wording := "press pay", resolved := "press pay" }
  success := false
  errorMessage := some "no such button"

def stuckCase : TestCase where
  name := "buy"
  steps := [{ action := "press pay" }, { action := "close" }]

/-- Steps that all fare like the one that never succeeds. -/
def stuck : Performer := fun h _ => return (.ok stuckRecord, h.append stuckRecord)

def quiet : Surroundings where
  respond _ _ := { outcome := .ok .null }

/-- The log and the debugger after a further command, with steps that never succeed. -/
theorem Reached.stuck {log : Log} {d : Debugger} (hBefore : Reached case maxRetries log d)
    (text : String) : Reached case maxRetries
      (log ++ (Outside.runIn quiet {} (d.made Debugger.stuck (History.start "out" false) text)).1)
      (Outside.runIn quiet {}
        (d.dispatch Debugger.stuck (History.start "out" false) text)).1.debugger :=
  .turn hBefore Debugger.stuck quiet {} (History.start "out" false) text

/-- The first step fails, is tried again, fails again and is given up: it was carried out twice. -/
theorem invariant_of_reached_stuck : ∃ log d, Reached stuckCase 1 log d ∧
    Invariant stuckCase 1 log d ∧ d.state = .aborted ∧ log.madeAt 0 = 2 ∧ d.retriesUsed 0 = 1 ∧
      ∃ fault, d.dispatch stuck (History.start "out" false) "c" =
        pure ⟨.error (.command fault), d, History.start "out" false⟩ := by
  have hStart : Reached stuckCase 1 [] (start stuckCase 1) := .start
  have hReached := (((hStart.stuck "e").stuck " Retry ").stuck "e").stuck "q"
  refine ⟨_, _, hReached, (invariant_of_reached hReached).1, ?_, ?_, ?_,
    (invariant_of_reached hReached).2 ?_ stuck (History.start "out" false) "c"⟩
  · decide +kernel
  · decide +kernel
  · decide +kernel
  · decide +kernel

end Debugger

end ScenarioRunner
