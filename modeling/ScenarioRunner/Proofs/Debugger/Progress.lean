import ScenarioRunner.Proofs.Course

/-! How a debugger goes on by itself. Its loop follows the course of the steps that are left: it takes
up the records of the course one by one, and stops where the course ends. -/
namespace ScenarioRunner

namespace Debugger

variable {d : Debugger} {step : Step} {rest steps : List Step} {records : List Record}

@[simp] theorem case_record (r : Record) : (d.record r).case = d.case := by
  cases hSuccess : r.success <;> simp [record, advance, hSuccess]

@[simp] theorem records_record (r : Record) : (d.record r).records = d.records ++ [r] := by
  cases hSuccess : r.success <;> simp [record, advance, hSuccess]

/-- A failure stops the debugger where it is. -/
theorem record_of_failure {r : Record} (hFailure : r.success = false) :
    (d.record r).state = .failed ∧ (d.record r).index = d.index := by
  simp [record, hFailure]

/-- Only success moves a session on to its next step. -/
theorem index_record_of_success {r : Record} (hSuccess : r.success = true) :
    (d.record r).index = d.index + 1 := by
  simp [record, advance, hSuccess]

/-- These steps are left, and unless there is none of them the debugger waits to carry them out. -/
structure Ready (d : Debugger) (steps : List Step) : Prop where
  left : d.case.steps.drop d.index = steps
  state : d.state = if steps.isEmpty then .finished else .pending

/-- At the start the whole case is still to be done. -/
theorem ready_start (case : TestCase) (maxRetries : Int) :
    (start case maxRetries).Ready case.steps where
  left := rfl
  state := rfl

/-- With a step pending, the steps from there on are still to be done. -/
theorem ready_of_pending (hPending : d.state = .pending)
    (hIndex : d.index < d.case.steps.length) : d.Ready (d.case.steps.drop d.index) where
  left := rfl
  state := by simp [hPending, hIndex]

theorem exists_ready_of_pending (hPending : d.state = .pending)
    (hIndex : d.index < d.case.steps.length) : ∃ step rest, d.Ready (step :: rest) := by
  have hReady := ready_of_pending hPending hIndex
  rw [List.drop_eq_getElem_cons hIndex] at hReady
  exact ⟨_, _, hReady⟩

namespace Ready

theorem pending (hReady : d.Ready (step :: rest)) : d.state = .pending := hReady.state

theorem finished (hReady : d.Ready []) : d.state = .finished := hReady.state

theorem getElem?_index (hReady : d.Ready (step :: rest)) :
    d.case.steps[d.index]? = some step := by
  rw [← List.head?_drop, hReady.left, List.head?_cons]

/-- A success leaves the steps behind it to be done. -/
theorem record (hReady : d.Ready (step :: rest)) {r : Record} (hSuccess : r.success = true) :
    (d.record r).Ready rest := by
  have hRest : d.case.steps.drop (d.index + 1) = rest := by
    rw [← List.tail_drop, hReady.left, List.tail_cons]
  refine ⟨by rw [case_record, index_record_of_success hSuccess, hRest], ?_⟩
  simp [Debugger.record, advance, hSuccess, ← hRest]

/-- Records of success lead on to the steps that are left then. -/
theorem foldl_record (hReady : d.Ready steps) (hAll : ∀ r ∈ records, r.success = true)
    (hLength : records.length ≤ steps.length) :
    (records.foldl Debugger.record d).Ready (steps.drop records.length) := by
  induction records generalizing d steps with
  | nil => exact hReady
  | cons r others ih =>
      obtain ⟨hSuccess, hOthers⟩ := List.forall_mem_cons.mp hAll
      cases steps with
      | nil => simp at hLength
      | cons step rest =>
          exact ih (hReady.record hSuccess) hOthers (Nat.le_of_succ_le_succ hLength)

end Ready

/-- The last of some records is the last of the later ones, or the first if there are no others. -/
theorem getLast?_cons_or (r : Record) (others : List Record) (last : Option Record) :
    (r :: others).getLast?.or last = others.getLast?.or (some r) := by
  cases hLast : others.getLast? <;> simp [List.getLast?_cons, hLast]

/-- A success that is not that of the last step leaves the debugger pending at the next one. -/
theorem record_of_next (hPending : d.state = .pending) {r : Record} (hSuccess : r.success = true)
    (hNext : (d.record r).state = .pending) :
    d.record r =
      { d with index := d.index + 1, records := d.records ++ [r], lastRecord := some r } := by
  have hState : (if d.case.steps.length ≤ d.index + 1 then DebugState.finished else .pending) =
      d.state := by
    simpa [record, advance, hSuccess, hPending] using hNext
  simp [record, advance, hSuccess, hState]

/-- Records of success that do not reach the end change nothing but where the debugger is and what it
has recorded. -/
theorem foldl_record_of_success (hReady : d.Ready steps)
    (hAll : ∀ r ∈ records, r.success = true) (hLength : records.length < steps.length) :
    records.foldl record d =
      { d with
        index := d.index + records.length
        records := d.records ++ records
        lastRecord := records.getLast?.or d.lastRecord } := by
  induction records generalizing d steps with
  | nil => simp
  | cons r others ih =>
      obtain ⟨hSuccess, hOthers⟩ := List.forall_mem_cons.mp hAll
      match steps, hLength with
      | [_], hLength => simp at hLength
      | step :: next :: rest, hLength =>
          have hNext : (d.record r).Ready (next :: rest) := hReady.record hSuccess
          have hHere := record_of_next hReady.pending hSuccess hNext.pending
          rw [List.foldl_cons, ih hNext hOthers (Nat.lt_of_succ_lt_succ hLength), hHere]
          simp only [List.length_cons, List.append_assoc, List.singleton_append,
            Nat.add_assoc, Nat.add_comm 1, mk.injEq, true_and, and_true]
          exact (getLast?_cons_or r others d.lastRecord).symm

/-- Records that are made one by one are added in their order. -/
theorem records_foldl_record : (records.foldl record d).records = d.records ++ records := by
  induction records generalizing d with
  | nil => simp
  | cons r others ih => rw [List.foldl_cons, ih, records_record, List.append_assoc]; rfl

/-! The loop. -/

variable {perform : Performer} {s : Surroundings} {h h' : History} {w w' : World}
  {last : Option Record} {ending : CourseEnd}

/-- Running on does nothing where no step is pending. -/
theorem proceedFrom_of_not_pending (hState : d.state ≠ .pending) :
    proceedFrom perform h d last = pure ⟨.ok last, d, h⟩ := by
  rw [proceedFrom, dif_neg hState]

/-- Executing a step either raises and leaves the debugger alone, or adds the record that was made.
-/
theorem runIn_execute (hReady : d.Ready (step :: rest)) :
    Outside.runIn s w (d.execute perform h) =
      match Outside.runIn s w (perform h step) with
      | ((.error fault, h), w) => (⟨.error fault, d, h⟩, w)
      | ((.ok record, h), w) => (⟨.ok (some record), d.record record, h⟩, w) := by
  have hRequire : d.require [.pending] .execute = .ok () := by simp [require, hReady.pending]
  rw [execute, hRequire, hReady.getElem?_index]
  dsimp only
  rw [Outside.runIn_bind]
  rcases Outside.runIn s w (perform h step) with ⟨⟨_ | _, _⟩, _⟩ <;> rfl

/-- While it is pending the loop carries out one step after another. -/
theorem runIn_proceedFrom (hReady : d.Ready (step :: rest)) :
    Outside.runIn s w (proceedFrom perform h d last) =
      match Outside.runIn s w (perform h step) with
      | ((.error fault, h), w) => (⟨.error fault, d, h⟩, w)
      | ((.ok record, h), w) =>
        Outside.runIn s w (proceedFrom perform h (d.record record) (some record)) := by
  rw [proceedFrom, dif_pos hReady.pending]
  split
  · rename_i hNone
    simp [hReady.getElem?_index] at hNone
  · rename_i found hFound
    obtain rfl : step = found := by simpa [hReady.getElem?_index] using hFound
    rw [Outside.runIn_bind]
    rcases Outside.runIn s w (perform h step) with ⟨⟨_ | _, _⟩, _⟩ <;> rfl

/-- What a debugger shows when a course has ended, where `last` is the last record of a success. -/
def outcomeOf (last : Option Record) : CourseEnd → Except Fault (Option Record)
  | .passed => .ok last
  | .failed record => .ok (some record)
  | .raised fault => .error fault

/-- The loop follows the course of the steps that are left. -/
theorem runIn_proceedFrom_of_course
    (hCourse : Course perform s h w steps records ending h' w') (hReady : d.Ready steps) :
    Outside.runIn s w (proceedFrom perform h d last) =
      (⟨outcomeOf (records.getLast?.or last) ending, (records ++ ending.records).foldl record d, h'⟩,
        w') := by
  induction hCourse generalizing d last with
  | passed =>
      rw [proceedFrom_of_not_pending (by simp [hReady.finished])]
      rfl
  | raised hStep =>
      rw [runIn_proceedFrom hReady, hStep]
      rfl
  | @failed h h' w w' step rest r hStep hFailure =>
      have hStopped : (d.record r).state ≠ .pending := by simp [(record_of_failure hFailure).1]
      rw [runIn_proceedFrom hReady, hStep]
      dsimp only
      rw [proceedFrom_of_not_pending hStopped]
      rfl
  | @succeeded h h₁ h' w w₁ w' step rest r records ending hStep hSuccess hRest ih =>
      rw [runIn_proceedFrom hReady, hStep]
      dsimp only
      rw [ih (hReady.record hSuccess), getLast?_cons_or]
      rfl

end Debugger

end ScenarioRunner
