import ScenarioRunner.Debugger
import ScenarioRunner.Proofs.World

/-! How steps fare that are carried out one after another, up to the first that does not succeed.
Running a case and going on in a debugger follow the same course: what both leave behind is said here
in terms of it. -/
namespace ScenarioRunner

/-- How a course ends: behind its last step, at a step that failed, or at a step of which there is no
record. -/
inductive CourseEnd
  | passed
  | failed (record : Record)
  | raised (fault : Fault)

def CourseEnd.records : CourseEnd → List Record
  | passed => []
  | failed record => [record]
  | raised _ => []

/-- From a history and a world, steps are carried out up to the first that does not succeed; those
before it have these records. -/
inductive Course (perform : Performer) (s : Surroundings) :
    History → World → List Step → List Record → CourseEnd → History → World → Prop
  | passed {h : History} {w : World} : Course perform s h w [] [] .passed h w
  | failed {h h' : History} {w w' : World} {step : Step} {rest : List Step} {record : Record}
      (hStep : Outside.runIn s w (perform h step) = ((.ok record, h'), w'))
      (hFailure : record.success = false) :
      Course perform s h w (step :: rest) [] (.failed record) h' w'
  | raised {h h' : History} {w w' : World} {step : Step} {rest : List Step} {fault : Fault}
      (hStep : Outside.runIn s w (perform h step) = ((.error fault, h'), w')) :
      Course perform s h w (step :: rest) [] (.raised fault) h' w'
  | succeeded {h h₁ h' : History} {w w₁ w' : World} {step : Step} {rest : List Step}
      {record : Record} {records : List Record} {last : CourseEnd}
      (hStep : Outside.runIn s w (perform h step) = ((.ok record, h₁), w₁))
      (hSuccess : record.success = true)
      (hRest : Course perform s h₁ w₁ rest records last h' w') :
      Course perform s h w (step :: rest) (record :: records) last h' w'

namespace Course

variable {perform : Performer} {s : Surroundings} {h h' : History} {w w' : World}
  {steps : List Step} {records : List Record} {last : CourseEnd}

/-- All steps have a course. -/
theorem exists_course (perform : Performer) (s : Surroundings) (h : History) (w : World)
    (steps : List Step) :
    ∃ records last h' w', Course perform s h w steps records last h' w' := by
  induction steps generalizing h w with
  | nil => exact ⟨[], .passed, h, w, .passed⟩
  | cons step rest ih =>
      rcases hStep : Outside.runIn s w (perform h step) with ⟨⟨fault | record, h₁⟩, w₁⟩
      · exact ⟨[], .raised fault, h₁, w₁, .raised hStep⟩
      · cases hSuccess : record.success with
        | false => exact ⟨[], .failed record, h₁, w₁, .failed hStep hSuccess⟩
        | true =>
            obtain ⟨records, last, h', w', hRest⟩ := ih h₁ w₁
            exact ⟨record :: records, last, h', w', .succeeded hStep hSuccess hRest⟩

/-- The records before the last one are all of steps that succeeded. -/
theorem success_of_mem (hCourse : Course perform s h w steps records last h' w') :
    ∀ record ∈ records, record.success = true := by
  induction hCourse with
  | passed | failed | raised => simp
  | succeeded hStep hSuccess hRest ih => exact List.forall_mem_cons.mpr ⟨hSuccess, ih⟩

/-- A course that passes goes through all steps. -/
theorem length_of_passed (hCourse : Course perform s h w steps records .passed h' w') :
    records.length = steps.length := by
  generalize hLast : CourseEnd.passed = last at hCourse
  induction hCourse with
  | passed => rfl
  | failed | raised => cases hLast
  | succeeded hStep hSuccess hRest ih => exact congrArg (· + 1) (ih hLast)

/-- A course that does not pass stops at a step. -/
theorem length_lt_of_not_passed (hCourse : Course perform s h w steps records last h' w')
    (hLast : last ≠ .passed) : records.length < steps.length := by
  induction hCourse with
  | passed => exact absurd rfl hLast
  | failed | raised => exact Nat.zero_lt_succ _
  | succeeded hStep hSuccess hRest ih => exact Nat.succ_lt_succ (ih hLast)

/-- The record that ends a course early is one of a failure. -/
theorem failure_of_failed {record : Record}
    (hCourse : Course perform s h w steps records (.failed record) h' w') :
    record.success = false := by
  generalize hLast : CourseEnd.failed record = last at hCourse
  induction hCourse with
  | passed | raised => cases hLast
  | failed hStep hFailure =>
      cases hLast
      exact hFailure
  | succeeded hStep hSuccess hRest ih => exact ih hLast

/-- The fault at the end is that of the step behind those with records. -/
theorem exists_raised_step {fault : Fault}
    (hCourse : Course perform s h w steps records (.raised fault) h' w') :
    ∃ step h₁ w₁, steps[records.length]? = some step ∧
      Outside.runIn s w₁ (perform h₁ step) = ((.error fault, h'), w') := by
  generalize hLast : CourseEnd.raised fault = last at hCourse
  induction hCourse with
  | passed | failed => cases hLast
  | raised hStep =>
      cases hLast
      exact ⟨_, _, _, rfl, hStep⟩
  | succeeded hStep hSuccess hRest ih =>
      obtain ⟨step, h₁, w₁, hAt, hRaised⟩ := ih hLast
      exact ⟨step, h₁, w₁, by simpa using hAt, hRaised⟩

end Course

end ScenarioRunner
