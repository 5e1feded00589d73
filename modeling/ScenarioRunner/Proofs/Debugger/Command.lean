import ScenarioRunner.Debugger
import ScenarioRunner.Proofs.Except

/-! When a debugger follows a command. The commands that it offers are those that their own guards
let pass; any other text is refused, with nothing done. -/
namespace ScenarioRunner

namespace DebugCommand

theorem mem_all (command : DebugCommand) : command ∈ all := by
  cases command <;> simp [all]

/-- No two commands share a name. -/
theorem name_injective {first second : DebugCommand} (hName : first.name = second.name) :
    first = second := by
  cases first <;> cases second <;> simp [name] at hName ⊢

/-- A command is found by its own name only. -/
theorem find?_name_eq_some_iff {word : String} {command : DebugCommand} :
    all.find? (·.name == word) = some command ↔ word = command.name := by
  constructor
  · intro hFound
    have hName : command.name = word := by simpa using List.find?_some hFound
    exact hName.symm
  · rintro rfl
    cases hFound : all.find? (·.name == command.name) with
    | none =>
        have hOther := List.find?_eq_none.mp hFound command (mem_all command)
        simp at hOther
    | some found =>
        have hName : found.name = command.name := by simpa using List.find?_some hFound
        rw [name_injective hName]

/-- The text that a user types stands for a command just when its word is the name of the command.
-/
theorem ofText?_eq_some_iff {text : String} {command : DebugCommand} :
    ofText? text = some command ↔ nameOf text = command.name := by
  rw [ofText?, find?_name_eq_some_iff]

end DebugCommand

namespace Debugger

variable {d d' : Debugger} {command : DebugCommand}

def Admits (d : Debugger) : DebugCommand → Prop
  | .execute => d.state = .pending
  | .skip => d.state = .pending ∨ d.state = .failed
  | .proceed => d.state = .pending
  | .retry => d.canRetry = true
  | .abort => d.isDone = false

/-- Only a failed step can be retried. -/
theorem state_of_canRetry (hCan : d.canRetry = true) : d.state = .failed := by
  rw [canRetry, Bool.and_eq_true] at hCan
  simpa using hCan.1

/-- A step can be retried only as long as it has not used up its retries. -/
theorem retriesUsed_lt_of_canRetry (hCan : d.canRetry = true) :
    (d.retriesUsed d.index : Int) < d.maxRetries := by
  rw [canRetry, Bool.and_eq_true] at hCan
  simpa using hCan.2

/-- What is offered is what passes. -/
theorem mem_allowed_iff : command ∈ d.allowed ↔ d.Admits command := by
  cases hState : d.state with
  | pending => cases command <;> simp [allowed, Admits, canRetry, isDone, DebugState.isDone, hState]
  | failed =>
      cases hCan : d.canRetry <;> cases command <;>
        simp [allowed, Admits, isDone, DebugState.isDone, hState, hCan]
  | finished | aborted =>
      cases command <;> simp [allowed, Admits, canRetry, isDone, DebugState.isDone, hState]

/-- The commands that a text gives by name, among those that are offered. -/
theorem nameOf_mem_allowed_iff {text : String} :
    DebugCommand.nameOf text ∈ d.allowed.map DebugCommand.name ↔
      ∃ command, DebugCommand.ofText? text = some command ∧ d.Admits command := by
  simp only [List.mem_map, mem_allowed_iff, DebugCommand.ofText?_eq_some_iff]
  exact ⟨fun ⟨command, hAdmits, hName⟩ => ⟨command, hName.symm, hAdmits⟩,
    fun ⟨command, hName, hAdmits⟩ => ⟨command, hAdmits, hName.symm⟩⟩

/-! Each command passes its guard just if it is admitted. -/

/-- A skip goes through just when it is admitted, and moves on past the step. -/
theorem skip_eq_ok_iff : d.skip = .ok d' ↔
    d.Admits .skip ∧ d' = { d with skipped := d.skipped ++ [d.index] }.advance := by
  cases hState : d.state <;>
    simp [skip, require, Admits, hState, bind, Except.bind, pure, Except.pure, eq_comm]

/-- A retry goes through just when it is admitted, and makes the same step pending again. -/
theorem retry_eq_ok_iff : d.retry = .ok d' ↔
    d.Admits .retry ∧ d' = { d with retried := d.retried ++ [d.index], state := .pending } := by
  cases hCan : d.canRetry with
  | true =>
      simp [retry, require, Admits, state_of_canRetry hCan, hCan, bind, Except.bind, pure,
        Except.pure, eq_comm]
  | false =>
      cases hState : d.state <;>
        simp [retry, require, Admits, hState, hCan, bind, Except.bind, throw, throwThe,
          MonadExceptOf.throw]

/-- An abort goes through just when it is admitted, and ends the session. -/
theorem abort_eq_ok_iff :
    d.abort = .ok d' ↔ d.Admits .abort ∧ d' = { d with state := .aborted } := by
  cases hDone : d.isDone <;> simp [abort, Admits, hDone, eq_comm]

/-- A change that cannot be made is refused. -/
theorem exists_refusal {change : Except CommandFault Debugger} (hChange : ∀ d', change ≠ .ok d')
    (h : History) : ∃ fault, d.settle h change = ⟨.error (.command fault), d, h⟩ := by
  cases change with
  | ok changed => exact absurd rfl (hChange changed)
  | error fault => exact ⟨fault, rfl⟩

variable {perform : Performer} {h : History} {text : String}

/-- Without a pending step nothing is executed, and the debugger stays as it is. -/
theorem execute_of_not_pending (hState : d.state ≠ .pending) :
    d.execute perform h =
      pure ⟨.error (.command (.notNow DebugCommand.execute.name d.state.name)), d, h⟩ := by
  simp [execute, require, hState, settle]

/-- Without a pending step nothing is run on, and the debugger stays as it is. -/
theorem proceed_of_not_pending (hState : d.state ≠ .pending) :
    d.proceed perform h =
      pure ⟨.error (.command (.notNow DebugCommand.proceed.name d.state.name)), d, h⟩ := by
  simp [proceed, require, hState, settle]

theorem proceed_of_pending (hState : d.state = .pending) :
    d.proceed perform h = proceedFrom perform h d none := by
  simp [proceed, require, hState]

/-- What is not offered is refused: nothing changes, and nobody is asked for anything. -/
theorem dispatch_of_not_allowed
    (hName : DebugCommand.nameOf text ∉ d.allowed.map DebugCommand.name) :
    ∃ fault, d.dispatch perform h text = pure ⟨.error (.command fault), d, h⟩ := by
  rw [nameOf_mem_allowed_iff, not_exists] at hName
  rw [dispatch]
  cases hText : DebugCommand.ofText? text with
  | none => exact ⟨.unknown text, rfl⟩
  | some command =>
      have hRefused : ¬ d.Admits command := fun hAdmits => hName command ⟨hText, hAdmits⟩
      cases command with
      | execute => exact ⟨_, execute_of_not_pending hRefused⟩
      | proceed => exact ⟨_, proceed_of_not_pending hRefused⟩
      | skip =>
          obtain ⟨fault, hSettle⟩ := @exists_refusal d d.skip
            (fun d' hSkip => hRefused (skip_eq_ok_iff.mp hSkip).1) h
          exact ⟨fault, congrArg pure hSettle⟩
      | retry =>
          obtain ⟨fault, hSettle⟩ := @exists_refusal d d.retry
            (fun d' hRetry => hRefused (retry_eq_ok_iff.mp hRetry).1) h
          exact ⟨fault, congrArg pure hSettle⟩
      | abort =>
          obtain ⟨fault, hSettle⟩ := @exists_refusal d d.abort
            (fun d' hAbort => hRefused (abort_eq_ok_iff.mp hAbort).1) h
          exact ⟨fault, congrArg pure hSettle⟩

/-- A debugger that is done offers nothing. -/
theorem allowed_of_isDone (hDone : d.isDone = true) : d.allowed = [] := by
  cases hState : d.state <;> simp [isDone, DebugState.isDone, allowed, hState] at hDone ⊢

end Debugger

end ScenarioRunner
