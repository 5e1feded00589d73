import ScenarioRunner.Debugger
import ScenarioRunner.Suite

/-! Stepping through the cases of a scenario file by the answers of an operator. -/
namespace ScenarioRunner

/-- How answers are taken. -/
structure Operator where
  /-- The command that an answer gives; one that gives none is passed over, and another is asked
  for. -/
  command? : Debugger → String → Option String := fun _ answer => some answer
  /-- The fault that ends everything when answers are spent; without one the case is aborted. -/
  spent : Option Fault := none

/-- Where stepping through a case has led. -/
structure Sitting where
  outcome : Except Fault Unit
  debugger : Debugger
  history : History
  /-- The answers that are left. -/
  answers : List String
  /-- The debugger at each prompt. -/
  seen : List Debugger

/-- The debuggers of all cases that were stepped through, and those at each prompt. -/
structure DebugResult where
  outcome : Except Fault (List Debugger)
  seen : List Debugger

namespace Suite

variable (s : Suite) (op : Operator)

/-- What a turn leaves behind. A refused command is no fault of the sitting. -/
def outcomeOf (turn : Debugger.Turn) : Except Fault Unit :=
  match turn.outcome with
  | .ok _ => .ok ()
  | .error fault => if fault.isCommandFault then .ok () else .error fault

/-- Takes commands until the debugger is done. -/
def sit (h : History) (d : Debugger) : List String → Outside Sitting
  | [] =>
    if d.isDone then return ⟨.ok (), d, h, [], []⟩
    else
      match op.spent with
      | some fault => return ⟨.error fault, d, h, [], [d]⟩
      | none => do
        let turn ← d.take s.executor s.context h DebugCommand.abort.name
        return ⟨outcomeOf turn, turn.debugger, turn.history, [], [d]⟩
  | answer :: rest =>
    if d.isDone then return ⟨.ok (), d, h, answer :: rest, []⟩
    else
      match op.command? d answer with
      | none => sit h d rest
      | some command => do
        let turn ← d.take s.executor s.context h command
        match outcomeOf turn with
        | .error fault => return ⟨.error fault, turn.debugger, turn.history, rest, [d]⟩
        | .ok () => do
          let later ← sit turn.history turn.debugger rest
          return { later with seen := d :: later.seen }

/-- Steps through cases, up to one that is aborted. -/
def debugCases (maxRetries : Int) (h : History) (answers : List String) :
    List TestCase → Outside DebugResult
  | [] => return ⟨.ok [], []⟩
  | case :: rest => do
    let sitting ← s.sit op h (Debugger.start case maxRetries) answers
    match sitting.outcome with
    | .error fault => return ⟨.error fault, sitting.seen⟩
    | .ok () =>
      if sitting.debugger.state == .aborted then return ⟨.ok [sitting.debugger], sitting.seen⟩
      else
        let later ← debugCases maxRetries sitting.history sitting.answers rest
        return ⟨later.outcome.map (sitting.debugger :: ·), sitting.seen ++ later.seen⟩

/-- Steps through the cases of a file. All sessions are closed in the end. -/
def debug (path : Path) (maxRetries : Int) (answers : List String) : Outside DebugResult := do
  let result ← match Scenario.ofFile (← get).files path none with
    | .error fault => pure ⟨.error fault, []⟩
    | .ok cases => s.debugCases op maxRetries s.history answers cases
  match ← s.executor.provider.closeAll.run with
  | .ok () => return result
  | .error fault => return { result with outcome := .error fault }

end Suite

end ScenarioRunner
