import ScenarioRunner.Runner

/-! Stepping through one test case. At each step the debugger is pending, and the step can be carried
out or skipped, or all steps from it on be carried out; after a step failed it can be tried again a
limited number of times, or be skipped. The debugger ends when it is past the last step or when it
is aborted. -/
namespace ScenarioRunner

inductive DebugState
  | pending
  | failed
  | finished
  | aborted
deriving DecidableEq, Repr

namespace DebugState

def name : DebugState → String
  | pending => "pending"
  | failed => "failed"
  | finished => "finished"
  | aborted => "aborted"

/-- No command is accepted any more. -/
def isDone : DebugState → Bool
  | pending => false
  | failed => false
  | finished => true
  | aborted => true

end DebugState

inductive DebugCommand
  | execute
  | skip
  | proceed
  | retry
  | abort
deriving DecidableEq, Repr

namespace DebugCommand

def name : DebugCommand → String
  | execute => "execute"
  | skip => "skip"
  | proceed => "continue"
  | retry => "retry"
  | abort => "abort"

/-- The letter that stands for a command. -/
def key : DebugCommand → String
  | execute => "e"
  | skip => "s"
  | proceed => "c"
  | retry => "r"
  | abort => "q"

/-- All commands, in the order in which they are offered. -/
def all : List DebugCommand := [execute, skip, proceed, retry, abort]

/-- The name that a text gives, whatever its case and the blanks around it: a letter gives the name
of the command that it stands for, everything else its own. -/
def nameOf (text : String) : String :=
  let word := String.ofList (Text.lower (Text.trim text.toList))
  match all.find? (·.key == word) with
  | some command => command.name
  | none => word

/-- The command whose name a text gives. -/
def ofText? (text : String) : Option DebugCommand := all.find? (·.name == nameOf text)

end DebugCommand

/-- Whoever carries out steps: what becomes of a step, and the history that it leaves behind. -/
abbrev Performer := History → Step → Outside (Except Fault Record × History)

structure Debugger where
  case : TestCase
  maxRetries : Int := 3
  /-- The position of the current step. -/
  index : Nat := 0
  state : DebugState
  records : List Record := []
  /-- The positions of the steps that were skipped. -/
  skipped : List Nat := []
  lastRecord : Option Record := none
  /-- The position of the step for each time that one was tried again. -/
  retried : List Nat := []

namespace Debugger

/-- The debugger before the first step of a case. -/
def start (case : TestCase) (maxRetries : Int) : Debugger where
  case := case
  maxRetries := maxRetries
  state := if case.steps.isEmpty then .finished else .pending

variable (d : Debugger)

def isDone : Bool := d.state.isDone

def currentStep? : Option Step := if d.isDone then none else d.case.steps[d.index]?

def retriesUsed (index : Nat) : Nat := d.retried.count index

def canRetry : Bool := d.state == .failed && (d.retriesUsed d.index : Int) < d.maxRetries

/-- The commands that are accepted now. -/
def allowed : List DebugCommand :=
  match d.state with
  | .pending => [.execute, .skip, .proceed, .abort]
  | .failed => if d.canRetry then [.retry, .skip, .abort] else [.skip, .abort]
  | _ => []

def advance : Debugger :=
  { d with
    index := d.index + 1
    state := if d.case.steps.length ≤ d.index + 1 then .finished else .pending }

/-- The debugger after the current step was carried out. -/
def record (r : Record) : Debugger :=
  let d := { d with records := d.records ++ [r], lastRecord := some r }
  if r.success then d.advance else { d with state := .failed }

/-- Refuses a command in other states than these. -/
def require (states : List DebugState) (command : DebugCommand) : Except CommandFault Unit :=
  if states.contains d.state then .ok () else .error (.notNow command.name d.state.name)

/-- Passes the current step over. -/
def skip : Except CommandFault Debugger := do
  d.require [.pending, .failed] .skip
  return { d with skipped := d.skipped ++ [d.index] }.advance

/-- Goes back to the step that failed, unless that was done as often as it may be. -/
def retry : Except CommandFault Debugger := do
  d.require [.failed] .retry
  if d.canRetry then return { d with retried := d.retried ++ [d.index], state := .pending }
  else throw (.retriesSpent (d.index + 1) d.maxRetries)

def abort : Except CommandFault Debugger :=
  if d.isDone then .error (.notNow DebugCommand.abort.name d.state.name)
  else .ok { d with state := .aborted }

/-- What a command led to: the record of the step it carried out last, if any. -/
structure Turn where
  outcome : Except Fault (Option Record)
  debugger : Debugger
  history : History

/-- The turn of a command that carries out nothing. One that is refused changes nothing. -/
def settle (h : History) : Except CommandFault Debugger → Turn
  | .ok changed => ⟨.ok none, changed, h⟩
  | .error fault => ⟨.error (.command fault), d, h⟩

/-- How many steps are ahead of a debugger that goes on by itself. -/
def ahead : Nat := if d.state = .pending then d.case.steps.length - d.index else 0

/-- With every step that is carried out there is less ahead: a step that succeeds is behind then,
and one that fails stops the debugger. -/
theorem ahead_record_lt {d : Debugger} (hPending : d.state = .pending) {step : Step}
    (hStep : d.case.steps[d.index]? = some step) (r : Record) : (d.record r).ahead < d.ahead := by
  obtain ⟨hIndex, -⟩ := List.getElem?_eq_some_iff.mp hStep
  cases hSuccess : r.success with
  | true =>
    by_cases hLast : d.case.steps.length ≤ d.index + 1
    · simp [ahead, record, advance, hSuccess, hLast, hPending]
      omega
    · simp [ahead, record, advance, hSuccess, hLast, hPending]
      omega
  | false =>
    simp [ahead, record, hSuccess, hPending]
    omega

/-- There is no step at the position of the debugger. -/
def noStep : Fault := .outOfRange "list index out of range"

variable (perform : Performer)

/-- Carries out the current step. -/
def execute (h : History) : Outside Turn :=
  match d.require [.pending] .execute with
  | .error fault => return d.settle h (.error fault)
  | .ok () =>
    match d.case.steps[d.index]? with
    | none => return ⟨.error noStep, d, h⟩
    | some step => do
      match ← perform h step with
      | (.error fault, h) => return ⟨.error fault, d, h⟩
      | (.ok record, h) => return ⟨.ok (some record), d.record record, h⟩

/-- Carries out steps as long as the debugger is pending; `last` is the record made last. -/
def proceedFrom (h : History) (d : Debugger) (last : Option Record) : Outside Turn :=
  if _hPending : d.state = .pending then
    match _hStep : d.case.steps[d.index]? with
    | none => return ⟨.error noStep, d, h⟩
    | some step => do
      match ← perform h step with
      | (.error fault, h) => return ⟨.error fault, d, h⟩
      | (.ok record, h) => proceedFrom h (d.record record) (some record)
  else return ⟨.ok last, d, h⟩
termination_by d.ahead
decreasing_by exact ahead_record_lt _hPending _hStep record

/-- Carries out steps from the current one on, up to one that fails. -/
def proceed (h : History) : Outside Turn :=
  match d.require [.pending] .proceed with
  | .error fault => return d.settle h (.error fault)
  | .ok () => proceedFrom perform h d none

/-- Follows the command that a text gives. -/
def dispatch (h : History) (text : String) : Outside Turn :=
  match DebugCommand.ofText? text with
  | some .execute => d.execute perform h
  | some .skip => return d.settle h d.skip
  | some .proceed => d.proceed perform h
  | some .retry => return d.settle h d.retry
  | some .abort => return d.settle h d.abort
  | none => return d.settle h (.error (.unknown text))

/-- Follows a command, with steps carried out by an executor. -/
def take (e : Executor) (context : Context) (h : History) (text : String) : Outside Turn :=
  d.dispatch (e.executeStep context) h text

end Debugger

end ScenarioRunner
