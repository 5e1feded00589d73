import ScenarioRunner.Proofs.Suite.Closing
import ScenarioRunner.Suite.Debugging

/-! Stepping through the cases of a file, whatever commands are given and whatever outside parties
answer. One case is stepped through after another, each until its debugger is done, and no case
after one that is aborted; then all sessions are closed, once, also if a command, a session or the
file put an end to it. -/
namespace ScenarioRunner

namespace Debugger

variable {d : Debugger} {perform : Performer} {s : Surroundings} {w : World} {h : History}
  {text : String} {case : TestCase} {maxRetries : Int} {log : Log}

/-- A command that is taken while the debugger is not done, and that names to abort, is accepted. -/
theorem dispatch_of_abort (hOpen : d.isDone = false)
    (hText : DebugCommand.ofText? text = some .abort) :
    d.dispatch perform h text = pure ⟨.ok none, { d with state := .aborted }, h⟩ := by
  have hAbort : d.abort = .ok { d with state := .aborted } := abort_eq_ok_iff.mpr ⟨hOpen, rfl⟩
  rw [dispatch, hText]
  dsimp only
  rw [hAbort]
  rfl

theorem state_record_ne_aborted (d : Debugger) (r : Record) : (d.record r).state ≠ .aborted := by
  cases hSuccess : r.success with
  | false => simp [(record_of_failure hSuccess).1]
  | true =>
      by_cases hLast : d.case.steps.length ≤ d.index + 1 <;>
        simp [record, advance, hSuccess, hLast]

theorem state_foldl_record_ne_aborted {records : List Record} (hState : d.state ≠ .aborted) :
    (records.foldl record d).state ≠ .aborted := by
  induction records generalizing d with
  | nil => exact hState
  | cons r rest ih => exact ih (d.state_record_ne_aborted r)

theorem state_settle_ne_aborted (hState : d.state ≠ .aborted) {change : Except CommandFault Debugger}
    (hChange : ∀ d', change = .ok d' → d'.state ≠ .aborted) :
    (d.settle h change).debugger.state ≠ .aborted := by
  cases change with
  | ok changed => exact hChange changed rfl
  | error fault => exact hState

section Performing

variable (hInv : Invariant case maxRetries log d) (hState : d.state ≠ .aborted)

include hInv hState

theorem state_execute_ne_aborted :
    (Outside.runIn s w (d.execute perform h)).1.debugger.state ≠ .aborted := by
  by_cases hPending : d.state = .pending
  · obtain ⟨step, rest, hReady⟩ := exists_ready_of_pending hPending
      (hInv.case_eq ▸ hInv.index_lt (.inl hPending))
    rw [runIn_execute hReady]
    rcases Outside.runIn s w (perform h step) with ⟨⟨fault | r, h'⟩, w'⟩
    · exact hState
    · exact d.state_record_ne_aborted r
  · rw [execute_of_not_pending hPending]
    exact hState

theorem state_proceed_ne_aborted :
    (Outside.runIn s w (d.proceed perform h)).1.debugger.state ≠ .aborted := by
  by_cases hPending : d.state = .pending
  · have hReady := ready_of_pending hPending (hInv.case_eq ▸ hInv.index_lt (.inl hPending))
    obtain ⟨records, ending, h', w', hCourse⟩ :=
      Course.exists_course perform s h w (d.case.steps.drop d.index)
    rw [proceed_of_pending hPending, runIn_proceedFrom_of_course hCourse hReady]
    exact state_foldl_record_ne_aborted hState
  · rw [proceed_of_not_pending hPending]
    exact hState

/-- Only the command to abort makes a debugger aborted. -/
theorem state_dispatch_ne_aborted (hText : DebugCommand.ofText? text ≠ some .abort) :
    (Outside.runIn s w (d.dispatch perform h text)).1.debugger.state ≠ .aborted := by
  rw [dispatch]
  cases hCommand : DebugCommand.ofText? text with
  | none => exact state_settle_ne_aborted hState (by simp)
  | some command =>
      cases command with
      | execute => exact state_execute_ne_aborted hInv hState
      | skip =>
          refine state_settle_ne_aborted hState fun d' hSkip => ?_
          obtain ⟨-, rfl⟩ := skip_eq_ok_iff.mp hSkip
          rw [advance_state]
          split <;> simp
      | proceed => exact state_proceed_ne_aborted hInv hState
      | retry =>
          refine state_settle_ne_aborted hState fun d' hRetry => ?_
          obtain ⟨-, rfl⟩ := retry_eq_ok_iff.mp hRetry
          simp
      | abort => exact absurd hCommand hText

end Performing

section Calls

variable {p : Call → Bool} (hPerform : ∀ h step, Outside.CallsOnly p (perform h step))

include hPerform

theorem callsOnly_proceedFrom (h : History) (d : Debugger) (last : Option Record) :
    Outside.CallsOnly p (proceedFrom perform h d last) := by
  -- on the steps that are ahead of the debugger
  induction hAhead : d.ahead using Nat.strong_induction_on generalizing h d last with
  | _ n ih =>
      rw [proceedFrom]
      split
      · rename_i hPending
        split
        · exact Outside.callsOnly_pure _
        · rename_i step hStep
          refine Outside.callsOnly_bind (hPerform h step) fun ended => ?_
          obtain ⟨fault | r, h'⟩ := ended
          · exact Outside.callsOnly_pure _
          · exact ih _ (hAhead ▸ ahead_record_lt hPending hStep r) h' _ _ rfl
      · exact Outside.callsOnly_pure _

/-- In the course of a command there are only calls of steps that are carried out. -/
theorem callsOnly_dispatch (d : Debugger) (h : History) (text : String) :
    Outside.CallsOnly p (d.dispatch perform h text) := by
  rw [dispatch]
  split
  · rw [execute]
    split
    · exact Outside.callsOnly_pure _
    · split
      · exact Outside.callsOnly_pure _
      · refine Outside.callsOnly_bind (hPerform h _) fun ended => ?_
        obtain ⟨fault | r, h'⟩ := ended <;> exact Outside.callsOnly_pure _
  · exact Outside.callsOnly_pure _
  · rw [proceed]
    split
    · exact Outside.callsOnly_pure _
    · exact callsOnly_proceedFrom hPerform h d none
  · exact Outside.callsOnly_pure _
  · exact Outside.callsOnly_pure _
  · exact Outside.callsOnly_pure _

end Calls

end Debugger

namespace Suite

/-- One turn of stepping through a case: the debugger before, the command that it was given, and
what came of it. -/
structure Prompted where
  debugger : Debugger
  history : History
  world : World
  command : String
  turn : Debugger.Turn
  after : World

variable {suite : Suite} {op : Operator} {s : Surroundings} {maxRetries : Int} {h h' : History}
  {w w' : World} {d d' : Debugger} {prompts : List Prompted} {outcome : Except Fault Unit}

namespace Prompted

/-- A command is asked for while the debugger is not done, and this is what comes of it. -/
structure Is (suite : Suite) (s : Surroundings) (t : Prompted) : Prop where
  isOpen : t.debugger.isDone = false
  run : Outside.runIn s t.world
    (t.debugger.take suite.executor suite.context t.history t.command) = (t.turn, t.after)

def calls (t : Prompted) : List Call := t.after.calls.drop t.world.calls.length

/-- The command is none of those that the debugger offers. -/
def IsRefused (t : Prompted) : Prop :=
  DebugCommand.nameOf t.command ∉ t.debugger.allowed.map DebugCommand.name

def Aborts (t : Prompted) : Prop :=
  DebugCommand.ofText? t.command = some .abort ∧ ∃ record, t.turn.outcome = .ok record

variable {t : Prompted} (hTurn : t.Is suite s)

include hTurn

theorem Is.run_dispatch : Outside.runIn s t.world (t.debugger.dispatch
    (suite.executor.executeStep suite.context) t.history t.command) = (t.turn, t.after) :=
  hTurn.run

theorem Is.calls_after : t.after.calls = t.world.calls ++ t.calls ∧
    ∀ c ∈ t.calls, c.serves = true := by
  obtain ⟨made, hMade, hServes⟩ := Debugger.callsOnly_dispatch
    (suite.executor.callsOnly_executeStep suite.context) t.debugger t.history t.command s t.world
  rw [hTurn.run_dispatch] at hMade
  have hCalls : t.calls = made := by rw [calls, hMade, List.drop_left]
  rw [hCalls]
  exact ⟨hMade, hServes⟩

/-- A command that is refused changes nothing and asks nobody for anything; it is no fault of the
whole. -/
theorem Is.refused (hRefused : t.IsRefused) :
    (∃ refusal, t.turn = ⟨.error (.command refusal), t.debugger, t.history⟩) ∧
      t.after = t.world ∧ outcomeOf t.turn = .ok () := by
  obtain ⟨refusal, hDispatch⟩ := Debugger.dispatch_of_not_allowed hRefused
  have hRun := hTurn.run_dispatch
  rw [hDispatch, Outside.runIn_pure] at hRun
  obtain ⟨hTurn, hAfter⟩ := Prod.mk.inj hRun
  rw [← hTurn, ← hAfter]
  exact ⟨⟨refusal, rfl⟩, rfl, rfl⟩

theorem Is.aborts_iff : t.Aborts ↔ DebugCommand.ofText? t.command = some .abort := by
  refine ⟨And.left, fun hText => ⟨hText, none, ?_⟩⟩
  have hRun := hTurn.run_dispatch
  rw [Debugger.dispatch_of_abort hTurn.isOpen hText] at hRun
  rw [← (Prod.mk.inj hRun).1]

theorem Is.state_of_aborts (hAborts : t.Aborts) : t.turn.debugger.state = .aborted := by
  have hRun := hTurn.run_dispatch
  rw [Debugger.dispatch_of_abort hTurn.isOpen hAborts.1] at hRun
  rw [← (Prod.mk.inj hRun).1]

theorem Is.exists_reached {case : TestCase} {log : Debugger.Log}
    (hReached : Debugger.Reached case maxRetries log t.debugger) :
    ∃ log', Debugger.Reached case maxRetries log' t.turn.debugger := by
  have hAfter := hReached.turn (suite.executor.executeStep suite.context) s t.world t.history
    t.command
  rw [hTurn.run_dispatch] at hAfter
  exact ⟨_, hAfter⟩

end Prompted

/-- How a case is stepped through, by its turns: until the debugger is done, or up to a step that
raises a fault, or until the commands are spent where that is a fault. -/
inductive Sits (suite : Suite) (op : Operator) (s : Surroundings) :
    History → World → Debugger → List Prompted → Except Fault Unit → Debugger → History → World →
      Prop
  | done {h : History} {w : World} {d : Debugger} (hDone : d.isDone = true) :
      Sits suite op s h w d [] (.ok ()) d h w
  | spent {h : History} {w : World} {d : Debugger} {fault : Fault} (hOpen : d.isDone = false)
      (hSpent : op.spent = some fault) : Sits suite op s h w d [] (.error fault) d h w
  | raised {t : Prompted} {fault : Fault} (hTurn : t.Is suite s)
      (hFault : outcomeOf t.turn = .error fault) :
      Sits suite op s t.history t.world t.debugger [t] (.error fault) t.turn.debugger t.turn.history
        t.after
  | next {t : Prompted} {later : List Prompted} {outcome : Except Fault Unit} {d : Debugger}
      {h : History} {w : World} (hTurn : t.Is suite s) (hFine : outcomeOf t.turn = .ok ())
      (hRest : Sits suite op s t.turn.history t.after t.turn.debugger later outcome d h w) :
      Sits suite op s t.history t.world t.debugger (t :: later) outcome d h w

/-- Taking commands goes this way. -/
theorem sits_sit (suite : Suite) (op : Operator) (s : Surroundings) (h : History) (w : World)
    (d : Debugger) (answers : List String) :
    let run := Outside.runIn s w (suite.sit op h d answers)
    ∃ prompts, Sits suite op s h w d prompts run.1.outcome run.1.debugger run.1.history run.2 := by
  induction answers generalizing h w d with
  | nil =>
      rw [sit]
      cases hDone : d.isDone with
      | true => exact ⟨[], .done hDone⟩
      | false =>
          rw [if_neg Bool.false_ne_true]
          cases hSpent : op.spent with
          | some fault => exact ⟨[], .spent hDone hSpent⟩
          | none =>
              -- the case is aborted
              have hAbort : d.dispatch (suite.executor.executeStep suite.context) h
                  DebugCommand.abort.name = pure ⟨.ok none, { d with state := .aborted }, h⟩ :=
                Debugger.dispatch_of_abort hDone (by decide)
              dsimp only
              rw [Debugger.take, hAbort]
              let t : Prompted := ⟨d, h, w, DebugCommand.abort.name,
                ⟨.ok none, { d with state := .aborted }, h⟩, w⟩
              have hTurn : t.Is suite s := ⟨hDone, by rw [Debugger.take, hAbort]; rfl⟩
              exact ⟨[t], .next hTurn rfl (.done rfl)⟩
  | cons answer rest ih =>
      rw [sit]
      cases hDone : d.isDone with
      | true => exact ⟨[], .done hDone⟩
      | false =>
          rw [if_neg Bool.false_ne_true]
          cases hCommand : op.command? d answer with
          | none => exact ih h w d
          | some command =>
              dsimp only
              rcases hRun : Outside.runIn s w (d.take suite.executor suite.context h command) with
                ⟨turn, after⟩
              have hTurn : Prompted.Is suite s ⟨d, h, w, command, turn, after⟩ := ⟨hDone, hRun⟩
              rw [Outside.runIn_bind, hRun]
              cases hOutcome : outcomeOf turn with
              | error fault =>
                  exact ⟨_, .raised hTurn hOutcome⟩
              | ok _ =>
                  obtain ⟨later, hLater⟩ := ih turn.history after turn.debugger
                  exact ⟨_, .next hTurn hOutcome hLater⟩

/-- The commands of a sitting, given one by one, lead through it, and the answers behind them are
left. -/
theorem Sits.runIn_sit (hSits : Sits suite {} s h w d prompts outcome d' h' w')
    (answers : List String) :
    Outside.runIn s w (suite.sit {} h d (prompts.map (·.command) ++ answers)) =
      (⟨outcome, d', h', answers, prompts.map (·.debugger)⟩, w') := by
  induction hSits with
  | done hDone => cases answers <;> rw [List.map_nil, List.nil_append, sit, if_pos hDone] <;> rfl
  | spent hOpen hSpent => cases hSpent
  | raised hTurn hFault =>
      rw [List.map_cons, List.cons_append, sit, if_neg (by simp [hTurn.isOpen])]
      dsimp only
      rw [Outside.runIn_bind, hTurn.run]
      dsimp only
      rw [hFault]
      rfl
  | next hTurn hFine hRest ih =>
      rw [List.map_cons, List.cons_append, sit, if_neg (by simp [hTurn.isOpen])]
      dsimp only
      rw [Outside.runIn_bind, hTurn.run]
      dsimp only
      rw [hFine, Outside.runIn_bind, ih]
      rfl

/-! What holds of a case that was stepped through. -/

section Sits

variable (hSits : Sits suite op s h w d prompts outcome d' h' w')

include hSits

theorem Sits.is_of_mem : ∀ t ∈ prompts, t.Is suite s := by
  induction hSits with
  | done hDone => simp
  | spent hOpen hSpent => simp
  | raised hTurn hFault => exact List.forall_mem_singleton.mpr hTurn
  | next hTurn hFine hRest ih => exact List.forall_mem_cons.mpr ⟨hTurn, ih⟩

theorem Sits.calls_after : w'.calls = w.calls ++ prompts.flatMap (·.calls) := by
  induction hSits with
  | done hDone => simp
  | spent hOpen hSpent => simp
  | raised hTurn hFault => rw [hTurn.calls_after.1, List.flatMap_singleton]
  | next hTurn hFine hRest ih =>
      rw [ih, hTurn.calls_after.1, List.flatMap_cons, List.append_assoc]

/-- The debugger is done, unless a fault came in between. -/
theorem Sits.isDone (hOk : outcome = .ok ()) : d'.isDone = true := by
  induction hSits with
  | done hDone => exact hDone
  | spent hOpen hSpent => cases hOk
  | raised hTurn hFault => cases hOk
  | next hTurn hFine hRest ih => exact ih hOk

/-- The debugger is one that its commands lead to. -/
theorem Sits.exists_reached {case : TestCase} {log : Debugger.Log}
    (hReached : Debugger.Reached case maxRetries log d) :
    ∃ log', Debugger.Reached case maxRetries log' d' := by
  induction hSits generalizing log with
  | done hDone => exact ⟨log, hReached⟩
  | spent hOpen hSpent => exact ⟨log, hReached⟩
  | raised hTurn hFault => exact hTurn.exists_reached hReached
  | next hTurn hFine hRest ih =>
      obtain ⟨log', hNext⟩ := hTurn.exists_reached hReached
      exact ih hNext

/-- No command is asked for once the debugger is done. -/
theorem Sits.eq_of_isDone (hDone : d.isDone = true) : prompts = [] ∧ d' = d := by
  cases hSits with
  | done _ => exact ⟨rfl, rfl⟩
  | spent hOpen _ => cases hOpen.symm.trans hDone
  | raised hTurn _ => cases hTurn.isOpen.symm.trans hDone
  | next hTurn _ _ => cases hTurn.isOpen.symm.trans hDone

end Sits

/-- A turn that does not abort leaves the debugger in another state. -/
theorem Prompted.Is.state_ne_aborted {t : Prompted} (hTurn : t.Is suite s) {case : TestCase}
    {log : Debugger.Log} (hReached : Debugger.Reached case maxRetries log t.debugger)
    (hOther : ¬ t.Aborts) : t.turn.debugger.state ≠ .aborted := by
  have hOpen : t.debugger.state ≠ .aborted := by
    intro hState
    have hIsOpen := hTurn.isOpen
    rw [Debugger.isDone, hState] at hIsOpen
    cases hIsOpen
  have hTaken : (Outside.runIn s t.world (t.debugger.dispatch
      (suite.executor.executeStep suite.context) t.history t.command)).1 = t.turn :=
    congrArg Prod.fst hTurn.run_dispatch
  rw [← hTaken]
  exact Debugger.state_dispatch_ne_aborted hReached.invariant hOpen
    fun hText => hOther (hTurn.aborts_iff.mpr hText)

/-- A debugger is aborted just if the command to abort was accepted, which is the last one then. -/
theorem Sits.aborted_iff (hSits : Sits suite op s h w d prompts outcome d' h' w') {case : TestCase}
    {log : Debugger.Log} (hReached : Debugger.Reached case maxRetries log d)
    (hState : d.state ≠ .aborted) :
    (d'.state = .aborted ↔ ∃ t ∈ prompts, t.Aborts) ∧
      ∀ t ∈ prompts, t.Aborts → prompts.getLast? = some t := by
  induction hSits generalizing log with
  | done hDone => simp [hState]
  | spent hOpen hSpent => simp [hState]
  | @raised t fault hTurn hFault =>
      have hOther : ¬ t.Aborts := by
        rintro ⟨-, record, hOk⟩
        rw [outcomeOf, hOk] at hFault
        cases hFault
      simp [hTurn.state_ne_aborted hReached hOther, hOther]
  | @next t later outcome d h w hTurn hFine hRest ih =>
      by_cases hAborts : t.Aborts
      · -- the debugger is done then, and nothing follows
        have hAborted := hTurn.state_of_aborts hAborts
        have hDone : t.turn.debugger.isDone = true := by rw [Debugger.isDone, hAborted]; rfl
        obtain ⟨rfl, rfl⟩ := hRest.eq_of_isDone hDone
        simp [hAborted, hAborts]
      · obtain ⟨log', hNext⟩ := hTurn.exists_reached hReached
        obtain ⟨hLater, hLast⟩ := ih hNext (hTurn.state_ne_aborted hReached hAborts)
        refine ⟨by simpa [hAborts] using hLater, fun t' hMem hHere => ?_⟩
        rcases List.mem_cons.mp hMem with rfl | hMem
        · exact absurd hHere hAborts
        · rw [List.getLast?_cons, hLast t' hMem hHere]
          rfl

/-- A case that was stepped through: the turns that it took, and where they led its debugger. -/
structure Seat where
  case : TestCase
  prompts : List Prompted
  debugger : Debugger

namespace Seat

def commands (seat : Seat) : List String := seat.prompts.map (·.command)

def calls (seat : Seat) : List Call := seat.prompts.flatMap (·.calls)

end Seat

/-- What holds of every case that was stepped through, however far it got. -/
structure Seat.Is (suite : Suite) (s : Surroundings) (seat : Seat) : Prop where
  case : seat.debugger.case = seat.case
  turns : ∀ t ∈ seat.prompts, t.Is suite s
  /-- It is aborted just if the command to abort was accepted. -/
  aborted : seat.debugger.state = .aborted ↔ ∃ t ∈ seat.prompts, t.Aborts
  /-- No command is taken after that one. -/
  last : ∀ t ∈ seat.prompts, t.Aborts → seat.prompts.getLast? = some t
  /-- Commands that are refused change nothing, and are no faults. -/
  refused : ∀ t ∈ seat.prompts, t.IsRefused →
    (∃ refusal, t.turn = ⟨.error (.command refusal), t.debugger, t.history⟩) ∧
      t.after = t.world ∧ outcomeOf t.turn = .ok ()

theorem Sits.seat_is {case : TestCase}
    (hSits : Sits suite op s h w (Debugger.start case maxRetries) prompts outcome d' h' w') :
    Seat.Is suite s ⟨case, prompts, d'⟩ := by
  obtain ⟨log, hReached⟩ := hSits.exists_reached .start
  have hStart : (Debugger.start case maxRetries).state ≠ .aborted := by
    rw [Debugger.start]
    dsimp only
    split <;> simp
  obtain ⟨hAborted, hLast⟩ := hSits.aborted_iff .start hStart
  exact ⟨hReached.invariant.case_eq, hSits.is_of_mem, hAborted, hLast,
    fun t hMem hRefused => (hSits.is_of_mem t hMem).refused hRefused⟩

/-- A fault ended the sitting: commands were spent, or the last of them raised it, and then it was
no refusal. -/
theorem Sits.exists_raised {fault : Fault}
    (hSits : Sits suite op s h w d prompts (.error fault) d' h' w') :
    op.spent = some fault ∨ ∃ t, prompts.getLast? = some t ∧ t.turn.outcome = .error fault ∧
      fault.isCommandFault = false := by
  generalize hOutcome : Except.error fault = outcome at hSits
  induction hSits with
  | done hDone => cases hOutcome
  | spent hOpen hSpent =>
      cases hOutcome
      exact .inl hSpent
  | @raised t raised hTurn hFault =>
      cases hOutcome
      refine .inr ⟨t, rfl, ?_⟩
      rw [outcomeOf] at hFault
      split at hFault
      · cases hFault
      · rename_i told hTold
        split at hFault
        · cases hFault
        · rename_i hOther
          cases hFault
          exact ⟨hTold, Bool.eq_false_iff.mpr hOther⟩
  | next hTurn hFine hRest ih =>
      rcases ih hOutcome with hSpent | ⟨t, hLast, hFault⟩
      · exact .inl hSpent
      · exact .inr ⟨t, by rw [List.getLast?_cons, hLast]; rfl, hFault⟩

/-- How cases are stepped through one after another: all of them, or up to one that is aborted or
that is put an end to by a fault. -/
inductive Visits (suite : Suite) (op : Operator) (s : Surroundings) (maxRetries : Int) :
    History → World → List TestCase → List Seat → Except Fault Unit → World → Prop
  | none {h : History} {w : World} : Visits suite op s maxRetries h w [] [] (.ok ()) w
  | aborted {h h' : History} {w w' : World} {case : TestCase} {rest : List TestCase}
      {prompts : List Prompted} {d : Debugger}
      (hSits : Sits suite op s h w (Debugger.start case maxRetries) prompts (.ok ()) d h' w')
      (hAborted : d.state = .aborted) :
      Visits suite op s maxRetries h w (case :: rest) [⟨case, prompts, d⟩] (.ok ()) w'
  | raised {h h' : History} {w w' : World} {case : TestCase} {rest : List TestCase}
      {prompts : List Prompted} {d : Debugger} {fault : Fault}
      (hSits : Sits suite op s h w (Debugger.start case maxRetries) prompts (.error fault) d h'
        w') :
      Visits suite op s maxRetries h w (case :: rest) [⟨case, prompts, d⟩] (.error fault) w'
  | next {h h' : History} {w w₁ w' : World} {case : TestCase} {rest : List TestCase}
      {prompts : List Prompted} {d : Debugger} {seats : List Seat} {ended : Except Fault Unit}
      (hSits : Sits suite op s h w (Debugger.start case maxRetries) prompts (.ok ()) d h' w₁)
      (hOpen : d.state ≠ .aborted)
      (hRest : Visits suite op s maxRetries h' w₁ rest seats ended w') :
      Visits suite op s maxRetries h w (case :: rest) (⟨case, prompts, d⟩ :: seats) ended w'

/-- Stepping through cases goes this way. -/
theorem visits_debugCases (suite : Suite) (op : Operator) (s : Surroundings) (maxRetries : Int)
    (h : History) (w : World) (answers : List String) (cases : List TestCase) :
    let run := Outside.runIn s w (suite.debugCases op maxRetries h answers cases)
    ∃ seats ended, Visits suite op s maxRetries h w cases seats ended run.2 ∧
      run.1.outcome = ended.map fun _ => seats.map (·.debugger) := by
  induction cases generalizing h w answers with
  | nil => exact ⟨[], .ok (), .none, rfl⟩
  | cons case rest ih =>
      obtain ⟨prompts, hSits⟩ := sits_sit suite op s h w (Debugger.start case maxRetries) answers
      rw [debugCases]
      rcases hRun : Outside.runIn s w (suite.sit op h (Debugger.start case maxRetries) answers) with
        ⟨⟨outcome, d, h', left, seen⟩, w₁⟩
      rw [hRun] at hSits
      rw [Outside.runIn_bind, hRun]
      cases outcome with
      | error fault => exact ⟨_, _, .raised hSits, rfl⟩
      | ok _ =>
          dsimp only
          split
          · rename_i hAborted
            exact ⟨_, _, .aborted hSits (eq_of_beq hAborted), rfl⟩
          · rename_i hOpen
            obtain ⟨seats, ended, hVisits, hOutcome⟩ := ih h' w₁ left
            refine ⟨⟨case, prompts, d⟩ :: seats, ended,
              .next hSits (fun hState => hOpen (beq_iff_eq.mpr hState)) hVisits, ?_⟩
            rw [Outside.runIn_bind]
            show (Outside.runIn s w₁ (suite.debugCases op maxRetries h' left rest)).1.outcome.map
              (d :: ·) = _
            rw [hOutcome]
            cases ended <;> rfl

section Visits

variable {cases : List TestCase} {seats : List Seat} {ended : Except Fault Unit}

/-- Whatever chose the commands: where stepping through came to its end, they lead through the cases
the same way when they are given one by one. -/
theorem Visits.runIn_debugCases (hVisits : Visits suite {} s maxRetries h w cases seats ended w') :
    Outside.runIn s w (suite.debugCases {} maxRetries h (seats.flatMap (·.commands)) cases) =
      (⟨ended.map fun _ => seats.map (·.debugger),
        seats.flatMap fun seat => seat.prompts.map (·.debugger)⟩, w') := by
  induction hVisits with
  | none => rfl
  | aborted hSits hAborted =>
      have hRun := hSits.runIn_sit []
      rw [List.append_nil] at hRun
      rw [debugCases, Outside.runIn_bind, List.flatMap_singleton, Seat.commands, hRun]
      dsimp only
      rw [hAborted]
      simp
      rfl
  | raised hSits =>
      have hRun := hSits.runIn_sit []
      rw [List.append_nil] at hRun
      rw [debugCases, Outside.runIn_bind, List.flatMap_singleton, Seat.commands, hRun]
      simp
      rfl
  | @next h h' w w₁ w' case rest prompts d seats ended hSits hOpen hRest ih =>
      rw [debugCases, Outside.runIn_bind, List.flatMap_cons, Seat.commands, hSits.runIn_sit]
      dsimp only
      rw [if_neg (by simpa using hOpen), Outside.runIn_bind, ih]
      cases ended <;> rfl

/-- All calls are those of the turns, one case after another. -/
theorem Visits.calls_after (hVisits : Visits suite op s maxRetries h w cases seats ended w') :
    w'.calls = w.calls ++ seats.flatMap (·.calls) := by
  induction hVisits with
  | none => simp
  | aborted hSits hAborted => rw [hSits.calls_after, List.flatMap_singleton]; rfl
  | raised hSits => rw [hSits.calls_after, List.flatMap_singleton]; rfl
  | next hSits hOpen hRest ih =>
      rw [ih, hSits.calls_after, List.flatMap_cons, List.append_assoc]
      rfl

/-- What holds of the cases that were stepped through. -/
structure Visited (suite : Suite) (op : Operator) (s : Surroundings) (cases : List TestCase)
    (seats : List Seat) (ended : Except Fault Unit) : Prop where
  each : ∀ seat ∈ seats, seat.Is suite s
  /-- The first cases were stepped through, in their order. -/
  order : seats.map (·.case) <+: cases
  earlier : ∀ seat ∈ seats.dropLast, seat.debugger.state = .finished
  done : ended = .ok () →
    ∀ seat ∈ seats, seat.debugger.state = .finished ∨ seat.debugger.state = .aborted
  /-- It was all of them, unless one was aborted. -/
  whole : ended = .ok () → (∀ seat ∈ seats, seat.debugger.state ≠ .aborted) →
    seats.map (·.case) = cases
  /-- What it ended by otherwise was raised by a step, or there were no commands left. -/
  raised : ∀ fault, ended = .error fault → op.spent = some fault ∨
    ∃ seat t, seats.getLast? = some seat ∧ seat.prompts.getLast? = some t ∧
      t.turn.outcome = .error fault ∧ fault.isCommandFault = false

theorem state_of_isDone (hDone : d.isDone = true) : d.state = .finished ∨ d.state = .aborted := by
  rw [Debugger.isDone] at hDone
  cases hState : d.state <;> simp [hState, DebugState.isDone] at hDone ⊢

theorem Visits.visited (hVisits : Visits suite op s maxRetries h w cases seats ended w') :
    Visited suite op s cases seats ended := by
  induction hVisits with
  | none => exact ⟨by simp, List.prefix_rfl, by simp, by simp, by simp, by simp⟩
  | aborted hSits hAborted =>
      refine ⟨List.forall_mem_singleton.mpr hSits.seat_is, by simp, by simp, fun _ => ?_,
        fun _ => ?_, by simp⟩
      · exact List.forall_mem_singleton.mpr (.inr hAborted)
      · simp [hAborted]
  | raised hSits =>
      refine ⟨List.forall_mem_singleton.mpr hSits.seat_is, by simp, by simp, by simp, by simp,
        ?_⟩
      rintro _ ⟨⟩
      rcases hSits.exists_raised with hSpent | ⟨t, hLast, hFault⟩
      · exact .inl hSpent
      · exact .inr ⟨_, t, rfl, hLast, hFault⟩
  | @next h h' w w₁ w' case rest prompts d seats ended hSits hOpen hRest ih =>
      have hFinished : d.state = .finished :=
        (state_of_isDone (hSits.isDone rfl)).resolve_right hOpen
      refine ⟨List.forall_mem_cons.mpr ⟨hSits.seat_is, ih.each⟩, ?_, ?_, fun hOk => ?_,
        fun hOk hNone => ?_, fun fault hFault => ?_⟩
      · exact List.cons_prefix_cons.mpr ⟨rfl, ih.order⟩
      · cases seats with
        | nil => simp
        | cons seat seats =>
            rw [List.dropLast_cons_cons]
            exact List.forall_mem_cons.mpr ⟨hFinished, ih.earlier⟩
      · exact List.forall_mem_cons.mpr ⟨.inl hFinished, ih.done hOk⟩
      · rw [List.map_cons, ih.whole hOk fun seat hMem => hNone seat (List.mem_cons_of_mem _ hMem)]
      · rcases ih.raised fault hFault with hSpent | ⟨seat, t, hLast, hTurn⟩
        · exact .inl hSpent
        · exact .inr ⟨seat, t, by rw [List.getLast?_cons, hLast]; rfl, hTurn⟩

/-- No call of a step closes anything. -/
theorem Visited.serves (hVisited : Visited suite op s cases seats ended) :
    ∀ c ∈ seats.flatMap (·.calls), c.serves = true := by
  intro c hc
  obtain ⟨seat, hSeat, hc⟩ := List.mem_flatMap.mp hc
  obtain ⟨t, hTurn, hc⟩ := List.mem_flatMap.mp hc
  exact ((hVisited.each seat hSeat).turns t hTurn).calls_after.2 c hc

end Visits

/-- All is closed once, whatever comes of it. -/
theorem exists_closing (provider : Provider) (s : Surroundings) (w : World) :
    let closed := Attempt.runIn s w provider.closeAll
    ∃ closing, closed.2.calls = w.calls ++ closing ∧
      (provider = .given → closing = [.closeSessions]) ∧
      (closed.1 = .ok () → provider.Closes s w closing closed.2) := by
  cases provider with
  | given =>
      have hRun : Attempt.runIn s w Provider.given.closeAll =
          ((s.respond w.calls .closeSessions).outcome.map fun _ => (),
            w.called s .closeSessions) :=
        Attempt.runIn_bind_return s w (Attempt.call .closeSessions) fun _ => ()
      dsimp only
      rw [hRun]
      exact ⟨[.closeSessions], rfl, fun _ => rfl, fun _ => rfl⟩
  | browser settings =>
      have hEnds : Attempt.Ends s w (Provider.browser settings).closeAll
          fun outcome made after => PageSession.Closed w.holdings outcome made after.holdings :=
        PageSession.ends_closeAll w
      obtain ⟨closing, hCalls, hClosed⟩ := hEnds
      refine ⟨closing, hCalls, by simp, fun hOk => ?_⟩
      rwa [hOk] at hClosed

/-- When the stepping is over all is closed, and a fault while closing hides how it went. -/
theorem runIn_closing (provider : Provider) (result : DebugResult) (s : Surroundings) (w : World) :
    let closed := Attempt.runIn s w provider.closeAll
    Outside.runIn s w (do
      match ← provider.closeAll.run with
      | .ok () => return result
      | .error fault => return { result with outcome := .error fault }) =
    ({ result with outcome := closed.1 >>= fun _ => result.outcome }, closed.2) := by
  have hRun : Outside.runIn s w provider.closeAll.run = Attempt.runIn s w provider.closeAll := rfl
  dsimp only
  rw [Outside.runIn_bind, hRun]
  rcases Attempt.runIn s w provider.closeAll with ⟨fault | _, after⟩ <;> rfl

section File

variable {path : Path} (suite : Suite) (op : Operator) (maxRetries : Int) (answers : List String)
  (s : Surroundings)

theorem runIn_debug_of_error {fault : Fault}
    (hFile : Scenario.ofFile w.files path none = .error fault) :
    let closed := Attempt.runIn s w suite.executor.provider.closeAll
    Outside.runIn s w (suite.debug op path maxRetries answers) =
      (⟨closed.1 >>= fun _ => .error fault, []⟩, closed.2) := by
  dsimp only
  rw [debug, Outside.runIn_bind, Outside.runIn_get]
  dsimp only
  rw [hFile]
  exact runIn_closing suite.executor.provider ⟨.error fault, []⟩ s w

theorem runIn_debug_of_ok {cases : List TestCase}
    (hFile : Scenario.ofFile w.files path none = .ok cases) :
    let stepped := Outside.runIn s w (suite.debugCases op maxRetries suite.history answers cases)
    let closed := Attempt.runIn s stepped.2 suite.executor.provider.closeAll
    Outside.runIn s w (suite.debug op path maxRetries answers) =
      ({ stepped.1 with outcome := closed.1 >>= fun _ => stepped.1.outcome }, closed.2) := by
  dsimp only
  rw [debug, Outside.runIn_bind, Outside.runIn_get]
  dsimp only
  rw [hFile, Outside.runIn_bind]
  exact runIn_closing suite.executor.provider _ s _

end File

/-- Stepping through the cases of a file goes through them in their order. Whatever commands are
given, and whatever providers and sessions do, each case is stepped through until its debugger is
done, no case comes after one that is aborted, a command that is refused changes nothing, and only a
fault that a step raised puts an end to it before. All is closed once, when nobody else is called
any more. -/
theorem debug_visits (suite : Suite) (op : Operator) (path : Path) (maxRetries : Int)
    (answers : List String) (s : Surroundings) (w : World) :
    let run := Outside.runIn s w (suite.debug op path maxRetries answers)
    ∃ (seats : List Seat) (ended : Except Fault Unit) (left : World) (closing : List Call),
      (∀ fault, Scenario.ofFile w.files path none = .error fault →
        seats = [] ∧ ended = .error fault ∧ left = w) ∧
      (∀ cases, Scenario.ofFile w.files path none = .ok cases →
        Visits suite op s maxRetries suite.history w cases seats ended left ∧
          Visited suite op s cases seats ended) ∧
      left.calls = w.calls ++ seats.flatMap (·.calls) ∧
      (∀ c ∈ seats.flatMap (·.calls), c.serves = true) ∧
      let closed := Attempt.runIn s left suite.executor.provider.closeAll
      run.2 = closed.2 ∧ run.2.calls = left.calls ++ closing ∧
        (suite.executor.provider = .given → closing = [.closeSessions]) ∧
        (closed.1 = .ok () → suite.executor.provider.Closes s left closing run.2) ∧
        run.1.outcome = closed.1 >>= fun _ => ended.map fun _ => seats.map (·.debugger) := by
  cases hFile : Scenario.ofFile w.files path none with
  | error fault =>
      obtain ⟨closing, hCalls, hGiven, hCloses⟩ := exists_closing suite.executor.provider s w
      have hRun := runIn_debug_of_error suite op maxRetries answers s hFile
      dsimp only at hRun ⊢
      rw [hRun]
      refine ⟨[], .error fault, w, closing, ?_, ?_, by simp, by simp, rfl, hCalls, hGiven, hCloses,
        rfl⟩
      · rintro _ ⟨⟩
        exact ⟨rfl, rfl, rfl⟩
      · rintro _ ⟨⟩
  | ok cases =>
      obtain ⟨seats, ended, hVisits, hOutcome⟩ :=
        visits_debugCases suite op s maxRetries suite.history w answers cases
      obtain ⟨closing, hCalls, hGiven, hCloses⟩ :=
        exists_closing suite.executor.provider s
          (Outside.runIn s w (suite.debugCases op maxRetries suite.history answers cases)).2
      have hRun := runIn_debug_of_ok suite op maxRetries answers s hFile
      dsimp only at hRun ⊢
      rw [hRun]
      refine ⟨seats, ended, _, closing, ?_, ?_, hVisits.calls_after, hVisits.visited.serves, rfl,
        hCalls, hGiven, hCloses, by dsimp only; rw [hOutcome]⟩
      · rintro _ ⟨⟩
      · rintro _ ⟨⟩
        exact ⟨hVisits, hVisits.visited⟩

end Suite

end ScenarioRunner
