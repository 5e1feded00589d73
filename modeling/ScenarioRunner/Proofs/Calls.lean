import ScenarioRunner.Proofs.Page.Course
import ScenarioRunner.Proofs.World
import ScenarioRunner.Runner

/-! Which calls a computation makes, whatever it is answered. Carrying out steps asks for sessions
and uses them, and closes none of them. -/
namespace ScenarioRunner

/-- Is made while steps are carried out: asks for a session, or is asked of one. A driver without a
browser is stopped when a session could not be had. -/
def Call.serves : Call → Bool
  | .session _ | .openSession _ | .page _ _ | .askModel _ => true
  | .startDriver | .launchBrowser _ | .newContext _ _ | .newPage _ | .stopDriver => true
  | .closeSessions | .connectModel _ | .closeContext _ | .closeBrowser => false

namespace Outside

variable {α β : Type} {p : Call → Bool}

/-- Wherever the computation runs, every call that it makes passes the test. -/
def CallsOnly (p : Call → Bool) (x : Outside α) : Prop :=
  ∀ s w, ∃ made, (runIn s w x).2.calls = w.calls ++ made ∧ ∀ c ∈ made, p c = true

/-- What makes no call at all makes only calls of any kind. -/
theorem callsOnly_silent {x : Outside α} (h : ∀ s w, (runIn s w x).2.calls = w.calls) :
    CallsOnly p x :=
  fun s w => ⟨[], by rw [h, List.append_nil], by simp⟩

theorem callsOnly_pure (a : α) : CallsOnly p (pure a) := callsOnly_silent fun _ _ => rfl

theorem callsOnly_call {c : Call} (hCall : p c = true) : CallsOnly p (call c) :=
  fun _ _ => ⟨[c], rfl, by simpa using hCall⟩

/-- A run makes calls of a kind if its first part does and what follows every value does. -/
theorem callsOnly_bind {x : Outside α} {f : α → Outside β} (hFirst : CallsOnly p x)
    (hRest : ∀ a, CallsOnly p (f a)) : CallsOnly p (x >>= f) := by
  intro s w
  obtain ⟨made, hMade, hFirst⟩ := hFirst s w
  obtain ⟨more, hMore, hRest⟩ := hRest (runIn s w x).1 s (runIn s w x).2
  refine ⟨made ++ more, ?_, List.forall_mem_append.mpr ⟨hFirst, hRest⟩⟩
  rw [runIn_bind, hMore, hMade, List.append_assoc]

/-- The record of an exchange is a matter of files alone. -/
theorem callsOnly_saveExchange (number : Nat) (system message reply error : String) :
    CallsOnly p (ModelClient.saveExchange number system message reply error) :=
  callsOnly_silent fun s w => ModelClient.calls_saveExchange s w number system message reply error

theorem callsOnly_writeInto (folder file : Path) (text : String) :
    CallsOnly p (writeInto folder file text) :=
  callsOnly_silent fun s w => calls_writeInto s w folder file text

end Outside

namespace Attempt

variable {α β : Type} {p : Call → Bool}

/-- Every call that the computation makes passes the test, also when it fails. -/
def CallsOnly (p : Call → Bool) (x : Attempt α) : Prop := Outside.CallsOnly p x.run

theorem callsOnly_pure (a : α) : CallsOnly p (pure a) :=
  Outside.callsOnly_pure (Except.ok a)

theorem callsOnly_throw (fault : Fault) : CallsOnly p (throw fault : Attempt α) :=
  Outside.callsOnly_pure (Except.error fault)

theorem callsOnly_ofExcept (e : Except Fault α) : CallsOnly p (ofExcept e) :=
  Outside.callsOnly_pure e

theorem callsOnly_call {c : Call} (hCall : p c = true) : CallsOnly p (call c) :=
  Outside.callsOnly_call hCall

/-- What only looks at the world, or changes it without a call. -/
theorem callsOnly_silent {x : Attempt α} (h : ∀ s w, (runIn s w x).2.calls = w.calls) :
    CallsOnly p x :=
  Outside.callsOnly_silent h

theorem callsOnly_lift {x : Outside α} (h : Outside.CallsOnly p x) :
    CallsOnly p (liftM x : Attempt α) := h

/-- Work on files makes no calls. -/
theorem callsOnly_onFiles {x : Outside (Except FileTrouble α)} (h : Outside.CallsOnly p x) :
    CallsOnly p (onFiles x) := h

/-- Looking at an outcome instead of passing on its fault makes no further calls. -/
theorem callsOnly_outcome {x : Attempt α} (h : CallsOnly p x) : CallsOnly p x.outcome := h

theorem callsOnly_bind {x : Attempt α} {f : α → Attempt β} (hFirst : CallsOnly p x)
    (hRest : ∀ a, CallsOnly p (f a)) : CallsOnly p (x >>= f) := by
  show Outside.CallsOnly p (x >>= f).run
  rw [ExceptT.run_bind]
  refine Outside.callsOnly_bind hFirst fun outcome => ?_
  cases outcome with
  | error fault => exact Outside.callsOnly_pure _
  | ok a => exact hRest a

/-- What a call gives does not matter. -/
theorem callsOnly_effect {c : Call} (hCall : p c = true) :
    CallsOnly p (do let _ ← call c : Attempt Unit) :=
  callsOnly_bind (callsOnly_call hCall) fun _ => callsOnly_pure ()

end Attempt

open Attempt

/-! Pages. -/

def PageCall.isDeed : PageCall → Bool
  | .click .. | .fill .. | .select .. | .hover .. => true
  | .locate .. | .scrollIntoView .. | .scrollTo .. | .scrollToBottom => true
  | .waitForSelector .. | .waitFor .. | .press .. | .screenshot .. => true
  | .goto .. | .goBack | .reload | .title | .settle .. | .catalogue | .pageText => false

namespace PageAction

variable {q : Call → Bool} (page : Nat)
  (hDeeds : ∀ c : PageCall, c.isDeed = true → q (.page page c) = true)
  (a : PageAction) (timeout : Int) (shots : Option Path)

/-- An action asks the page for one thing, which has to be of the kind. -/
theorem callsOnly_onPage {c : PageCall} (hCall : q (.page page c) = true) :
    CallsOnly q (onPage page c) :=
  callsOnly_effect hCall

include hDeeds

theorem callsOnly_scroll : CallsOnly q (a.scroll page timeout) := by
  rw [scroll]
  split
  · exact callsOnly_bind (callsOnly_onPage page (hDeeds _ rfl)) fun _ =>
      callsOnly_onPage page (hDeeds _ rfl)
  · exact callsOnly_bind (callsOnly_ofExcept _) fun _ => callsOnly_onPage page (hDeeds _ rfl)
  · exact callsOnly_onPage page (hDeeds _ rfl)

theorem callsOnly_wait : CallsOnly q (a.wait page timeout) := by
  rw [wait]
  split
  · exact callsOnly_onPage page (hDeeds _ rfl)
  · exact callsOnly_bind (callsOnly_ofExcept _) fun _ => callsOnly_onPage page (hDeeds _ rfl)
  · exact callsOnly_onPage page (hDeeds _ rfl)

theorem callsOnly_screenshot : CallsOnly q (a.screenshot page shots) := by
  refine callsOnly_bind (callsOnly_onFiles ?_) fun _ =>
    callsOnly_bind (callsOnly_onPage page (hDeeds _ rfl)) fun _ => callsOnly_pure _
  exact Outside.callsOnly_silent fun s w => Outside.calls_changeFiles s w _

/-- An action calls the page only to have something done. -/
theorem callsOnly_run : CallsOnly q (a.run page timeout shots) := by
  -- an action that needs a selector looks for it first
  have hSelected (c : String → PageCall) (hDeed : ∀ selector, (c selector).isDeed = true) :
      CallsOnly q (do
        onPage page (c (← Attempt.ofExcept a.needSelector))
        return (none : Option String)) :=
    callsOnly_bind (callsOnly_ofExcept _) fun selector =>
      callsOnly_bind (callsOnly_onPage page (hDeeds _ (hDeed selector))) fun _ => callsOnly_pure _
  rw [run]
  split
  · exact hSelected _ fun _ => rfl
  · exact hSelected _ fun _ => rfl
  · exact hSelected _ fun _ => rfl
  · exact hSelected _ fun _ => rfl
  · exact hSelected _ fun _ => rfl
  · exact callsOnly_bind (callsOnly_scroll page hDeeds a timeout) fun _ => callsOnly_pure _
  · exact callsOnly_bind (callsOnly_wait page hDeeds a timeout) fun _ => callsOnly_pure _
  · exact callsOnly_bind (callsOnly_onPage page (hDeeds _ rfl)) fun _ => callsOnly_pure _
  · exact callsOnly_bind (callsOnly_screenshot page hDeeds a shots) fun _ => callsOnly_pure _
  · exact callsOnly_ofExcept _

end PageAction

/-- Asking the model makes one call, and its exchange goes to a file. -/
theorem ModelClient.callsOnly_completeJson (c : ModelClient) (system message : String)
    (maxTokens : Option Int) (temperature : Json) :
    CallsOnly Call.serves (c.completeJson system message maxTokens temperature) := by
  refine callsOnly_bind ?_ fun _ => callsOnly_ofExcept _
  refine callsOnly_bind (callsOnly_silent fun _ _ => rfl) fun asked =>
    callsOnly_bind (callsOnly_outcome (callsOnly_call rfl)) fun outcome => ?_
  cases outcome with
  | ok v =>
      exact callsOnly_bind (callsOnly_lift (Outside.callsOnly_saveExchange _ _ _ _ _)) fun _ =>
        callsOnly_pure _
  | error fault =>
      dsimp only
      split
      · exact callsOnly_bind (callsOnly_lift (Outside.callsOnly_saveExchange _ _ _ _ _)) fun _ =>
          callsOnly_throw fault
      · exact callsOnly_throw fault

namespace PageSession

variable (p : PageSession)

theorem callsOnly_call (c : PageCall) : CallsOnly Call.serves (p.call c) :=
  Attempt.callsOnly_call rfl

/-- Waiting for a page to settle asks only that page. -/
theorem callsOnly_settle (timeout : Int) : CallsOnly Call.serves (p.settle timeout) := by
  refine callsOnly_bind (callsOnly_outcome (p.callsOnly_call _)) fun outcome => ?_
  split
  · exact callsOnly_pure ()
  · exact callsOnly_pure ()
  · exact callsOnly_throw _

/-- Moving about is a call to the page, after which it goes quiet. -/
theorem callsOnly_move (c : PageCall) :
    CallsOnly Call.serves (do let _ ← p.call c; p.settle settleLimit) :=
  callsOnly_bind (p.callsOnly_call c) fun _ => p.callsOnly_settle settleLimit

theorem callsOnly_elements : CallsOnly Call.serves p.elements :=
  callsOnly_bind (p.callsOnly_call _) fun _ => callsOnly_ofExcept _

theorem callsOnly_url : CallsOnly Call.serves p.url := callsOnly_silent fun _ _ => rfl

/-- A decision asks only the model, and only where the session has one. -/
theorem callsOnly_decide (instruction question : String) :
    CallsOnly Call.serves (p.decide instruction question) := by
  refine callsOnly_bind (callsOnly_ofExcept _) fun client =>
    callsOnly_bind (callsOnly_outcome (client.callsOnly_completeJson _ _ _ _)) fun outcome => ?_
  cases outcome with
  | ok decision => exact callsOnly_pure decision
  | error fault =>
      dsimp only
      split
      · exact callsOnly_throw _
      · exact callsOnly_throw fault

/-- Actions, one after another, ask only the page that they are done on. -/
theorem callsOnly_runAll (timeout : Int) (actions : List PageAction) :
    CallsOnly Call.serves (p.runAll timeout actions) := by
  induction actions with
  | nil => exact callsOnly_pure []
  | cons a rest ih =>
      exact callsOnly_bind (PageAction.callsOnly_run p.page (fun _ _ => rfl) a timeout p.shots) fun _ =>
        callsOnly_bind ih fun _ => callsOnly_pure _

theorem callsOnly_actOnce (text : String) (timeout : Int) (values : Assoc String) :
    CallsOnly Call.serves (p.actOnce text timeout values) := by
  refine callsOnly_bind p.callsOnly_elements fun elements =>
    callsOnly_bind (p.callsOnly_call _) fun title => callsOnly_bind p.callsOnly_url fun url =>
    callsOnly_bind (callsOnly_ofExcept _) fun question =>
    callsOnly_bind (p.callsOnly_decide _ question) fun decision =>
    callsOnly_bind (callsOnly_ofExcept _) fun actions => ?_
  have hDone : CallsOnly Call.serves (do
      let outputs ← p.runAll timeout actions
      let reasoning ← Attempt.ofExcept (decision.fieldOr "reasoning" (.str ""))
      return Json.obj [("actions", .arr (actions.map (·.toJson))), ("outputs", .strings outputs),
        ("reasoning", reasoning)]) :=
    callsOnly_bind (p.callsOnly_runAll timeout actions) fun _ =>
      callsOnly_bind (callsOnly_ofExcept _) fun _ => callsOnly_pure _
  -- an attempt without actions is over before anything is done on the page
  split
  · exact callsOnly_bind (callsOnly_ofExcept _) fun _ =>
      callsOnly_bind (callsOnly_throw _) fun _ => hDone
  · exact hDone

/-- So do all attempts at a text together, by induction on how many are left. -/
theorem callsOnly_actUpTo (text : String) (timeout : Int) (values : Assoc String) (attempts : Int)
    (more : Nat) (last : String) :
    CallsOnly Call.serves (p.actUpTo text timeout values attempts more last) := by
  induction more generalizing last with
  | zero => exact callsOnly_throw _
  | succ more ih =>
      refine callsOnly_bind (callsOnly_outcome (p.callsOnly_actOnce text timeout values))
        fun outcome => ?_
      cases outcome with
      | ok result => exact callsOnly_pure result
      | error fault =>
          dsimp only
          split
          · exact ih _
          · exact callsOnly_throw fault

theorem callsOnly_act (text : String) (timeout retries : Int) (values : Assoc String) :
    CallsOnly Call.serves (p.act text timeout retries values) :=
  callsOnly_bind (callsOnly_ofExcept _) fun _ => p.callsOnly_actUpTo text timeout values _ _ _

theorem callsOnly_extract (target shape : String) :
    CallsOnly Call.serves (p.extract target shape) :=
  callsOnly_bind (callsOnly_ofExcept _) fun _ => callsOnly_bind (p.callsOnly_call _) fun _ =>
    callsOnly_bind p.callsOnly_url fun _ => callsOnly_bind (callsOnly_ofExcept _) fun _ =>
      callsOnly_bind (p.callsOnly_decide _ _) fun _ => callsOnly_ofExcept _

theorem callsOnly_observe (target : String) : CallsOnly Call.serves (p.observe target) :=
  callsOnly_bind (callsOnly_ofExcept _) fun _ => callsOnly_bind p.callsOnly_elements fun _ =>
    callsOnly_bind p.callsOnly_url fun _ => callsOnly_bind (callsOnly_ofExcept _) fun _ =>
      callsOnly_bind (p.callsOnly_decide _ _) fun _ =>
        callsOnly_bind (callsOnly_ofExcept _) fun _ => callsOnly_pure _

theorem callsOnly_runTurn (turn : Nat) (actions : List PageAction) (progress : Progress) :
    CallsOnly Call.serves (p.runTurn turn actions progress) := by
  induction actions generalizing progress with
  | nil => exact callsOnly_pure progress
  | cons a rest ih =>
      refine callsOnly_bind (callsOnly_outcome (PageAction.callsOnly_run p.page (fun _ _ => rfl) a _ p.shots))
        fun outcome => ?_
      cases outcome with
      | ok _ => exact ih _
      | error fault =>
          dsimp only
          split
          · exact ih _
          · exact callsOnly_throw fault

/-- So do all turns of a task, by induction on how many are left. -/
theorem callsOnly_taskTurns (instruction : String) (turns : Int) (more turn : Nat)
    (progress : Progress) :
    CallsOnly Call.serves (p.taskTurns instruction turns more turn progress) := by
  induction more generalizing turn progress with
  | zero => exact callsOnly_pure _
  | succ more ih =>
      refine callsOnly_bind p.callsOnly_elements fun elements =>
        callsOnly_bind (p.callsOnly_call _) fun title => callsOnly_bind p.callsOnly_url fun url =>
        callsOnly_bind (callsOnly_ofExcept _) fun question =>
        callsOnly_bind (p.callsOnly_decide _ question) fun decision =>
        callsOnly_bind (callsOnly_ofExcept _) fun done => ?_
      split
      · exact callsOnly_ofExcept _
      · exact callsOnly_bind (callsOnly_ofExcept _) fun actions =>
          callsOnly_bind (p.callsOnly_runTurn turn actions progress) fun _ => ih _ _

theorem callsOnly_runTask (instruction : String) (turns : Int) :
    CallsOnly Call.serves (p.runTask instruction turns) :=
  callsOnly_bind (callsOnly_ofExcept _) fun _ => p.callsOnly_taskTurns instruction turns _ _ _

end PageSession

/-! Sessions, wherever they come from. -/

namespace Session

variable (session : Session)

theorem callsOnly_navigate (url : Reply) : CallsOnly Call.serves (session.navigate url) := by
  cases session with
  | given => exact callsOnly_effect rfl
  | page p => exact p.callsOnly_move _

theorem callsOnly_goBack : CallsOnly Call.serves session.goBack := by
  cases session with
  | given => exact callsOnly_effect rfl
  | page p => exact p.callsOnly_move _

theorem callsOnly_reload : CallsOnly Call.serves session.reload := by
  cases session with
  | given => exact callsOnly_effect rfl
  | page p => exact p.callsOnly_move _

theorem callsOnly_title : CallsOnly Call.serves session.title := by
  cases session with
  | given => exact callsOnly_call rfl
  | page p => exact p.callsOnly_call _

theorem callsOnly_act (text : String) (values : Assoc String) :
    CallsOnly Call.serves (session.act text values) := by
  cases session with
  | given => exact callsOnly_call rfl
  | page p => exact p.callsOnly_act text _ _ values

theorem callsOnly_actForScript (text : String) :
    CallsOnly Call.serves (session.actForScript text) := by
  cases session with
  | given => exact callsOnly_call rfl
  | page p => exact p.callsOnly_act text _ _ _

theorem callsOnly_extract (target : String) (shape : Reply) :
    CallsOnly Call.serves (session.extract target shape) := by
  cases session with
  | given => exact callsOnly_call rfl
  | page p => exact p.callsOnly_extract target _

theorem callsOnly_observe (target : String) : CallsOnly Call.serves (session.observe target) := by
  cases session with
  | given => exact callsOnly_call rfl
  | page p => exact p.callsOnly_observe target

theorem callsOnly_runTask (instruction : String) :
    CallsOnly Call.serves (session.runTask instruction) := by
  cases session with
  | given => exact callsOnly_bind (callsOnly_call rfl) fun _ => callsOnly_pure _
  | page p => exact callsOnly_bind (p.callsOnly_runTask instruction _) fun _ => callsOnly_pure _

end Session

/-! Scripts. -/

namespace Script

variable (session : Session)

/-- Every operation of a script is one of the session, or waits for it. -/
theorem callsOnly_perform (operation : Operation) (args : List Reply) :
    CallsOnly Call.serves (perform session operation args) := by
  rw [perform.eq_def]
  split
  · exact callsOnly_bind (session.callsOnly_navigate _) fun _ => callsOnly_pure _
  · exact callsOnly_bind session.callsOnly_goBack fun _ => callsOnly_pure _
  · exact callsOnly_bind session.callsOnly_reload fun _ => callsOnly_pure _
  · exact callsOnly_bind session.callsOnly_title fun _ => callsOnly_pure _
  · exact callsOnly_bind (session.callsOnly_actForScript _) fun _ => callsOnly_pure _
  · exact callsOnly_bind (session.callsOnly_extract _ _) fun _ => callsOnly_pure _
  · exact callsOnly_bind (session.callsOnly_extract _ _) fun _ => callsOnly_pure _
  · exact callsOnly_bind (session.callsOnly_observe _) fun _ => callsOnly_pure _
  · exact session.callsOnly_runTask _
  · exact callsOnly_bind (callsOnly_ofExcept _) fun _ =>
      callsOnly_bind (callsOnly_silent fun _ _ => rfl) fun _ => callsOnly_pure _
  · split
    · exact callsOnly_pure _
    · exact callsOnly_throw _
  · split
    · exact callsOnly_pure _
    · exact callsOnly_throw _
  · split
    · exact callsOnly_throw _
    · exact callsOnly_pure _
  · exact callsOnly_pure _

/-- Lines are run one after another until one fails, each by an operation. -/
theorem callsOnly_runLines (state : State) (lines : List Line) :
    Outside.CallsOnly Call.serves (runLines session state lines) := by
  induction lines generalizing state with
  | nil => exact Outside.callsOnly_pure _
  | cons line rest ih =>
      have hLine : CallsOnly Call.serves (runLine session state line) :=
        callsOnly_bind (callsOnly_ofExcept _) fun _ =>
          callsOnly_bind (callsOnly_perform session _ _) fun _ => callsOnly_pure _
      refine Outside.callsOnly_bind hLine fun outcome => ?_
      cases outcome with
      | ok next => exact ih next
      | error fault => exact Outside.callsOnly_pure _

theorem callsOnly_run (values : Assoc String) (source : String) :
    Outside.CallsOnly Call.serves (run session values source) := by
  rw [run]
  dsimp only
  split
  · exact Outside.callsOnly_pure _
  · exact Outside.callsOnly_bind (callsOnly_runLines session _ _) fun _ => Outside.callsOnly_pure _

end Script

/-! Steps. -/

namespace Dispatch

variable (config : Config) (h : History) (d : Descriptor) (session : Session) (context : Context)

theorem callsOnly_goto : CallsOnly Call.serves (goto d session context) := by
  rw [goto]
  split
  · exact callsOnly_bind session.callsOnly_reload fun _ => callsOnly_pure _
  · exact callsOnly_bind session.callsOnly_goBack fun _ => callsOnly_pure _
  · exact callsOnly_bind (session.callsOnly_navigate _) fun _ =>
      callsOnly_bind session.callsOnly_title fun _ => callsOnly_pure _

/-- Extracted data goes to the memory of a history and to a file, which no call is needed for. -/
theorem callsOnly_persistArtifact (key : String) (data : Json) :
    CallsOnly Call.serves (h.persistArtifact key data) := by
  rw [History.persistArtifact]
  split
  · refine callsOnly_bind (callsOnly_silent fun _ _ => rfl) fun clock => callsOnly_bind
      (Outside.callsOnly_writeInto h.resultsDir (h.artifactPath key) _) fun written => ?_
    cases written with
    | ok _ => exact callsOnly_pure _
    | error trouble =>
        dsimp only
        split
        · exact callsOnly_throw _
        · exact callsOnly_pure _
  · exact callsOnly_pure _

theorem callsOnly_extract (target : String) :
    Outside.CallsOnly Call.serves (extract h d target session) := by
  refine Outside.callsOnly_bind (session.callsOnly_extract target _) fun outcome => ?_
  cases outcome with
  | error fault => exact Outside.callsOnly_pure _
  | ok data =>
      have hKey : Outside.CallsOnly Call.serves (storageKey d target) := by
        rw [storageKey]
        split <;> exact Outside.callsOnly_silent fun _ _ => rfl
      exact Outside.callsOnly_bind hKey fun key => Outside.callsOnly_bind
        (callsOnly_persistArtifact _ key data) fun _ => Outside.callsOnly_pure _

theorem callsOnly_observe (target : String) : CallsOnly Call.serves (observe target session) :=
  callsOnly_bind (session.callsOnly_observe target) fun _ =>
    callsOnly_bind (callsOnly_ofExcept _) fun _ => callsOnly_pure _

theorem callsOnly_runTask (instruction : String) :
    CallsOnly Call.serves (runTask config instruction session) := by
  refine callsOnly_bind (session.callsOnly_runTask instruction) fun _ =>
    callsOnly_bind (callsOnly_ofExcept _) fun report => ?_
  dsimp only
  split
  · exact callsOnly_bind (callsOnly_throw _) fun _ => callsOnly_pure _
  · exact callsOnly_pure _

theorem callsOnly_act : CallsOnly Call.serves (act config d session) := by
  rw [act]
  dsimp only
  split
  · exact callsOnly_bind (callsOnly_lift (Script.callsOnly_run session _ _)) fun _ =>
      callsOnly_bind (callsOnly_ofExcept _) fun _ => callsOnly_pure _
  · exact callsOnly_runTask config session _
  · exact callsOnly_bind (session.callsOnly_act _ _) fun _ => callsOnly_pure _

/-- A handler is tried, and its fault becomes a failed step without more calls. -/
theorem callsOnly_handle {handler : Outside (Except Fault StepResult × History)}
    (hHandler : Outside.CallsOnly Call.serves handler) :
    Outside.CallsOnly Call.serves (handle handler) :=
  Outside.callsOnly_bind hHandler fun _ => Outside.callsOnly_pure _

theorem callsOnly_handleWith {handler : Attempt StepResult}
    (hHandler : CallsOnly Call.serves handler) :
    Outside.CallsOnly Call.serves (handleWith h handler) :=
  callsOnly_handle (Outside.callsOnly_bind hHandler fun _ => Outside.callsOnly_pure _)

theorem callsOnly_withParam {name : String} {handler : String → Outside Ending}
    (hHandler : ∀ value, Outside.CallsOnly Call.serves (handler value)) :
    Outside.CallsOnly Call.serves (withParam h d name handler) := by
  rw [withParam]
  split
  · exact hHandler _
  · exact Outside.callsOnly_pure _

/-- Every kind of step is performed by calls that serve. -/
theorem callsOnly_perform :
    Outside.CallsOnly Call.serves (perform config h d session context) := by
  rw [perform]
  cases d.kind with
  | goto => exact callsOnly_handleWith h (callsOnly_goto d session context)
  | extract =>
      exact callsOnly_withParam h d fun target =>
        callsOnly_handle (callsOnly_extract h d session target)
  | observe =>
      exact callsOnly_withParam h d fun target =>
        callsOnly_handleWith h (callsOnly_observe session target)
  | agent =>
      exact callsOnly_withParam h d fun instruction =>
        callsOnly_handleWith h (callsOnly_runTask config session instruction)
  | _ => exact callsOnly_handleWith h (callsOnly_act config d session)

theorem callsOnly_execute (workflow : String) :
    Outside.CallsOnly Call.serves (execute config h d session workflow context) := by
  refine Outside.callsOnly_bind (Outside.callsOnly_silent fun _ _ => rfl) fun id =>
    Outside.callsOnly_bind (Outside.callsOnly_silent fun _ _ => rfl) fun start => ?_
  dsimp only
  split
  · exact Outside.callsOnly_bind (callsOnly_perform config h _ session context) fun _ =>
      Outside.callsOnly_silent fun _ _ => rfl
  · exact Outside.callsOnly_silent fun _ _ => rfl

end Dispatch

/-! Providers. -/

namespace BrowserSettings

variable (settings : BrowserSettings)

/-- A session is opened by the driver, the browser, its contexts and pages. -/
theorem callsOnly_openSession : CallsOnly Call.serves settings.openSession := by
  have hLaunch : CallsOnly Call.serves settings.launch := by
    refine callsOnly_bind (callsOnly_silent fun _ _ => rfl) fun w => ?_
    split
    · exact callsOnly_pure ()
    · exact callsOnly_bind (callsOnly_call rfl) fun _ =>
        callsOnly_bind (callsOnly_silent fun _ _ => rfl) fun _ =>
          callsOnly_bind (callsOnly_call rfl) fun _ => callsOnly_silent fun _ _ => rfl
  have hContext : CallsOnly Call.serves settings.openContext :=
    callsOnly_bind (callsOnly_call rfl) fun _ =>
      callsOnly_bind (callsOnly_silent fun _ _ => rfl) fun _ => callsOnly_silent fun _ _ => rfl
  have hPage (context : Nat) : CallsOnly Call.serves (openPage context) :=
    callsOnly_bind (callsOnly_call rfl) fun _ =>
      callsOnly_bind (callsOnly_silent fun _ _ => rfl) fun _ => callsOnly_silent fun _ _ => rfl
  exact callsOnly_bind hLaunch fun _ => callsOnly_bind hContext fun context =>
    callsOnly_bind (hPage context) fun _ => callsOnly_pure _

theorem callsOnly_dropDriver : CallsOnly Call.serves dropDriver := by
  refine callsOnly_bind (callsOnly_silent fun _ _ => rfl) fun w => ?_
  dsimp only
  split
  · exact callsOnly_bind (callsOnly_call rfl) fun _ => callsOnly_silent fun _ _ => rfl
  · exact callsOnly_pure ()

/-- A session is opened again only where none is at hand. -/
theorem callsOnly_getSession (workflow : String) :
    CallsOnly Call.serves (settings.getSession workflow) := by
  refine callsOnly_bind (callsOnly_silent fun _ _ => rfl) fun w => ?_
  split
  · exact callsOnly_pure _
  · refine callsOnly_bind (callsOnly_outcome settings.callsOnly_openSession) fun outcome => ?_
    cases outcome with
    | ok session =>
        exact callsOnly_bind (callsOnly_silent fun _ _ => rfl) fun _ => callsOnly_pure _
    | error fault =>
        dsimp only
        split
        · exact callsOnly_bind callsOnly_dropDriver fun _ => callsOnly_throw _
        · exact callsOnly_throw fault

end BrowserSettings

theorem Provider.callsOnly_getSession (provider : Provider) (workflow : String) :
    CallsOnly Call.serves (provider.getSession workflow) := by
  cases provider with
  | given => exact callsOnly_bind (callsOnly_call rfl) fun _ => callsOnly_pure _
  | browser settings =>
      exact callsOnly_bind (settings.callsOnly_getSession workflow) fun _ => callsOnly_pure _

/-! Cases. -/

theorem Executor.callsOnly_executeStep (e : Executor) (context : Context) (h : History)
    (step : Step) : Outside.CallsOnly Call.serves (e.executeStep context h step) := by
  refine Outside.callsOnly_bind (e.provider.callsOnly_getSession step.workflow) fun outcome => ?_
  cases outcome with
  | error fault => exact Outside.callsOnly_pure _
  | ok session =>
      exact Outside.callsOnly_bind (Dispatch.callsOnly_execute _ h _ session context _) fun _ =>
        Outside.callsOnly_pure _

namespace Runner

variable (e : Executor) (context : Context)

/-- The steps of a case are run in order up to the first that fails. -/
theorem callsOnly_runSteps (h : History) (steps : List Step) :
    Outside.CallsOnly Call.serves (runSteps e context h steps) := by
  induction steps generalizing h with
  | nil => exact Outside.callsOnly_pure _
  | cons step rest ih =>
      refine Outside.callsOnly_bind (e.callsOnly_executeStep context h step) fun ended => ?_
      obtain ⟨outcome, h⟩ := ended
      cases outcome with
      | error fault => exact Outside.callsOnly_pure _
      | ok record =>
          dsimp only
          split
          · exact Outside.callsOnly_bind (ih h) fun _ => Outside.callsOnly_pure _
          · exact Outside.callsOnly_pure _

/-- Cases are run in order, whatever becomes of the ones before. -/
theorem callsOnly_runCases (h : History) (cases : List TestCase) :
    Outside.CallsOnly Call.serves (runCases e context h cases) := by
  induction cases generalizing h with
  | nil => exact Outside.callsOnly_pure _
  | cons case rest ih =>
      have hCase : Outside.CallsOnly Call.serves (runCase e context h case) :=
        Outside.callsOnly_bind (Outside.callsOnly_silent fun _ _ => rfl) fun _ =>
          Outside.callsOnly_bind (callsOnly_runSteps e context h case.steps) fun _ =>
            Outside.callsOnly_silent fun _ _ => rfl
      exact Outside.callsOnly_bind hCase fun _ =>
        Outside.callsOnly_bind (ih _) fun _ => Outside.callsOnly_pure _

end Runner

end ScenarioRunner
