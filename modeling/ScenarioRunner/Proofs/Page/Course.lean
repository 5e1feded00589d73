import ScenarioRunner.Proofs.Page.Asking
import ScenarioRunner.Proofs.Page.Decision

/-! The course of the operations on a page: how one attempt at a text can end, how attempts follow
on one another, and how an agent goes from turn to turn. The courses are told by the replies of the
model; everything else that an operation does on the page fails only in ways that are named. -/
namespace ScenarioRunner

open Attempt

namespace Question

variable {elements : List Json} (hElements : ∀ e ∈ elements, e.IsElement)

include hElements

/-- A question about the next act can always be put. -/
theorem act_eq_ok (instruction url : String) (title values : Json) :
    ∃ text, act instruction url title elements values = .ok text := by
  obtain ⟨text, hText⟩ := catalogue_eq_ok hElements shown
  exact ⟨_, by rw [act, hText]; rfl⟩

/-- A question about what is on a page can always be put. -/
theorem observe_eq_ok (target url : String) : ∃ text, observe target url elements = .ok text := by
  obtain ⟨text, hText⟩ := catalogue_eq_ok hElements shown
  exact ⟨_, by rw [observe, hText]; rfl⟩

/-- A question about a task can always be put, whatever was done before. -/
theorem agent_eq_ok (instruction : String) (history : List String) (url : String) (title : Json) :
    ∃ text, agent instruction history url title elements = .ok text := by
  obtain ⟨text, hText⟩ := catalogue_eq_ok hElements shown
  exact ⟨_, by rw [agent, hText]; rfl⟩

end Question

namespace PageSession

variable {s : Surroundings} (hServes : s.Serves) (p : PageSession)

include hServes

theorem quietly_call {bad : Fault → Prop} (hPage : ∀ fault, fault.isPageFault = true → bad fault)
    (c : PageCall) : Quietly s (p.call c) (fun _ => True) bad :=
  quietly_page hServes (fun _ _ _ => trivial) hPage

theorem quietly_pageText {bad : Fault → Prop}
    (hPage : ∀ fault, fault.isPageFault = true → bad fault) :
    Quietly s (p.call .pageText) (fun v => ∃ text, v = .str text) bad :=
  quietly_page hServes (fun earlier v => hServes.pageText earlier p.page v) hPage

/-- The elements of a page are those that it shows, and looking gets no reply of the model. -/
theorem quietly_elements {bad : Fault → Prop}
    (hPage : ∀ fault, fault.isPageFault = true → bad fault) :
    Quietly s p.elements s.Shows bad := by
  have hCall : Quietly s (p.call .catalogue)
      (fun v => ∃ elements, v = .arr elements ∧ s.Shows elements) bad := by
    refine quietly_page hServes (fun earlier v hAnswer => ?_) hPage
    obtain ⟨elements, rfl, -⟩ := hServes.catalogue earlier p.page v hAnswer
    exact ⟨elements, rfl, earlier, p.page, hAnswer⟩
  refine quietly_bind hCall ?_
  rintro _ ⟨elements, rfl, hShown⟩
  exact quietly_ofExcept hShown

omit hServes in
theorem quietly_url : Quietly s p.url (fun _ => True) fun _ => False :=
  quietly_lift (y := do return (← read).pageUrl p.page) (fun _ => rfl) fun _ => trivial

/-- A decision is in one reply of the model. -/
theorem replied_decide {client : ModelClient} (hClient : p.client = some client)
    (instruction question : String) :
    Replied s (p.decide instruction question) fun outcome replies =>
      ∃ reply, replies = [reply] ∧
        outcome = (Decision.read reply).mapError fun fault => .noDecision fault.message := by
  intro w
  refine (p.ends_decide hClient instruction question).answered.mono ?_
  rintro outcome _ _ ⟨⟨answer, rfl, rfl⟩, hAnswered⟩
  obtain ⟨before, hAnswer⟩ := hAnswered _ (List.mem_singleton.mpr rfl)
  obtain ⟨reply, hReply⟩ := hServes.model before (client.requestFor instruction question)
  obtain rfl : answer = .ok (.str reply) := hAnswer.symm.trans hReply
  exact ⟨reply, rfl, Decision.inAnswer_reply reply⟩

/-- What comes after a decision, if its reply can be read. -/
theorem replied_decide_bind {β : Type} {client : ModelClient} (hClient : p.client = some client)
    {instruction question : String} {f : Json → Attempt β}
    {way : Except Fault β → List String → Prop}
    (hRest : ∀ reply v, Decision.read reply = .ok v →
      Replied s (f v) fun outcome more => way outcome (reply :: more))
    (hUnread : ∀ reply fault, Decision.read reply = .error fault →
      way (.error (.noDecision fault.message)) [reply]) :
    Replied s (p.decide instruction question >>= f) way := by
  refine replied_bind (p.replied_decide hServes hClient instruction question) ?_ ?_
  · rintro v _ ⟨reply, rfl, hOutcome⟩
    cases hRead : Decision.read reply <;> rw [hRead] at hOutcome <;> cases hOutcome
    exact hRest reply v hRead
  · rintro fault _ ⟨reply, rfl, hOutcome⟩
    cases hRead : Decision.read reply <;> rw [hRead] at hOutcome <;> cases hOutcome
    exact hUnread reply _ hRead

/-- Before a decision there is a look at the page, which asks the model for nothing. -/
theorem replied_look_bind {β : Type} {f : List Json → Json → String → Attempt β}
    {way : Except Fault β → List String → Prop}
    (hRest : ∀ elements title url, s.Shows elements → Replied s (f elements title url) way)
    (hPage : ∀ fault, fault.isPageFault = true → way (.error fault) []) :
    Replied s (do f (← p.elements) (← p.title) (← p.url)) way := by
  refine (p.quietly_elements hServes fun _ h => h).bind (fun elements hShown => ?_) hPage
  refine (p.quietly_call hServes (fun _ h => h) .title).bind (fun title _ => ?_) hPage
  exact p.quietly_url.bind (fun url _ => hRest elements title url hShown) fun _ h => h.elim

omit hServes in
/-- Doing actions one after another is quiet as long as each of them is. -/
theorem quietly_runAll (hServes : s.Serves) (timeout : Int) (actions : List PageAction) :
    Quietly s (p.runAll timeout actions) (fun _ => True) PageAction.CanRaise := by
  induction actions with
  | nil => exact quietly_pure trivial
  | cons a rest ih =>
      exact quietly_bind (PageAction.quietly_run hServes p.page a timeout p.shots) fun _ _ =>
        quietly_bind ih fun _ _ => quietly_pure trivial

omit hServes in
/-- If the first action is malformed, nothing is done, for want of a value. -/
theorem quietly_runAll_of_isMalformed {a : PageAction} (hMalformed : a.IsMalformed) (timeout : Int)
    (rest : List PageAction) : Quietly s (p.runAll timeout (a :: rest)) (fun _ => False)
      fun fault => fault.isValueFault = true :=
  quietly_bind (PageAction.quietly_run_of_isMalformed p.page hMalformed timeout p.shots)
    fun _ h => h.elim

end PageSession

/-- What asks for actions is an object. -/
theorem PageAction.obj_of_askedIn {elements : List Json} {v : Json} {actions : List PageAction}
    (hAsked : askedIn elements v = .ok actions) : ∃ fields, v = .obj fields := by
  refine Classical.byContradiction fun hNoObject => ?_
  obtain ⟨fault, hError, -⟩ := Json.fieldOr_eq_error (not_exists.mp hNoObject) "actions" (.arr [])
  rw [askedIn, hError] at hAsked
  cases hAsked

/-- How one attempt at a text ends, with the reply that it got: the page does not let itself be
looked at, the reply cannot be read, its decision cannot be worked with, it asks for nothing or for
malformed actions only, or the actions that it asks for are done as far as they can be. -/
inductive Attempted (s : Surroundings) (text : String) : Except Fault Json → List String → Prop
  | noPage {fault : Fault} (hPage : fault.isPageFault = true) : Attempted s text (.error fault) []
  | unread {reply : String} {fault : Fault} (hRead : Decision.read reply = .error fault) :
      Attempted s text (.error (.noDecision fault.message)) [reply]
  | unusable {reply : String} {v : Json} {elements : List Json} {fault : Fault}
      (hRead : Decision.read reply = .ok v) (hShown : s.Shows elements)
      (hAsked : PageAction.askedIn elements v = .error fault) :
      Attempted s text (.error fault) [reply]
  | idle {reply reasoning : String} {v : Json} {elements : List Json}
      (hRead : Decision.read reply = .ok v) (hShown : s.Shows elements)
      (hAsked : PageAction.askedIn elements v = .ok []) :
      Attempted s text (.error (.noAction text reasoning)) [reply]
  | useless {reply : String} {v : Json} {elements : List Json} {actions : List PageAction}
      {fault : Fault} (hRead : Decision.read reply = .ok v)
      (hShown : s.Shows elements)
      (hAsked : PageAction.askedIn elements v = .ok actions)
      (hUseless : ∀ a ∈ actions, a.IsMalformed) (hValue : fault.isValueFault = true) :
      Attempted s text (.error fault) [reply]
  | done {reply : String} {v : Json} {elements : List Json} {actions : List PageAction}
      {outcome : Except Fault Json} (hRead : Decision.read reply = .ok v)
      (hShown : s.Shows elements)
      (hAsked : PageAction.askedIn elements v = .ok actions)
      (hUseful : ∃ a ∈ actions, ¬ a.IsMalformed)
      (hDone : Meets (fun _ => True) PageAction.CanRaise outcome) : Attempted s text outcome [reply]

/-- How attempts at a text follow on one another: so many more can be made. A fault that another
attempt may get past makes room for it; with the last attempt gone the text has failed. -/
inductive Acted (s : Surroundings) (text : String) (attempts : Int) :
    Nat → String → Except Fault Json → List String → Prop
  | spent {last : String} : Acted s text attempts 0 last (.error (.actFailed attempts last)) []
  | done {more : Nat} {last : String} {result : Json} {replies : List String}
      (hAttempt : Attempted s text (.ok result) replies) :
      Acted s text attempts (more + 1) last (.ok result) replies
  | stopped {more : Nat} {last : String} {fault : Fault} {replies : List String}
      (hAttempt : Attempted s text (.error fault) replies)
      (hPassing : PageSession.isPassing fault = false) :
      Acted s text attempts (more + 1) last (.error fault) replies
  | again {more : Nat} {last : String} {fault : Fault} {replies later : List String}
      {outcome : Except Fault Json} (hAttempt : Attempted s text (.error fault) replies)
      (hPassing : PageSession.isPassing fault = true)
      (hRest : Acted s text attempts more fault.message outcome later) :
      Acted s text attempts (more + 1) last outcome (replies ++ later)

/-- The actions of a turn, each recorded as a step that was done or that failed; a malformed one has
failed. -/
inductive Recorded (turn : Nat) :
    List PageAction → PageSession.Progress → PageSession.Progress → Prop
  | none {progress : PageSession.Progress} : Recorded turn [] progress progress
  | step {a : PageAction} {rest : List PageAction} {progress after : PageSession.Progress}
      (failure : Option String) (hFailure : a.IsMalformed → failure.isSome = true)
      (hRest : Recorded turn rest (progress.add turn a failure) after) :
      Recorded turn (a :: rest) progress after

/-- How an agent works on a task for so many more turns. Each turn adds its actions to what was done
before, until the agent ends the task, the turns are spent or something goes wrong. -/
inductive Worked (s : Surroundings) (turns : Int) :
    Nat → Nat → PageSession.Progress → Except Fault AgentReport → List String → Prop
  | spent {turn : Nat} {progress : PageSession.Progress} :
      Worked s turns 0 turn progress
        (.ok { steps := progress.steps
               error := some s!"Stopped after {turns} steps without finishing" }) []
  | noPage {more turn : Nat} {progress : PageSession.Progress} {fault : Fault}
      (hPage : fault.isPageFault = true) : Worked s turns (more + 1) turn progress (.error fault) []
  | unread {more turn : Nat} {progress : PageSession.Progress} {reply : String} {fault : Fault}
      (hRead : Decision.read reply = .error fault) :
      Worked s turns (more + 1) turn progress (.error (.noDecision fault.message)) [reply]
  | noFields {more turn : Nat} {progress : PageSession.Progress} {reply : String} {v : Json}
      {fault : Fault} (hRead : Decision.read reply = .ok v) (hNoObject : ∀ fields, v ≠ .obj fields)
      (hMistype : fault.IsMistype) : Worked s turns (more + 1) turn progress (.error fault) [reply]
  | ended {more turn : Nat} {progress : PageSession.Progress} {reply : String}
      {fields : List (String × Json)} (hRead : Decision.read reply = .ok (.obj fields))
      (hDone : Json.isDone fields = true) :
      Worked s turns (more + 1) turn progress
        (PageSession.finished (.obj fields) progress.steps) [reply]
  | unusable {more turn : Nat} {progress : PageSession.Progress} {reply : String}
      {fields : List (String × Json)} {elements : List Json} {fault : Fault}
      (hRead : Decision.read reply = .ok (.obj fields)) (hDone : Json.isDone fields = false)
      (hShown : s.Shows elements)
      (hAsked : PageAction.askedIn elements (.obj fields) = .error fault) :
      Worked s turns (more + 1) turn progress (.error fault) [reply]
  | noFolder {more turn : Nat} {progress : PageSession.Progress} {reply : String}
      {fields : List (String × Json)} {elements : List Json} {actions : List PageAction}
      {fault : Fault} (hRead : Decision.read reply = .ok (.obj fields))
      (hDone : Json.isDone fields = false) (hShown : s.Shows elements)
      (hAsked : PageAction.askedIn elements (.obj fields) = .ok actions)
      (hFolder : fault.IsFolderTrouble) :
      Worked s turns (more + 1) turn progress (.error fault) [reply]
  | turn {more turn : Nat} {progress progress₁ : PageSession.Progress} {reply : String}
      {fields : List (String × Json)} {elements : List Json} {actions : List PageAction}
      {outcome : Except Fault AgentReport} {replies : List String}
      (hRead : Decision.read reply = .ok (.obj fields)) (hDone : Json.isDone fields = false)
      (hShown : s.Shows elements)
      (hAsked : PageAction.askedIn elements (.obj fields) = .ok actions)
      (hRecorded : Recorded turn actions progress progress₁)
      (hRest : Worked s turns more (turn + 1) progress₁ outcome replies) :
      Worked s turns (more + 1) turn progress outcome (reply :: replies)

namespace PageSession

variable {s : Surroundings} (hServes : s.Serves) (p : PageSession)

include hServes

/-- The actions that a decision asks for are done as far as they can be. -/
theorem replied_runAll_bind {text reply : String} {v : Json} {elements : List Json}
    {actions : List PageAction} {timeout : Int} {f : List String → Attempt Json}
    (hRead : Decision.read reply = .ok v) (hShown : s.Shows elements)
    (hAsked : PageAction.askedIn elements v = .ok actions) (hSome : actions ≠ [])
    (hRest : ∀ outputs, Quietly s (f outputs) (fun _ => True) fun _ => False) :
    Replied s (p.runAll timeout actions >>= f)
      fun outcome more => Attempted s text outcome (reply :: more) := by
  by_cases hUseless : ∀ a ∈ actions, a.IsMalformed
  · obtain ⟨a, rest, rfl⟩ := List.exists_cons_of_ne_nil hSome
    have hMalformed := hUseless a (List.mem_cons_self ..)
    exact (p.quietly_runAll_of_isMalformed hMalformed timeout rest).bind (fun _ h => h.elim)
      fun _ hValue => .useless hRead hShown hAsked hUseless hValue
  · have hUseful : ∃ a ∈ actions, ¬ a.IsMalformed := by simpa using hUseless
    refine (p.quietly_runAll hServes timeout actions).bind (fun outputs _ => ?_)
      fun _ hRaised => .done hRead hShown hAsked hUseful hRaised
    refine Replied.mono (hRest outputs) ?_
    rintro outcome _ ⟨hMeets, rfl⟩
    exact .done hRead hShown hAsked hUseful (hMeets.mono (fun _ h => h) fun _ h => h.elim)

/-- One attempt looks at the page, asks for a decision and carries it out as far as it goes. -/
theorem replied_actOnce {client : ModelClient} (hClient : p.client = some client) (text : String)
    (timeout : Int) (values : Assoc String) :
    Replied s (p.actOnce text timeout values) (Attempted s text) := by
  refine p.replied_look_bind hServes (fun elements title url hShown => ?_) fun _ h => .noPage h
  obtain ⟨question, hQuestion⟩ :=
    Question.act_eq_ok (hServes.isElement hShown) text url title (Json.ofAssoc values)
  refine replied_go hQuestion (p.replied_decide_bind hServes hClient (fun reply v hRead => ?_)
    fun reply fault hRead => .unread hRead)
  cases hAsked : PageAction.askedIn elements v with
  | error fault => exact replied_stop hAsked (.unusable hRead hShown hAsked)
  | ok actions =>
      obtain ⟨fields, rfl⟩ := PageAction.obj_of_askedIn hAsked
      refine replied_go hAsked ?_
      cases actions with
      | nil =>
          refine replied_go (Json.fieldOr_obj ..) ?_
          exact replied_throw (.idle hRead hShown hAsked)
      | cons a rest =>
          refine p.replied_runAll_bind hServes hRead hShown hAsked (List.cons_ne_nil a rest) ?_
          exact fun outputs => replied_go (Json.fieldOr_obj ..) (quietly_pure trivial)

/-- Attempts are made until one succeeds, one stops them or none is left. -/
theorem replied_actUpTo {client : ModelClient} (hClient : p.client = some client) (text : String)
    (timeout : Int) (values : Assoc String) (attempts : Int) (more : Nat) (last : String) :
    Replied s (p.actUpTo text timeout values attempts more last)
      (Acted s text attempts more last) := by
  induction more generalizing last with
  | zero => exact fun w => ends_throw .spent
  | succ more ih =>
      rw [actUpTo]
      refine replied_outcome_bind (p.replied_actOnce hServes hClient text timeout values) ?_
      intro outcome replies hAttempt
      cases outcome with
      | ok result =>
          exact replied_pure ((List.append_nil replies).symm ▸ .done hAttempt)
      | error fault =>
          dsimp only
          split
          · rename_i hPassing
            exact (ih fault.message).mono fun outcome later hRest => .again hAttempt hPassing hRest
          · rename_i hPassing
            exact replied_throw ((List.append_nil replies).symm ▸
              .stopped hAttempt (Bool.eq_false_iff.mpr hPassing))

/-- The actions of a turn are all recorded, unless a folder cannot be made. -/
theorem quietly_runTurn (turn : Nat) (actions : List PageAction) (progress : Progress) :
    Quietly s (p.runTurn turn actions progress) (Recorded turn actions progress)
      Fault.IsFolderTrouble := by
  induction actions generalizing progress with
  | nil => exact quietly_pure .none
  | cons a rest ih =>
      rw [runTurn]
      refine quietly_outcome_bind
        (PageAction.quietly_run_well hServes p.page a PageAction.standardTimeout p.shots) ?_
      intro outcome hMeets
      cases outcome with
      | ok output =>
          exact (ih _).mono (fun after hRest => .step none (fun h => absurd h hMeets) hRest)
            fun _ h => h
      | error fault =>
          dsimp only
          split
          · exact (ih _).mono (fun after hRest => .step (some fault.message) (fun _ => rfl) hRest)
              fun _ h => h
          · rename_i hPassing
            rw [Bool.or_eq_true] at hPassing
            rcases hMeets with hPage | hValue | hFolder
            · exact absurd (.inl hPage) hPassing
            · exact absurd (.inr hValue) hPassing
            · exact quietly_throw hFolder

/-- Turns are taken until the agent ends the task, something goes wrong or none is left. -/
theorem replied_taskTurns {client : ModelClient} (hClient : p.client = some client)
    (instruction : String) (turns : Int) (more turn : Nat) (progress : Progress) :
    Replied s (p.taskTurns instruction turns more turn progress)
      (Worked s turns more turn progress) := by
  induction more generalizing turn progress with
  | zero => exact replied_pure .spent
  | succ more ih =>
      rw [taskTurns]
      refine p.replied_look_bind hServes (fun elements title url hShown => ?_) fun _ h => .noPage h
      obtain ⟨question, hQuestion⟩ :=
        Question.agent_eq_ok (hServes.isElement hShown) instruction progress.history url title
      refine replied_go hQuestion (p.replied_decide_bind hServes hClient (fun reply v hRead => ?_)
        fun reply fault hRead => .unread hRead)
      by_cases hObject : ∃ fields, v = .obj fields
      · obtain ⟨fields, rfl⟩ := hObject
        refine replied_go (Json.fieldOr_obj ..) ?_
        cases hDone : Json.isDone fields with
        | true =>
            rw [Json.isDone] at hDone
            rw [if_pos hDone]
            exact fun w => ends_ofExcept (.ended hRead hDone)
        | false =>
            rw [Json.isDone] at hDone
            rw [if_neg (Bool.eq_false_iff.mp hDone)]
            cases hAsked : PageAction.askedIn elements (.obj fields) with
            | error fault => exact replied_stop hAsked (.unusable hRead hDone hShown hAsked)
            | ok actions =>
                refine replied_go hAsked ?_
                refine (p.quietly_runTurn hServes turn actions progress).bind ?_
                  fun fault hFolder => .noFolder hRead hDone hShown hAsked hFolder
                intro after hRecorded
                exact (ih (turn + 1) after).mono fun outcome replies hRest =>
                  .turn hRead hDone hShown hAsked hRecorded hRest
      · obtain ⟨fault, hError, hMistype⟩ :=
          Json.fieldOr_eq_error (not_exists.mp hObject) "done" .null
        exact replied_stop hError (.noFields hRead (not_exists.mp hObject) hMistype)

end PageSession

end ScenarioRunner
