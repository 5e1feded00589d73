import ScenarioRunner.Page.Provider
import ScenarioRunner.Proofs.Exchange

/-! What asking for a session, and closing all of them, can do. Each of the two ends in one of few
ways; a way says which exchanges there were with the launcher and what is held afterwards, and all
that is kept from one call to the next follows from this list. -/
namespace ScenarioRunner

open Attempt

def Call.launches : Call → Bool
  | .startDriver | .launchBrowser _ | .newContext _ _ | .newPage _ => true
  | .closeContext _ | .closeBrowser | .stopDriver => true
  | _ => false

/-- The launcher answers, or raises a fault of its own. -/
def Surroundings.LauncherFaults (s : Surroundings) : Prop :=
  ∀ earlier c fault, c.launches = true → (s.respond earlier c).outcome = .error fault →
    fault.isPageFault = true

/-- How something that may be held is closed: by a call, unless it is not held. Where the call
fails, what is held stays as it is. -/
inductive Shut (c : Call) (change : Holdings → Holdings) (h : Holdings) :
    Bool → Except Fault Unit → List Exchange → Holdings → Prop
  | nothing : Shut c change h false (.ok ()) [] h
  | shut {v : Json} : Shut c change h true (.ok ()) [⟨c, .ok v⟩] (change h)
  | stuck {fault : Fault} : Shut c change h true (.error fault) [⟨c, .error fault⟩] h

/-- What is done with something that may be held: it is closed, and then no longer held. -/
def shut (c : Call) (change : Holdings → Holdings) (held : Bool) : Attempt Unit :=
  if held = true then do
    let _ ← call c
    Outside.changeHoldings change
  else pure ()

/-- Something that may be held is closed before the rest is done. -/
theorem shut_bind (c : Call) (change : Holdings → Holdings) (held : Bool)
    (rest : Unit → Attempt Unit) :
    (if held = true then do
        let _ ← call c
        let closed ← Outside.changeHoldings change
        rest closed
      else rest ()) = shut c change held >>= rest := by
  cases held <;> simp [shut]

/-- Shutting asks for it if there is something to shut, and lets go of it only if that goes through.
-/
theorem ends_shut {s : Surroundings} (w : World) (c : Call) (change : Holdings → Holdings)
    (held : Bool) : Ends s w (shut c change held) fun outcome made after =>
      Shut c change w.holdings held outcome made after.holdings := by
  cases held with
  | false => exact ends_pure .nothing
  | true =>
      refine ends_call_bind (fun v _ => ?_) fun fault _ => .stuck
      exact ends_lift rfl .shut

namespace BrowserSettings

variable (settings : BrowserSettings)

/-- How launching ends. -/
inductive Launched (h : Holdings) : Except Fault Unit → List Exchange → Holdings → Prop
  | held (hBrowser : h.browser = true) : Launched h (.ok ()) [] h
  | noDriver {fault : Fault} (hBrowser : h.browser = false) :
      Launched h (.error fault) [⟨.startDriver, .error fault⟩] h
  | noBrowser {fault : Fault} {v : Json} (hBrowser : h.browser = false) :
      Launched h (.error fault)
        [⟨.startDriver, .ok v⟩, ⟨.launchBrowser settings.headless, .error fault⟩]
        { h with driver := true }
  | launched {v v' : Json} (hBrowser : h.browser = false) :
      Launched h (.ok ()) [⟨.startDriver, .ok v⟩, ⟨.launchBrowser settings.headless, .ok v'⟩]
        { h with driver := true, browser := true }

inductive Paged (h : Holdings) : Except Fault PageSession → List Exchange → Holdings → Prop
  | noContext {fault : Fault} :
      Paged h (.error fault) [⟨.newContext settings.width settings.height, .error fault⟩] h
  | noPage {fault : Fault} {v : Json} :
      Paged h (.error fault)
        [⟨.newContext settings.width settings.height, .ok v⟩,
          ⟨.newPage (h.contexts + 1), .error fault⟩]
        { h with contexts := h.contexts + 1 }
  | paged {v v' : Json} :
      Paged h
        (.ok { page := h.pages + 1, context := h.contexts + 1, client := settings.client
               shots := settings.shots })
        [⟨.newContext settings.width settings.height, .ok v⟩, ⟨.newPage (h.contexts + 1), .ok v'⟩]
        { h with contexts := h.contexts + 1, pages := h.pages + 1 }

inductive Opened (h : Holdings) : Except Fault PageSession → List Exchange → Holdings → Prop
  | unlaunched {fault : Fault} {made : List Exchange} {h₁ : Holdings}
      (hLaunch : settings.Launched h (.error fault) made h₁) : Opened h (.error fault) made h₁
  | launched {outcome : Except Fault PageSession} {made more : List Exchange} {h₁ h₂ : Holdings}
      (hLaunch : settings.Launched h (.ok ()) made h₁) (hPage : settings.Paged h₁ outcome more h₂) :
      Opened h outcome (made ++ more) h₂

/-- How a driver that was left without a browser is stopped. -/
abbrev Dropped (h : Holdings) : Except Fault Unit → List Exchange → Holdings → Prop :=
  Shut .stopDriver ({ · with driver := false }) h (!h.browser && h.driver)

/-- How asking for the session of a flow ends. After a fault a driver without a browser is stopped,
and where that fails its fault is the one that is raised. -/
inductive Got (flow : String) (h : Holdings) :
    Except Fault PageSession → List Exchange → Holdings → Prop
  | known {p : PageSession} (hKnown : h.sessions.get? flow = some p) : Got flow h (.ok p) [] h
  | opened {p : PageSession} {made : List Exchange} {h₁ : Holdings}
      (hNew : h.sessions.get? flow = none) (hOpened : settings.Opened h (.ok p) made h₁) :
      Got flow h (.ok p) made { h₁ with sessions := h₁.sessions.put flow p }
  | refused {fault : Fault} {made more : List Exchange} {h₁ h₂ : Holdings}
      (hNew : h.sessions.get? flow = none) (hOpened : settings.Opened h (.error fault) made h₁)
      (hDropped : Dropped h₁ (.ok ()) more h₂) :
      Got flow h (.error (.noSession flow fault.message)) (made ++ more) h₂
  | stuck {fault raised : Fault} {made more : List Exchange} {h₁ h₂ : Holdings}
      (hNew : h.sessions.get? flow = none) (hOpened : settings.Opened h (.error fault) made h₁)
      (hDropped : Dropped h₁ (.error raised) more h₂) : Got flow h (.error raised) (made ++ more) h₂

variable {s : Surroundings} (w : World)

/-- A launch starts the driver and then the browser, and drops the driver if there is no browser. -/
theorem ends_launch : Ends s w settings.launch fun outcome made after =>
    settings.Launched w.holdings outcome made after.holdings := by
  refine ends_lift_bind (y := get) rfl ?_
  show Ends s w (if w.holdings.browser = true then pure () else _) _
  split
  · rename_i hBrowser
    exact ends_pure (.held hBrowser)
  · rename_i hBrowser
    have hBrowser : w.holdings.browser = false := by simpa using hBrowser
    refine ends_call_bind (fun v _ => ?_) fun fault _ => .noDriver hBrowser
    refine ends_lift_bind rfl ?_
    refine ends_call_bind (fun v' _ => ?_) fun fault _ => .noBrowser hBrowser
    exact ends_lift rfl (.launched hBrowser)

/-- A page is opened in a context of its own. -/
theorem ends_openPage : Ends s w
    (do
      let context ← settings.openContext
      let page ← openPage context
      return { page, context, client := settings.client, shots := settings.shots })
    fun outcome made after => settings.Paged w.holdings outcome made after.holdings := by
  simp only [openContext, openPage, bind_assoc]
  refine ends_call_bind (fun v _ => ?_) fun fault _ => .noContext
  refine ends_lift_bind rfl (ends_lift_bind (y := get) rfl ?_)
  rw [pure_bind]
  refine ends_call_bind (fun v' _ => ?_) fun fault _ => .noPage
  refine ends_lift_bind rfl (ends_lift_bind (y := get) rfl ?_)
  rw [pure_bind]
  exact ends_pure .paged

/-- A session opens a page, after a launch if there is no browser. -/
theorem ends_openSession : Ends s w settings.openSession fun outcome made after =>
    settings.Opened w.holdings outcome made after.holdings := by
  refine ends_bind (settings.ends_launch w) (fun _ made w₁ hLaunch => ?_)
    fun fault made w₁ hLaunch => .unlaunched hLaunch
  exact (settings.ends_openPage w₁).mono fun outcome more after hPage => .launched hLaunch hPage

/-- The fault of an opening is one of the answers. -/
theorem Opened.fault_answered {h h₁ : Holdings} {fault : Fault} {made : List Exchange}
    (hOpened : settings.Opened h (.error fault) made h₁) :
    ∃ e ∈ made, e.call.launches = true ∧ e.answer = .error fault := by
  cases hOpened with
  | unlaunched hLaunch => cases hLaunch <;> exact ⟨_, List.mem_of_getLast? rfl, rfl, rfl⟩
  | launched hLaunch hPage =>
      cases hPage <;>
        exact ⟨_, List.mem_append_right _ (List.mem_of_getLast? rfl), rfl, rfl⟩

theorem ends_dropDriver : Ends s w dropDriver fun outcome made after =>
    Dropped w.holdings outcome made after.holdings :=
  ends_lift_bind (y := get) rfl (ends_shut w .stopDriver _ _)

/-- A session that is not known is opened and kept under the name of its flow. -/
theorem ends_getSession (hFaults : s.LauncherFaults) (flow : String) :
    Ends s w (settings.getSession flow) fun outcome made after =>
      settings.Got flow w.holdings outcome made after.holdings := by
  refine ends_lift_bind (y := get) rfl ?_
  simp only [Outside.runIn_get]
  split
  · rename_i p hKnown
    exact ends_pure (.known hKnown)
  · rename_i hNew
    refine ends_outcome_bind (settings.ends_openSession w).answered ?_
    rintro (fault | p) made w₁ ⟨hOpened, hAnswers⟩
    · have hFault : fault.isPageFault = true := by
        obtain ⟨e, hMem, hCall, hAnswer⟩ := hOpened.fault_answered
        obtain ⟨before, hBefore⟩ := hAnswers e hMem
        exact hFaults before e.call fault hCall (hBefore.trans hAnswer)
      dsimp only
      rw [if_pos hFault]
      refine ends_bind (ends_dropDriver w₁) ?_ ?_
      · intro _ more after hDropped
        refine ends_throw ?_
        rw [List.append_nil]
        exact .refused hNew hOpened hDropped
      · intro raised more after hDropped
        exact .stuck hNew hOpened hDropped
    · refine ends_lift_bind rfl (ends_pure ?_)
      rw [List.append_nil]
      exact .opened hNew hOpened

end BrowserSettings

namespace PageSession

inductive ClosedEach : List PageSession → Except Fault Unit → List Exchange → Prop
  | done : ClosedEach [] (.ok ()) []
  | stuck {p : PageSession} {rest : List PageSession} {fault : Fault} :
      ClosedEach (p :: rest) (.error fault) [⟨.closeContext p.context, .error fault⟩]
  | next {p : PageSession} {rest : List PageSession} {v : Json} {outcome : Except Fault Unit}
      {made : List Exchange} (hRest : ClosedEach rest outcome made) :
      ClosedEach (p :: rest) outcome (⟨.closeContext p.context, .ok v⟩ :: made)

abbrev ClosedBrowser (h : Holdings) : Except Fault Unit → List Exchange → Holdings → Prop :=
  Shut .closeBrowser ({ · with browser := false }) h h.browser

abbrev Stopped (h : Holdings) : Except Fault Unit → List Exchange → Holdings → Prop :=
  Shut .stopDriver ({ · with driver := false }) h h.driver

/-- How closing everything ends. It ends where something cannot be closed. -/
inductive Closed (h : Holdings) : Except Fault Unit → List Exchange → Holdings → Prop
  | context {fault : Fault} {made : List Exchange}
      (hContexts : ClosedEach (h.sessions.map (·.2)) (.error fault) made) :
      Closed h (.error fault) made h
  | browser {fault : Fault} {made more : List Exchange} {h₁ : Holdings}
      (hContexts : ClosedEach (h.sessions.map (·.2)) (.ok ()) made)
      (hBrowser : ClosedBrowser { h with sessions := [] } (.error fault) more h₁) :
      Closed h (.error fault) (made ++ more) h₁
  | driver {outcome : Except Fault Unit} {made more last : List Exchange} {h₁ h₂ : Holdings}
      (hContexts : ClosedEach (h.sessions.map (·.2)) (.ok ()) made)
      (hBrowser : ClosedBrowser { h with sessions := [] } (.ok ()) more h₁)
      (hDriver : Stopped h₁ outcome last h₂) : Closed h outcome (made ++ (more ++ last)) h₂

variable {s : Surroundings} (w : World)

/-- Contexts are closed one after another, up to the first that cannot be. -/
theorem ends_closeEach (sessions : List PageSession) : Ends s w (closeEach sessions)
    fun outcome made after => ClosedEach sessions outcome made ∧ after.holdings = w.holdings := by
  induction sessions generalizing w with
  | nil => exact ends_pure ⟨.done, rfl⟩
  | cons p rest ih =>
      rw [closeEach, close]
      simp only [bind_assoc, pure_bind]
      refine ends_call_bind (fun v _ => ?_) fun fault _ => ⟨.stuck, rfl⟩
      exact (ih (w.called s _)).mono fun outcome made after ⟨hRest, hHeld⟩ => ⟨.next hRest, hHeld⟩

/-- Closing goes through the sessions, the browser and the driver. -/
theorem ends_closeAll : Ends s w closeAll fun outcome made after =>
    Closed w.holdings outcome made after.holdings := by
  refine ends_lift_bind (y := get) rfl ?_
  refine ends_bind (ends_closeEach w _) ?_ ?_
  · rintro _ made w₁ ⟨hContexts, hHeld⟩
    refine ends_lift_bind rfl ?_
    generalize hDropped : (Outside.runIn s w₁ _).2 = w₂
    have hHeld₂ : w₂.holdings = { w.holdings with sessions := [] } := by
      rw [← hDropped, ← hHeld]; rfl
    refine ends_lift_bind (y := get) rfl ?_
    change Ends s w₂ (if w₂.holdings.browser = true then _ else _) _
    rw [shut_bind]
    refine ends_bind (ends_shut w₂ _ _ _) ?_ ?_
    · intro _ more w₃ hBrowser
      rw [hHeld₂] at hBrowser
      refine ends_lift_bind (y := get) rfl ((ends_shut w₃ .stopDriver _ w₃.holdings.driver).mono ?_)
      exact fun outcome last after hDriver => .driver hContexts hBrowser hDriver
    · intro fault more w₃ hBrowser
      rw [hHeld₂] at hBrowser
      exact .browser hContexts hBrowser
  · rintro fault made w₁ ⟨hContexts, hHeld⟩
    rw [hHeld]
    exact .context hContexts

end PageSession

end ScenarioRunner
