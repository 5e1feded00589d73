import ScenarioRunner.Proofs.Provider.Step

/-! What holds between two calls to a provider of sessions whose launcher closes whatever it is told
to close. There is a browser only with its driver and a session only with a browser, neither of them
is ever opened twice, and each flow has a page of its own until everything is closed. -/
namespace ScenarioRunner

open Attempt

def Call.closes : Call → Bool
  | .closeContext _ | .closeBrowser | .stopDriver => true
  | _ => false

/-- Whatever the launcher is told to close is closed. -/
def Surroundings.Closes (s : Surroundings) : Prop :=
  ∀ earlier c, c.closes = true → (s.respond earlier c).outcome.isOk = true

namespace Exchange

@[simp] def startsDriver : Exchange → Bool
  | ⟨.startDriver, .ok _⟩ => true
  | _ => false

@[simp] def stopsDriver : Exchange → Bool
  | ⟨.stopDriver, .ok _⟩ => true
  | _ => false

@[simp] def launchesBrowser : Exchange → Bool
  | ⟨.launchBrowser _, .ok _⟩ => true
  | _ => false

@[simp] def closesBrowser : Exchange → Bool
  | ⟨.closeBrowser, .ok _⟩ => true
  | _ => false

end Exchange

/-- Of drivers and of browsers, one more was opened than closed while one is held, else as many. -/
structure Holdings.Counted (h : Holdings) (made : List Exchange) : Prop where
  drivers : made.countP Exchange.startsDriver =
    made.countP Exchange.stopsDriver + if h.driver then 1 else 0
  browsers : made.countP Exchange.launchesBrowser =
    made.countP Exchange.closesBrowser + if h.browser then 1 else 0

/-- What is held between two calls: a driver with its browser or neither, sessions only with them,
and for each session a page that no other session has. -/
structure Holdings.Sound (h : Holdings) : Prop where
  even : h.driver = h.browser
  housed : h.sessions ≠ [] → h.browser = true
  page_le : ∀ flow p, h.sessions.get? flow = some p → p.page ≤ h.pages
  apart : ∀ flow other p q, h.sessions.get? flow = some p → h.sessions.get? other = some q →
    p.page = q.page → flow = other

/-- More exchanges keep the count where they open and close as the holdings change. -/
theorem Holdings.Counted.append {h h₁ : Holdings} {before made : List Exchange}
    (hCounted : h.Counted before)
    (hDrivers : made.countP Exchange.startsDriver + (if h.driver then 1 else 0) =
      made.countP Exchange.stopsDriver + if h₁.driver then 1 else 0)
    (hBrowsers : made.countP Exchange.launchesBrowser + (if h.browser then 1 else 0) =
      made.countP Exchange.closesBrowser + if h₁.browser then 1 else 0) :
    h₁.Counted (before ++ made) := by
  obtain ⟨hDrivers', hBrowsers'⟩ := hCounted
  constructor <;> simp only [List.countP_append] <;> omega

namespace BrowserSettings

variable {settings : BrowserSettings} {h h₁ : Holdings} {made before : List Exchange}

/-- Launching counts what it starts and what it closes. -/
theorem Launched.counted {outcome : Except Fault Unit}
    (hLaunch : settings.Launched h outcome made h₁) (hEven : h.driver = h.browser)
    (hCounted : h.Counted before) : h₁.Counted (before ++ made) := by
  cases hLaunch <;> refine hCounted.append ?_ ?_ <;> simp_all [List.countP_cons]

/-- Opening a page counts nothing, as the browser was there before. -/
theorem Paged.counted {outcome : Except Fault PageSession}
    (hPage : settings.Paged h outcome made h₁) (hCounted : h.Counted before) :
    h₁.Counted (before ++ made) := by
  cases hPage <;> refine hCounted.append ?_ ?_ <;> simp

/-- Opening a session counts the launch that it may begin with. -/
theorem Opened.counted {outcome : Except Fault PageSession}
    (hOpened : settings.Opened h outcome made h₁) (hEven : h.driver = h.browser)
    (hCounted : h.Counted before) : h₁.Counted (before ++ made) := by
  cases hOpened with
  | unlaunched hLaunch => exact hLaunch.counted hEven hCounted
  | launched hLaunch hPage =>
      rw [← List.append_assoc]
      exact hPage.counted (hLaunch.counted hEven hCounted)

end BrowserSettings

section Closing

variable {h h₁ : Holdings} {held : Bool} {outcome : Except Fault Unit}
  {before made : List Exchange}

/-- Stopping the driver keeps the count. -/
theorem Shut.counted_stopDriver
    (hShut : Shut .stopDriver ({ · with driver := false }) h held outcome made h₁)
    (hHeld : held = true → h.driver = true) (hCounted : h.Counted before) :
    h₁.Counted (before ++ made) := by
  cases hShut <;> refine hCounted.append ?_ ?_ <;> simp_all

/-- Closing the browser keeps the count. -/
theorem Shut.counted_closeBrowser
    (hShut : Shut .closeBrowser ({ · with browser := false }) h held outcome made h₁)
    (hHeld : held = true → h.browser = true) (hCounted : h.Counted before) :
    h₁.Counted (before ++ made) := by
  cases hShut <;> refine hCounted.append ?_ ?_ <;> simp_all

/-- Closing sessions counts nothing. -/
theorem PageSession.ClosedEach.counted {sessions : List PageSession}
    (hEach : PageSession.ClosedEach sessions outcome made) (hCounted : h.Counted before) :
    h.Counted (before ++ made) := by
  induction hEach generalizing before with
  | done => simpa using hCounted
  | stuck => exact hCounted.append (by simp) (by simp)
  | next hRest ih =>
      rw [List.append_cons]
      exact ih (hCounted.append (by simp) (by simp))

end Closing

namespace BrowserSettings

variable {settings : BrowserSettings} {flow : String} {h h₁ : Holdings}
  {before made : List Exchange}

/-- Getting a session keeps the count, whether one was at hand or not. -/
theorem Got.counted {outcome : Except Fault PageSession}
    (hGot : settings.Got flow h outcome made h₁) (hEven : h.driver = h.browser)
    (hCounted : h.Counted before) : h₁.Counted (before ++ made) := by
  have hStop (h : Holdings) : (!h.browser && h.driver) = true → h.driver = true := by simp
  cases hGot with
  | known => simpa using hCounted
  | opened hNew hOpened =>
      obtain ⟨hDrivers, hBrowsers⟩ := hOpened.counted hEven hCounted
      exact ⟨hDrivers, hBrowsers⟩
  | refused hNew hOpened hDropped | stuck hNew hOpened hDropped =>
      rw [← List.append_assoc]
      exact hDropped.counted_stopDriver (hStop _) (hOpened.counted hEven hCounted)

/-- Launching leaves sessions and pages alone; a browser is held once it has succeeded. -/
theorem Launched.kept {outcome : Except Fault Unit}
    (hLaunch : settings.Launched h outcome made h₁) :
    h₁.sessions = h.sessions ∧ h₁.pages = h.pages ∧ h₁.browser = outcome.isOk := by
  cases hLaunch <;> simp_all [Except.isOk, Except.toBool]

/-- A browser that was launched has its driver. -/
theorem Launched.driver_of_browser {outcome : Except Fault Unit}
    (hLaunch : settings.Launched h outcome made h₁) (hEven : h.driver = h.browser)
    (hBrowser : h₁.browser = true) : h₁.driver = true := by
  cases hLaunch <;> simp_all

/-- Opening a page leaves the browser, its driver and the sessions alone. -/
theorem Paged.kept {outcome : Except Fault PageSession}
    (hPage : settings.Paged h outcome made h₁) :
    h₁.driver = h.driver ∧ h₁.browser = h.browser ∧ h₁.sessions = h.sessions := by
  cases hPage <;> exact ⟨rfl, rfl, rfl⟩

/-- Opening leaves the sessions alone, and keeps a browser that was there. -/
theorem Opened.kept {outcome : Except Fault PageSession}
    (hOpened : settings.Opened h outcome made h₁) :
    h₁.sessions = h.sessions ∧ (h.browser = true → h₁.browser = true) := by
  cases hOpened with
  | unlaunched hLaunch =>
      refine ⟨hLaunch.kept.1, fun hBrowser => ?_⟩
      cases hLaunch <;> simp_all
  | launched hLaunch hPage =>
      obtain ⟨-, hBrowser, hSessions⟩ := hPage.kept
      exact ⟨hSessions.trans hLaunch.kept.1, fun _ => hBrowser.trans hLaunch.kept.2.2⟩

/-- Opening a session does not leave a browser without its driver. -/
theorem Opened.driver_of_browser {outcome : Except Fault PageSession}
    (hOpened : settings.Opened h outcome made h₁) (hEven : h.driver = h.browser)
    (hBrowser : h₁.browser = true) : h₁.driver = true := by
  cases hOpened with
  | unlaunched hLaunch => exact hLaunch.driver_of_browser hEven hBrowser
  | launched hLaunch hPage =>
      obtain ⟨hDriver, hSame, -⟩ := hPage.kept
      exact hDriver.trans (hLaunch.driver_of_browser hEven (hSame.symm.trans hBrowser))

/-- A session that is opened has a new page in the browser that is held. -/
theorem Opened.fresh {p : PageSession} (hOpened : settings.Opened h (.ok p) made h₁) :
    h₁.browser = true ∧ p.page = h.pages + 1 ∧ h₁.pages = h.pages + 1 := by
  cases hOpened with
  | launched hLaunch hPage =>
      obtain ⟨-, hPages, hBrowser⟩ := hLaunch.kept
      cases hPage with
      | paged => exact ⟨hBrowser, congrArg (· + 1) hPages, congrArg (· + 1) hPages⟩

/-- An opening that fails opens no page. -/
theorem Opened.pages_eq {fault : Fault} (hOpened : settings.Opened h (.error fault) made h₁) :
    h₁.pages = h.pages := by
  cases hOpened with
  | unlaunched hLaunch => exact hLaunch.kept.2.1
  | launched hLaunch hPage => cases hPage <;> exact hLaunch.kept.2.1

/-- Dropping a driver keeps the sessions. -/
theorem Dropped.kept {outcome : Except Fault Unit} (hDropped : Dropped h outcome made h₁) :
    h₁.sessions = h.sessions := by
  unfold Dropped at hDropped
  generalize (!h.browser && h.driver) = held at hDropped
  cases hDropped <;> rfl

/-- A driver that was dropped without a fault is held on to only with its browser. -/
theorem Dropped.eq (hDropped : Dropped h (.ok ()) made h₁) :
    h₁ = { h with driver := h.browser && h.driver } := by
  unfold Dropped at hDropped
  generalize hHeld : (!h.browser && h.driver) = held at hDropped
  cases hDropped with
  | nothing =>
      have hSame : (h.browser && h.driver) = h.driver := by
        cases hBrowser : h.browser <;> simp_all
      rw [hSame]
  | shut =>
      have hBrowser : h.browser = false := by simp_all
      simp [hBrowser]

end BrowserSettings

/-- Closing everything keeps the count, whatever goes wrong meanwhile. -/
theorem PageSession.Closed.counted {h h₁ : Holdings} {outcome : Except Fault Unit}
    {before made : List Exchange} (hClosed : PageSession.Closed h outcome made h₁)
    (hCounted : h.Counted before) : h₁.Counted (before ++ made) := by
  have hDropped {more : List Exchange} (hCounted : h.Counted (before ++ more)) :
      { h with sessions := [] }.Counted (before ++ more) := ⟨hCounted.1, hCounted.2⟩
  cases hClosed with
  | context hContexts => exact hContexts.counted hCounted
  | browser hContexts hBrowser =>
      rw [← List.append_assoc]
      exact hBrowser.counted_closeBrowser id (hDropped (hContexts.counted hCounted))
  | driver hContexts hBrowser hDriver =>
      rw [← List.append_assoc, ← List.append_assoc]
      exact hDriver.counted_stopDriver id
        (hBrowser.counted_closeBrowser id (hDropped (hContexts.counted hCounted)))

def Granted (made : List Exchange) : Prop := ∀ e ∈ made, e.call.closes = true → e.ok = true

theorem Surroundings.Closes.granted {s : Surroundings} (hCloses : s.Closes)
    (earlier calls : List Call) : Granted (s.exchanges earlier calls) := by
  intro e hMem hCall
  obtain ⟨before, hAnswer⟩ := s.answer_of_mem_exchanges hMem
  rw [Exchange.ok, ← hAnswer]
  exact hCloses before e.call hCall

/-- Shutting something that can be closed goes through. -/
theorem Shut.outcome_eq {c : Call} {change : Holdings → Holdings} {h h₁ : Holdings} {held : Bool}
    {outcome : Except Fault Unit} {made : List Exchange} (hCloses : c.closes = true)
    (hShut : Shut c change h held outcome made h₁) (hGranted : Granted made) :
    outcome = .ok () := by
  cases hShut with
  | nothing | shut => rfl
  | stuck => cases hGranted _ (List.mem_singleton_self _) hCloses

namespace PageSession

variable {h h₁ : Holdings} {outcome : Except Fault Unit} {made : List Exchange}

/-- So does closing each of some sessions. -/
theorem ClosedEach.outcome_eq {sessions : List PageSession}
    (hEach : ClosedEach sessions outcome made) (hGranted : Granted made) : outcome = .ok () := by
  induction hEach with
  | done => rfl
  | stuck => cases hGranted _ (List.mem_singleton_self _) rfl
  | next hRest ih => exact ih fun e he => hGranted e (List.mem_cons_of_mem _ he)

/-- Where everything can be closed, nothing is held any more. -/
theorem Closed.nothing_held (hClosed : Closed h outcome made h₁) (hGranted : Granted made) :
    outcome = .ok () ∧ h₁.driver = false ∧ h₁.browser = false ∧ h₁.sessions = [] := by
  cases hClosed with
  | context hContexts => cases hContexts.outcome_eq hGranted
  | browser hContexts hBrowser =>
      cases hBrowser.outcome_eq rfl fun e he => hGranted e (List.mem_append_right _ he)
  | driver hContexts hBrowser hDriver =>
      have hOutcome := hDriver.outcome_eq rfl fun e he =>
        hGranted e (List.mem_append_right _ (List.mem_append_right _ he))
      subst hOutcome
      refine ⟨rfl, ?_⟩
      obtain ⟨driver, browser, sessions, contexts, pages⟩ := h
      unfold ClosedBrowser at hBrowser
      unfold Stopped at hDriver
      cases browser <;> cases hBrowser <;> cases driver <;> cases hDriver <;>
        exact ⟨rfl, rfl, rfl⟩

end PageSession

namespace BrowserSettings

variable {settings : BrowserSettings} {flow : String} {h h₁ : Holdings}
  {outcome : Except Fault PageSession} {made : List Exchange}

/-- The session of a flow stays, whichever session is asked for. -/
theorem Got.keeps (hGot : settings.Got flow h outcome made h₁) {other : String} {p : PageSession}
    (hKnown : h.sessions.get? other = some p) : h₁.sessions.get? other = some p := by
  cases hGot with
  | known => exact hKnown
  | opened hNew hOpened =>
      have hOther : other ≠ flow := by
        rintro rfl
        rw [hNew] at hKnown
        cases hKnown
      rw [Assoc.get?_put, if_neg hOther, hOpened.kept.1, hKnown]
  | refused hNew hOpened hDropped | stuck hNew hOpened hDropped =>
      rw [hDropped.kept, hOpened.kept.1, hKnown]

/-- A session that is given is the session of the flow from then on. -/
theorem Got.known_of_ok {p : PageSession} (hGot : settings.Got flow h (.ok p) made h₁) :
    h₁.sessions.get? flow = some p := by
  cases hGot with
  | known hKnown => exact hKnown
  | opened => simp [Assoc.get?_put]

/-- A session is refused for its flow, and all sessions stay. -/
theorem Got.refusal {fault : Fault} (hGot : settings.Got flow h (.error fault) made h₁)
    (hGranted : Granted made) :
    (∃ message, fault = .noSession flow message) ∧ h₁.sessions = h.sessions := by
  cases hGot with
  | refused hNew hOpened hDropped =>
      rw [hDropped.eq]
      exact ⟨⟨_, rfl⟩, hOpened.kept.1⟩
  | stuck hNew hOpened hDropped =>
      cases hDropped.outcome_eq rfl fun e he => hGranted e (List.mem_append_right _ he)

/-- With a new session what is held stays in order. -/
theorem Opened.sound_put {p : PageSession} (hOpened : settings.Opened h (.ok p) made h₁)
    (hSound : h.Sound) (flow : String) :
    { h₁ with sessions := h₁.sessions.put flow p }.Sound := by
  obtain ⟨hBrowser, hPage, hPages⟩ := hOpened.fresh
  have hOld {other : String} {q : PageSession} (hKnown : h.sessions.get? other = some q) :
      q.page < p.page := by
    have := hSound.page_le other q hKnown
    omega
  have hDriver := hOpened.driver_of_browser hSound.even hBrowser
  refine ⟨hDriver.trans hBrowser.symm, fun _ => hBrowser, ?_, ?_⟩
  · intro other q hKnown
    show q.page ≤ h₁.pages
    rw [Assoc.get?_put, hOpened.kept.1] at hKnown
    split at hKnown
    · cases hKnown
      omega
    · have := hOld hKnown
      omega
  · intro one other q r hOne hOther hSame
    rw [Assoc.get?_put, hOpened.kept.1] at hOne hOther
    split at hOne <;> split at hOther
    · rename_i hOne' hOther'
      exact hOne'.trans hOther'.symm
    · cases hOne
      have := hOld hOther
      omega
    · cases hOther
      have := hOld hOne
      omega
    · exact hSound.apart one other q r hOne hOther hSame

/-- What is held stays in order. -/
theorem Got.sound (hGot : settings.Got flow h outcome made h₁) (hGranted : Granted made)
    (hSound : h.Sound) : h₁.Sound := by
  cases hGot with
  | known => exact hSound
  | opened hNew hOpened => exact hOpened.sound_put hSound flow
  | @refused fault _ more h₁ _ hNew hOpened hDropped =>
      obtain ⟨hSessions, hBrowser⟩ := hOpened.kept
      rw [hDropped.eq]
      refine ⟨?_, ?_, ?_, ?_⟩
      · cases hHeld : h₁.browser
        · simp
        · simpa using hOpened.driver_of_browser hSound.even hHeld
      · exact fun hSome => hBrowser (hSound.housed (hSessions ▸ hSome))
      · intro other q hKnown
        rw [hOpened.pages_eq]
        exact hSound.page_le other q (hSessions ▸ hKnown)
      · intro one other q r hOne hOther
        exact hSound.apart one other q r (hSessions ▸ hOne) (hSessions ▸ hOther)
  | stuck hNew hOpened hDropped =>
      cases hDropped.outcome_eq rfl fun e he => hGranted e (List.mem_append_right _ he)

/-- A driver is started, and then a browser is launched. -/
inductive Relaunch (settings : BrowserSettings) : List Exchange → Prop
  | noDriver {fault : Fault} {more : List Exchange} :
      Relaunch settings (⟨.startDriver, .error fault⟩ :: more)
  | launch {v : Json} {answer : Except Fault Json} {more : List Exchange} :
      Relaunch settings
        (⟨.startDriver, .ok v⟩ :: ⟨.launchBrowser settings.headless, answer⟩ :: more)

/-- Where nothing is held, the browser is launched again. -/
theorem Got.relaunch (hGot : settings.Got flow h outcome made h₁) (hBrowser : h.browser = false)
    (hSessions : h.sessions = []) : settings.Relaunch made := by
  have hLaunch {launched : Except Fault Unit} {more rest : List Exchange} {h₂ : Holdings}
      (hLaunch : settings.Launched h launched more h₂) : settings.Relaunch (more ++ rest) := by
    cases hLaunch with
    | held hHeld => cases hBrowser.symm.trans hHeld
    | noDriver => exact .noDriver
    | noBrowser | launched => exact .launch
  have hOpening {opened : Except Fault PageSession} {more rest : List Exchange} {h₂ : Holdings}
      (hOpened : settings.Opened h opened more h₂) : settings.Relaunch (more ++ rest) := by
    cases hOpened with
    | unlaunched hUnlaunched => exact hLaunch hUnlaunched
    | launched hLaunched => rw [List.append_assoc]; exact hLaunch hLaunched
  cases hGot with
  | known hKnown => cases hSessions ▸ hKnown
  | opened hNew hOpened => exact List.append_nil made ▸ hOpening hOpened
  | refused hNew hOpened | stuck hNew hOpened => exact hOpening hOpened

/-- The worlds that calls for sessions, and calls that close all of them, lead to. -/
inductive Reached (settings : BrowserSettings) (s : Surroundings) (start : World) : World → Prop
  | start : Reached settings s start start
  | get {w : World} (flow : String) (hReached : Reached settings s start w) :
      Reached settings s start (runIn s w (settings.getSession flow)).2
  | closeAll {w : World} (hReached : Reached settings s start w) :
      Reached settings s start (runIn s w PageSession.closeAll).2

def afterGets (settings : BrowserSettings) (s : Surroundings) (w : World) (flows : List String) :
    World :=
  flows.foldl (fun w flow => (runIn s w (settings.getSession flow)).2) w

/-- What is held is sound, and as the calls since the start tell. -/
def Standing (s : Surroundings) (start w : World) : Prop :=
  w.holdings.Sound ∧ ∃ calls, w.calls = start.calls ++ calls ∧
    w.holdings.Counted (s.exchanges start.calls calls)

/-- How things stand between two calls. -/
structure Orderly (settings : BrowserSettings) (s : Surroundings) (start w : World) : Prop where
  /-- There is a browser only with its driver, and a session only with a browser. -/
  housed : (w.holdings.browser = true → w.holdings.driver = true) ∧
    (w.holdings.sessions ≠ [] → w.holdings.browser = true)
  /-- Since the start, as many drivers and browsers were closed as opened, up to the held ones. -/
  counted : ∃ calls, w.calls = start.calls ++ calls ∧
    w.holdings.Counted (s.exchanges start.calls calls)
  /-- A session that a flow was given is given again, without a call. -/
  same : ∀ flow p after, runIn s w (settings.getSession flow) = (.ok p, after) → ∀ flows,
    runIn s (settings.afterGets s after flows) (settings.getSession flow) =
      (.ok p, settings.afterGets s after flows)
  /-- No other flow is given a session with the same page. -/
  apart : ∀ flow p after, runIn s w (settings.getSession flow) = (.ok p, after) →
    ∀ flows other q last, other ≠ flow →
      runIn s (settings.afterGets s after flows) (settings.getSession other) = (.ok q, last) →
      q.page ≠ p.page
  /-- Where a session is refused, the others stay as they are. -/
  refused : ∀ flow fault after, runIn s w (settings.getSession flow) = (.error fault, after) →
    (∃ message, fault = .noSession flow message) ∧ after.holdings.sessions = w.holdings.sessions
  /-- Closing all leaves nothing held, and the next session needs another launch. -/
  closed : ∃ closed, runIn s w PageSession.closeAll = (.ok (), closed) ∧
    closed.holdings.driver = false ∧ closed.holdings.browser = false ∧
    closed.holdings.sessions = [] ∧
    ∀ flow, ∃ calls,
      (runIn s closed (settings.getSession flow)).2.calls = closed.calls ++ calls ∧
      settings.Relaunch (s.exchanges closed.calls calls)

section Run

variable {s : Surroundings} {start w : World}

/-- Getting a session leaves everything standing as it should. -/
theorem Standing.get (hFaults : s.LauncherFaults) (hCloses : s.Closes)
    (hStanding : Standing s start w) (flow : String) :
    Standing s start (runIn s w (settings.getSession flow)).2 := by
  obtain ⟨hSound, calls, hCalls, hCounted⟩ := hStanding
  obtain ⟨more, hMore, hGot⟩ := settings.ends_getSession w hFaults flow
  refine ⟨hGot.sound (hCloses.granted _ _) hSound, calls ++ more, ?_, ?_⟩
  · rw [hMore, hCalls, List.append_assoc]
  · rw [s.exchanges_append, ← hCalls]
    exact hGot.counted hSound.even hCounted

/-- So does closing everything. -/
theorem Standing.closeAll (hCloses : s.Closes) (hStanding : Standing s start w) :
    Standing s start (runIn s w PageSession.closeAll).2 := by
  obtain ⟨-, calls, hCalls, hCounted⟩ := hStanding
  obtain ⟨more, hMore, hClosed⟩ := PageSession.ends_closeAll (s := s) w
  obtain ⟨-, hDriver, hBrowser, hSessions⟩ := hClosed.nothing_held (hCloses.granted _ _)
  refine ⟨⟨hDriver.trans hBrowser.symm, fun hSome => (hSome hSessions).elim, ?_, ?_⟩,
    calls ++ more, ?_, ?_⟩
  · intro flow p hKnown
    cases hSessions ▸ hKnown
  · intro flow other p q hKnown
    cases hSessions ▸ hKnown
  · rw [hMore, hCalls, List.append_assoc]
  · rw [s.exchanges_append, ← hCalls]
    exact hClosed.counted hCounted

/-- All that can be reached stands as it should, by induction over the requests. -/
theorem Reached.standing (hFaults : s.LauncherFaults) (hCloses : s.Closes)
    (hFresh : start.holdings = {}) (hReached : settings.Reached s start w) :
    Standing s start w := by
  induction hReached with
  | start =>
      refine ⟨?_, [], (List.append_nil _).symm, ?_⟩
      · rw [hFresh]
        refine ⟨rfl, fun hSome => (hSome rfl).elim, ?_, ?_⟩
        · intro flow p hKnown
          cases hKnown
        · intro flow other p q hKnown
          cases hKnown
      · rw [hFresh]
        exact ⟨rfl, rfl⟩
  | get flow hReached ih => exact ih.get hFaults hCloses flow
  | closeAll hReached ih => exact ih.closeAll hCloses

/-- A session that is known is given as it is, and nothing else happens. -/
theorem runIn_getSession_of_known {flow : String} {p : PageSession}
    (hKnown : w.holdings.sessions.get? flow = some p) :
    runIn s w (settings.getSession flow) = (.ok p, w) := by
  have hHeld : runIn s w get = (.ok w, w) := rfl
  rw [getSession, runIn_bind, hHeld]
  simp only [hKnown, runIn_pure]

/-- A session that is known stays the same, whatever else is got. -/
theorem afterGets_keeps (settings : BrowserSettings) (hFaults : s.LauncherFaults) {flow : String}
    {p : PageSession}
    (hKnown : w.holdings.sessions.get? flow = some p) (flows : List String) :
    (settings.afterGets s w flows).holdings.sessions.get? flow = some p := by
  induction flows generalizing w with
  | nil => exact hKnown
  | cons other flows ih =>
      obtain ⟨calls, -, hGot⟩ := settings.ends_getSession w hFaults other
      exact ih (hGot.keeps hKnown)

/-- What comes after getting sessions can be reached, too. -/
theorem Reached.afterGets (hReached : settings.Reached s start w) (flows : List String) :
    settings.Reached s start (settings.afterGets s w flows) := by
  induction flows generalizing w with
  | nil => exact hReached
  | cons other flows ih => exact ih (hReached.get other)

/-- Between any two calls things stand as they should, whatever is asked for in which order and
whichever drivers, browsers, contexts and pages cannot be had. -/
theorem Reached.orderly (hFaults : s.LauncherFaults) (hCloses : s.Closes)
    (hFresh : start.holdings = {}) (hReached : settings.Reached s start w) :
    settings.Orderly s start w := by
  obtain ⟨hSound, hCounted⟩ := hReached.standing hFaults hCloses hFresh
  have hGiven {flow : String} {p : PageSession} {w w' : World}
      (hRun : runIn s w (settings.getSession flow) = (.ok p, w')) :
      w'.holdings.sessions.get? flow = some p := by
    obtain ⟨calls, -, hGot⟩ := settings.ends_getSession w hFaults flow
    rw [hRun] at hGot
    exact hGot.known_of_ok
  refine ⟨⟨fun hBrowser => hSound.even.trans hBrowser, hSound.housed⟩, hCounted, ?_, ?_, ?_, ?_⟩
  · intro flow p after hRun flows
    exact runIn_getSession_of_known (settings.afterGets_keeps hFaults (hGiven hRun) flows)
  · intro flow p after hRun flows other q last hOther hLast hSame
    have hAfter : after = (runIn s w (settings.getSession flow)).2 := by rw [hRun]
    have hReached' : settings.Reached s start last := by
      have := ((hReached.get flow).afterGets flows).get other
      rwa [← hAfter, hLast] at this
    have hKept := settings.afterGets_keeps hFaults (hGiven hRun) flows
    obtain ⟨calls, -, hGot⟩ := settings.ends_getSession (s := s)
      (settings.afterGets s after flows) hFaults other
    rw [hLast] at hGot
    have hSound' := (hReached'.standing hFaults hCloses hFresh).1
    exact hOther (hSound'.apart other flow q p (hGiven hLast) (hGot.keeps hKept) hSame)
  · intro flow fault after hRun
    obtain ⟨calls, -, hGot⟩ := settings.ends_getSession w hFaults flow
    rw [hRun] at hGot
    exact hGot.refusal (hCloses.granted _ _)
  · obtain ⟨calls, -, hClosed⟩ := PageSession.ends_closeAll (s := s) w
    obtain ⟨hOutcome, hDriver, hBrowser, hSessions⟩ := hClosed.nothing_held (hCloses.granted _ _)
    refine ⟨_, Prod.ext hOutcome rfl, hDriver, hBrowser, hSessions, fun flow => ?_⟩
    obtain ⟨more, hMore, hGot⟩ := settings.ends_getSession
      (runIn s w PageSession.closeAll).2 hFaults flow
    exact ⟨more, hMore, hGot.relaunch hBrowser hSessions⟩

end Run

def onePage : Surroundings where
  respond earlier
    | .newPage _ => ⟨0, if earlier.any (fun | .newPage _ => true | _ => false) then
        .error (.reported .page "out of memory") else .ok .null⟩
    | _ => ⟨0, .ok .null⟩

theorem onePage_launcherFaults : onePage.LauncherFaults := by
  intro earlier c fault _ hAnswer
  dsimp only [onePage] at hAnswer
  split at hAnswer
  · dsimp only at hAnswer
    split at hAnswer <;> cases hAnswer
    rfl
  · cases hAnswer

theorem onePage_closes : onePage.Closes := by
  intro earlier c hCall
  cases c <;> first | rfl | cases hCall

/-- With one page, the second flow is refused a session and the first one still has its own. -/
theorem orderly_onePage :
    let w := BrowserSettings.afterGets {} onePage {} ["shop", "search"]
    onePage.LauncherFaults ∧ onePage.Closes ∧ w.calls.length = 6 ∧ w.holdings.sessions.length = 1 ∧
      BrowserSettings.Orderly {} onePage {} w := by
  refine ⟨onePage_launcherFaults, onePage_closes, rfl, rfl, ?_⟩
  exact Reached.orderly onePage_launcherFaults onePage_closes rfl (Reached.start.afterGets _)

end BrowserSettings

end ScenarioRunner
