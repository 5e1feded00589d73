import ScenarioRunner.Proofs.Provider.Invariant

/-! What is left open once everything was to be closed, whichever calls to the launcher fail. A
context is left open where no page could be opened in it; where a context or the browser cannot be
closed, all that was to be closed after it is left open. Nothing else is ever left open. -/
namespace ScenarioRunner

open Attempt

namespace Exchange

@[simp] def opensContext : Exchange → Bool
  | ⟨.newContext _ _, .ok _⟩ => true
  | _ => false

/-- The driver is told to stop, whether it does or not. -/
@[simp] def tellsDriver : Exchange → Bool
  | ⟨.stopDriver, _⟩ => true
  | _ => false

@[simp] def tellsBrowser : Exchange → Bool
  | ⟨.closeBrowser, _⟩ => true
  | _ => false

/-- Whether a thing is open after one more exchange. It is lost where another is opened before it
was told to close. -/
@[simp] def turn (opens tells : Exchange → Bool) (isOpen : Bool) (e : Exchange) : Option Bool :=
  if tells e then some false
  else if opens e then if isOpen then none else some true
  else some isOpen

end Exchange

/-- Whether a thing is open after exchanges, none of which lost it. -/
def openAfter (opens tells : Exchange → Bool) (made : List Exchange) : Option Bool :=
  made.foldlM (Exchange.turn opens tells) false

/-- Whatever was opened was told to close: each context by its number, each browser and each driver
before the next one was opened. -/
structure Released (made : List Exchange) : Prop where
  contexts : ∀ n, 0 < n → n ≤ made.countP Exchange.opensContext →
    Call.closeContext n ∈ made.map Exchange.call
  browsers : openAfter Exchange.launchesBrowser Exchange.tellsBrowser made = some false
  drivers : openAfter Exchange.startsDriver Exchange.tellsDriver made = some false

/-- Where one of these calls fails, something is left open. -/
def Call.strands : Call → Bool
  | .newPage _ | .closeContext _ | .closeBrowser => true
  | _ => false

/-- What is open after more exchanges is told by them from what was open before. -/
theorem openAfter_append (opens tells : Exchange → Bool) (made more : List Exchange) :
    openAfter opens tells (made ++ more) =
      (openAfter opens tells made).bind (more.foldlM (Exchange.turn opens tells)) := by
  rw [openAfter, List.foldlM_append]
  rfl

/-- What exchanges tell of the browser and the driver: what is open is held, and what else is held
of a driver was told to stop before. -/
structure Holdings.Tracked (h : Holdings) (driverOpen : Bool) (made : List Exchange) : Prop where
  browser : openAfter Exchange.launchesBrowser Exchange.tellsBrowser made = some h.browser
  driver : openAfter Exchange.startsDriver Exchange.tellsDriver made = some driverOpen
  held : driverOpen = true → h.driver = true
  housed : h.browser = true → driverOpen = true
  contexts : made.countP Exchange.opensContext = h.contexts

/-- Exchanges that tell of the changes of what is held keep it tracked. -/
theorem Holdings.Tracked.append {h h₁ : Holdings} {isOpen isOpen₁ : Bool}
    {before made : List Exchange} (hTracked : h.Tracked isOpen before)
    (hBrowser : made.foldlM (Exchange.turn Exchange.launchesBrowser Exchange.tellsBrowser)
      h.browser = some h₁.browser)
    (hDriver : made.foldlM (Exchange.turn Exchange.startsDriver Exchange.tellsDriver)
      isOpen = some isOpen₁)
    (hHeld : isOpen₁ = true → h₁.driver = true) (hHoused : h₁.browser = true → isOpen₁ = true)
    (hContexts : h.contexts + made.countP Exchange.opensContext = h₁.contexts) :
    h₁.Tracked isOpen₁ (before ++ made) where
  browser := by rw [openAfter_append, hTracked.browser]; exact hBrowser
  driver := by rw [openAfter_append, hTracked.driver]; exact hDriver
  held := hHeld
  housed := hHoused
  contexts := by rw [List.countP_append, hTracked.contexts, hContexts]

namespace BrowserSettings

variable {settings : BrowserSettings} {flow : String} {h h₁ : Holdings} {isOpen : Bool}
  {before made : List Exchange}

/-- A launch is tracked: it tells whether browser and driver are there now. -/
theorem Launched.tracked {outcome : Except Fault Unit}
    (hLaunch : settings.Launched h outcome made h₁) (hTracked : h.Tracked h.browser before) :
    ∃ isOpen, h₁.Tracked isOpen (before ++ made) := by
  cases hLaunch with
  | held => exact ⟨h.browser, by simpa using hTracked⟩
  | noDriver hBrowser =>
      exact ⟨false, hTracked.append (by simp) (by simp [hBrowser]) nofun (by simp [hBrowser])
        (by simp)⟩
  | noBrowser hBrowser =>
      exact ⟨true, hTracked.append (by simp) (by simp [hBrowser]) (fun _ => rfl) (fun _ => rfl)
        (by simp)⟩
  | launched hBrowser =>
      exact ⟨true, hTracked.append (by simp [hBrowser]) (by simp [hBrowser]) (fun _ => rfl)
        (fun _ => rfl) (by simp)⟩

/-- Opening a page changes nothing that is tracked but the contexts. -/
theorem Paged.tracked {outcome : Except Fault PageSession}
    (hPage : settings.Paged h outcome made h₁) (hTracked : h.Tracked isOpen before) :
    h₁.Tracked isOpen (before ++ made) := by
  cases hPage <;> exact hTracked.append (by simp) (by simp) hTracked.held hTracked.housed
    (by simp [List.countP_cons])

/-- Opening a session is tracked from its launch on. -/
theorem Opened.tracked {outcome : Except Fault PageSession}
    (hOpened : settings.Opened h outcome made h₁) (hTracked : h.Tracked h.browser before) :
    ∃ isOpen, h₁.Tracked isOpen (before ++ made) := by
  cases hOpened with
  | unlaunched hLaunch => exact hLaunch.tracked hTracked
  | launched hLaunch hPage =>
      obtain ⟨isOpen, hLaunched⟩ := hLaunch.tracked hTracked
      rw [← List.append_assoc]
      exact ⟨isOpen, hPage.tracked hLaunched⟩

/-- A driver without a browser is told to stop, whether it does or not. -/
theorem Dropped.tracked {outcome : Except Fault Unit} (hDropped : Dropped h outcome made h₁)
    (hTracked : h.Tracked isOpen before) : h₁.Tracked h₁.browser (before ++ made) := by
  unfold Dropped at hDropped
  generalize hHeld : (!h.browser && h.driver) = held at hDropped
  cases hDropped with
  | nothing =>
      have hSame : isOpen = h.browser := by
        have := hTracked.held
        have := hTracked.housed
        cases hBrowser : h.browser <;> cases isOpen <;> simp_all
      rw [List.append_nil, ← hSame]
      exact hTracked
  | shut =>
      have hBrowser : h.browser = false := by simp_all
      exact hTracked.append (by simp) (by simp [hBrowser]) (by simp [hBrowser]) id (by simp)
  | stuck =>
      have hBrowser : h.browser = false := by simp_all
      exact hTracked.append (by simp) (by simp [hBrowser]) (by simp [hBrowser]) id (by simp)

/-- Between two requests a driver is open only with its browser. -/
theorem Got.tracked {outcome : Except Fault PageSession}
    (hGot : settings.Got flow h outcome made h₁) (hTracked : h.Tracked h.browser before) :
    h₁.Tracked h₁.browser (before ++ made) := by
  cases hGot with
  | known => simpa using hTracked
  | opened hNew hOpened =>
      obtain ⟨isOpen, hBrowser, hDriver, hHeld, hHoused, hContexts⟩ := hOpened.tracked hTracked
      have hSame := (hHoused hOpened.fresh.1).trans hOpened.fresh.1.symm
      exact ⟨hBrowser, hSame ▸ hDriver, fun hOpen => hHeld (hSame.trans hOpen), id, hContexts⟩
  | refused hNew hOpened hDropped | stuck hNew hOpened hDropped =>
      obtain ⟨isOpen, hOpenedTracked⟩ := hOpened.tracked hTracked
      rw [← List.append_assoc]
      exact hDropped.tracked hOpenedTracked

end BrowserSettings

/-- A new key is put behind all others. -/
theorem Assoc.put_of_new {α : Type} {m : Assoc α} {key : String} {value : α}
    (hNew : m.get? key = none) : m.put key value = m ++ [(key, value)] := by
  induction m with
  | nil => rfl
  | cons entry m ih =>
      obtain ⟨k, v⟩ := entry
      rw [Assoc.get?_cons] at hNew
      split at hNew
      · cases hNew
      · rename_i hOther
        have hOther : (k == key) = false := by
          rw [Bool.not_eq_true, beq_eq_false_iff_ne] at hOther
          exact beq_eq_false_iff_ne.mpr (Ne.symm hOther)
        rw [Assoc.put, hOther, ih hNew]
        rfl

/-- A session was opened in the context with this number. -/
def Holdings.Owns (h : Holdings) (context : Nat) : Prop :=
  ∃ p ∈ h.sessions.map (·.2), p.context = context

/-- What exchanges tell of the contexts while sessions are asked for: each has its session unless a
page could not be opened, and none was told to close. -/
structure Holdings.Assigned (h : Holdings) (made : List Exchange) : Prop where
  housed : h.sessions ≠ [] → h.browser = true
  context_le : ∀ n, h.Owns n → n ≤ h.contexts
  owned : (∀ n, 0 < n → n ≤ h.contexts → h.Owns n) ↔
    ∀ e ∈ made, e.call.strands = true → e.ok = true
  untold : ∀ n, Call.closeContext n ∉ made.map Exchange.call

/-- Exchanges that open no page and close nothing but the driver. -/
theorem Holdings.Assigned.append {h h₁ : Holdings} {before made : List Exchange}
    (hAssigned : h.Assigned before) (hSessions : h₁.sessions = h.sessions)
    (hBrowser : h.browser = true → h₁.browser = true) (hContexts : h₁.contexts = h.contexts)
    (hPlain : ∀ e ∈ made, e.call.strands = false) : h₁.Assigned (before ++ made) := by
  have hOwns (n : Nat) : h₁.Owns n ↔ h.Owns n := by rw [Owns, hSessions]; rfl
  refine ⟨fun hSome => hBrowser (hAssigned.housed (hSessions ▸ hSome)), ?_, ?_, ?_⟩
  · intro n hOwned
    rw [hContexts]
    exact hAssigned.context_le n ((hOwns n).mp hOwned)
  · simp only [hOwns, hContexts, hAssigned.owned, List.mem_append]
    refine ⟨fun hBefore e he hStrands => ?_, fun hAll e he => hAll e (.inl he)⟩
    rcases he with he | he
    · exact hBefore e he hStrands
    · rw [hPlain e he] at hStrands
      cases hStrands
  · intro n hMem
    rw [List.map_append, List.mem_append] at hMem
    rcases hMem with hMem | hMem
    · exact hAssigned.untold n hMem
    · obtain ⟨e, he, hCall⟩ := List.mem_map.mp hMem
      have := hPlain e he
      rw [hCall] at this
      cases this

namespace BrowserSettings

variable {settings : BrowserSettings} {flow : String} {h h₁ : Holdings}
  {before made : List Exchange}

/-- Launching assigns no page. -/
theorem Launched.assigned {outcome : Except Fault Unit}
    (hLaunch : settings.Launched h outcome made h₁) (hAssigned : h.Assigned before) :
    h₁.Assigned (before ++ made) := by
  cases hLaunch <;> exact hAssigned.append rfl (by simp_all) rfl (by simp [Call.strands])

/-- Dropping a driver assigns no page. -/
theorem Dropped.assigned {outcome : Except Fault Unit} (hDropped : Dropped h outcome made h₁)
    (hAssigned : h.Assigned before) : h₁.Assigned (before ++ made) := by
  unfold Dropped at hDropped
  generalize (!h.browser && h.driver) = held at hDropped
  cases hDropped <;> exact hAssigned.append rfl id rfl (by simp [Call.strands])

/-- A context in which no page could be opened has no session. -/
theorem Paged.assigned_error {fault : Fault} (hPage : settings.Paged h (.error fault) made h₁)
    (hAssigned : h.Assigned before) : h₁.Assigned (before ++ made) := by
  cases hPage with
  | noContext => exact hAssigned.append rfl id rfl (by simp [Call.strands])
  | noPage =>
      refine ⟨hAssigned.housed, ?_, ?_, ?_⟩
      · exact fun n hOwned => Nat.le_succ_of_le (hAssigned.context_le n hOwned)
      · constructor
        · intro hAll
          have hLast := hAssigned.context_le _ (hAll (h.contexts + 1) (by simp) (by simp))
          omega
        · intro hAll
          cases hAll ⟨.newPage (h.contexts + 1), .error fault⟩ (by simp) rfl
      · simpa using hAssigned.untold

/-- A context in which a page was opened is that of the new session. -/
theorem Paged.assigned_ok {p : PageSession} (hPage : settings.Paged h (.ok p) made h₁)
    (hAssigned : h.Assigned before) (hBrowser : h₁.browser = true)
    (hNew : h₁.sessions.get? flow = none) :
    { h₁ with sessions := h₁.sessions.put flow p }.Assigned (before ++ made) := by
  have hOwns (n : Nat) : { h₁ with sessions := h₁.sessions.put flow p }.Owns n ↔
      h₁.Owns n ∨ n = p.context := by
    simp only [Holdings.Owns, Assoc.put_of_new hNew, List.map_append, List.mem_append]
    simp [or_and_right, exists_or, eq_comm]
  cases hPage with
  | @paged v v' =>
      refine ⟨fun _ => hBrowser, ?_, ?_, ?_⟩
      · intro n hOwned
        rcases (hOwns n).mp hOwned with hOwned | rfl
        · exact Nat.le_succ_of_le (hAssigned.context_le n hOwned)
        · exact Nat.le_refl _
      · constructor
        · intro hAll e he hStrands
          rcases List.mem_append.mp he with he | he
          · refine hAssigned.owned.mp (fun n hPos hLe => ?_) e he hStrands
            rcases (hOwns n).mp (hAll n hPos (Nat.le_succ_of_le hLe)) with hOwned | rfl
            · exact hOwned
            · exact absurd hLe (Nat.not_succ_le_self _)
          · simp only [List.mem_cons, List.not_mem_nil, or_false] at he
            rcases he with rfl | rfl <;> rfl
        · intro hAll n hPos hLe
          rcases Nat.le_succ_iff.mp hLe with hLe | rfl
          · exact (hOwns n).mpr (.inl (hAssigned.owned.mpr
              (fun e he => hAll e (List.mem_append_left _ he)) n hPos hLe))
          · exact (hOwns _).mpr (.inr rfl)
      · simpa using hAssigned.untold

/-- A session that is opened is assigned the page that was opened for it. -/
theorem Got.assigned {outcome : Except Fault PageSession}
    (hGot : settings.Got flow h outcome made h₁) (hAssigned : h.Assigned before) :
    h₁.Assigned (before ++ made) := by
  cases hGot with
  | known => simpa using hAssigned
  | opened hNew hOpened =>
      obtain ⟨hSessions, -⟩ := hOpened.kept
      obtain ⟨hBrowser, -⟩ := hOpened.fresh
      cases hOpened with
      | launched hLaunch hPage =>
          rw [← List.append_assoc]
          exact hPage.assigned_ok (hLaunch.assigned hAssigned) hBrowser (hSessions ▸ hNew)
  | refused hNew hOpened hDropped | stuck hNew hOpened hDropped =>
      rw [← List.append_assoc]
      refine hDropped.assigned ?_
      cases hOpened with
      | unlaunched hLaunch => exact hLaunch.assigned hAssigned
      | launched hLaunch hPage =>
          rw [← List.append_assoc]
          exact hPage.assigned_error (hLaunch.assigned hAssigned)

end BrowserSettings

/-- What holds whichever answer a call has. -/
@[elab_as_elim]
theorem Exchange.of_call {motive : Exchange → Prop} {c : Call} (e : Exchange) (hCall : e.call = c)
    (hAnswers : ∀ answer, motive ⟨c, answer⟩) : motive e := by
  obtain ⟨call, answer⟩ := e
  cases hCall
  exact hAnswers answer

/-- Exchanges that neither open nor close a thing leave it as it is. -/
theorem openAfter_append_idle {opens tells : Exchange → Bool} {before made : List Exchange}
    (hIdle : ∀ e ∈ made, opens e = false ∧ tells e = false) :
    openAfter opens tells (before ++ made) = openAfter opens tells before := by
  have hFold (isOpen : Bool) : made.foldlM (Exchange.turn opens tells) isOpen = some isOpen := by
    induction made with
    | nil => rfl
    | cons e made ih =>
        obtain ⟨hOpens, hTells⟩ := hIdle e (List.mem_cons_self ..)
        rw [List.foldlM_cons, Exchange.turn, hOpens, hTells]
        exact ih fun e he => hIdle e (List.mem_cons_of_mem _ he)
  rw [openAfter_append]
  cases openAfter opens tells before with
  | none => rfl
  | some isOpen => exact hFold isOpen

namespace PageSession

variable {h h₁ : Holdings} {outcome : Except Fault Unit} {before made more last : List Exchange}

/-- Closing sessions makes no other calls. -/
theorem ClosedEach.call_eq {sessions : List PageSession}
    (hEach : ClosedEach sessions outcome made) :
    ∀ e ∈ made, ∃ p ∈ sessions, e.call = .closeContext p.context := by
  induction hEach with
  | done => simp
  | stuck => simp
  | next hRest ih =>
      intro e he
      rcases List.mem_cons.mp he with rfl | he
      · exact ⟨_, List.mem_cons_self .., rfl⟩
      · obtain ⟨p, hMem, hCall⟩ := ih e he
        exact ⟨p, List.mem_cons_of_mem _ hMem, hCall⟩

/-- Where every session could be closed, each context was told to close. -/
theorem ClosedEach.closes_all {sessions : List PageSession}
    (hEach : ClosedEach sessions (.ok ()) made) :
    (∀ p ∈ sessions, .closeContext p.context ∈ made.map Exchange.call) ∧
      ∀ e ∈ made, e.ok = true := by
  generalize hOutcome : (Except.ok () : Except Fault Unit) = outcome at hEach
  induction hEach with
  | done => simp
  | stuck => cases hOutcome
  | @next p rest v outcome made hRest ih =>
      obtain ⟨hCalls, hOk⟩ := ih hOutcome
      refine ⟨fun q hMem => ?_, fun e he => ?_⟩
      · rcases List.mem_cons.mp hMem with rfl | hMem
        · exact List.mem_cons_self ..
        · exact List.mem_cons_of_mem _ (hCalls q hMem)
      · rcases List.mem_cons.mp he with rfl | he
        · rfl
        · exact hOk e he

/-- Where a session could not be closed, there was one. -/
theorem ClosedEach.stuck_at {sessions : List PageSession} {fault : Fault}
    (hEach : ClosedEach sessions (.error fault) made) :
    sessions ≠ [] ∧ ∃ e ∈ made, e.call.strands = true ∧ e.ok = false := by
  generalize hOutcome : (Except.error fault : Except Fault Unit) = outcome at hEach
  induction hEach with
  | done => cases hOutcome
  | stuck => exact ⟨List.cons_ne_nil _ _, _, List.mem_singleton_self _, rfl, rfl⟩
  | next hRest ih =>
      obtain ⟨-, e, he, hStuck⟩ := ih hOutcome
      exact ⟨List.cons_ne_nil _ _, e, List.mem_cons_of_mem _ he, hStuck⟩

/-- To close something, nothing else is called. -/
theorem call_eq_of_shut {c : Call} {change : Holdings → Holdings} {held : Bool}
    (hShut : Shut c change h held outcome made h₁) : ∀ e ∈ made, e.call = c := by
  cases hShut <;> simp

/-- A browser that was closed is told to be, and the driver stays. -/
theorem ClosedBrowser.tells (hBrowser : ClosedBrowser h (.ok ()) made h₁) :
    made.foldlM (Exchange.turn Exchange.launchesBrowser Exchange.tellsBrowser) h.browser =
      some false ∧ (∀ e ∈ made, e.ok = true) ∧ h₁.driver = h.driver := by
  unfold ClosedBrowser at hBrowser
  generalize h.browser = held at hBrowser ⊢
  cases hBrowser with
  | nothing => exact ⟨rfl, by simp, rfl⟩
  | shut => exact ⟨rfl, by simp [Exchange.ok, Except.isOk, Except.toBool], rfl⟩

/-- A browser that cannot be closed is where closing ends. -/
theorem ClosedBrowser.stuck_at {fault : Fault} (hBrowser : ClosedBrowser h (.error fault) made h₁) :
    h.browser = true ∧ made = [⟨.closeBrowser, .error fault⟩] := by
  unfold ClosedBrowser at hBrowser
  generalize h.browser = held at hBrowser ⊢
  cases hBrowser
  exact ⟨rfl, rfl⟩

/-- The driver is told to stop, if one is open. -/
theorem Stopped.tells (hDriver : Stopped h outcome made h₁) (isOpen : Bool)
    (hHeld : isOpen = true → h.driver = true) :
    made.foldlM (Exchange.turn Exchange.startsDriver Exchange.tellsDriver) isOpen = some false := by
  unfold Stopped at hDriver
  generalize h.driver = held at hDriver hHeld
  cases hDriver with
  | nothing =>
      have hOpen : isOpen = false := by simpa using hHeld
      subst hOpen
      rfl
  | shut | stuck => simp

/-- Closing sessions neither opens nor closes a browser or a driver. -/
theorem ClosedEach.openAfter_eq {sessions : List PageSession} {opens tells : Exchange → Bool}
    (hEach : ClosedEach sessions outcome made)
    (hIdle : ∀ n answer, opens ⟨.closeContext n, answer⟩ = false ∧
      tells ⟨.closeContext n, answer⟩ = false) :
    openAfter opens tells (before ++ made) = openAfter opens tells before := by
  refine openAfter_append_idle fun e he => ?_
  obtain ⟨p, -, hCall⟩ := hEach.call_eq e he
  exact e.of_call hCall (hIdle p.context)

section Ended

variable {h₂ : Holdings} (hContexts : ClosedEach (h.sessions.map (·.2)) (.ok ()) made)
  (hBrowser : ClosedBrowser { h with sessions := [] } (.ok ()) more h₁)
  (hDriver : Stopped h₁ outcome last h₂)

include hContexts hBrowser hDriver

/-- Where closing gets as far as the driver, every browser was told to close. -/
theorem browsers_told (hTracked : h.Tracked h.browser before) :
    openAfter Exchange.launchesBrowser Exchange.tellsBrowser
      (before ++ (made ++ (more ++ last))) = some false := by
  have hIdle : ∀ e ∈ last, e.launchesBrowser = false ∧ e.tellsBrowser = false :=
    fun e he => e.of_call (call_eq_of_shut hDriver e he) (by simp)
  rw [← List.append_assoc, ← List.append_assoc, openAfter_append_idle hIdle,
    openAfter_append, hContexts.openAfter_eq (by simp), hTracked.browser]
  exact hBrowser.tells.1

/-- Then every driver was told to stop as well. -/
theorem drivers_told (hTracked : h.Tracked h.browser before) :
    openAfter Exchange.startsDriver Exchange.tellsDriver
      (before ++ (made ++ (more ++ last))) = some false := by
  obtain ⟨-, -, hSame⟩ := hBrowser.tells
  have hHeld : h.browser = true → h₁.driver = true :=
    fun hHeld => hSame.trans (hTracked.held hHeld)
  have hIdle : ∀ e ∈ more, e.startsDriver = false ∧ e.tellsDriver = false :=
    fun e he => e.of_call (call_eq_of_shut hBrowser e he) (by simp)
  rw [← List.append_assoc, ← List.append_assoc, openAfter_append,
    openAfter_append_idle hIdle, hContexts.openAfter_eq (by simp), hTracked.driver]
  exact hDriver.tells h.browser hHeld

/-- Closing opens no context, and what has to succeed has succeeded. -/
theorem rest_ok : ∀ e ∈ made ++ (more ++ last),
    e.opensContext = false ∧ (e.call.strands = true → e.ok = true) := by
  obtain ⟨-, hOk, -⟩ := hBrowser.tells
  intro e he
  rcases List.mem_append.mp he with he | he
  · obtain ⟨p, -, hCall⟩ := hContexts.call_eq e he
    exact ⟨e.of_call hCall (by simp), fun _ => hContexts.closes_all.2 e he⟩
  rcases List.mem_append.mp he with he | he
  · exact ⟨e.of_call (call_eq_of_shut hBrowser e he) (by simp), fun _ => hOk e he⟩
  · refine ⟨e.of_call (call_eq_of_shut hDriver e he) (by simp), fun hStrands => ?_⟩
    rw [call_eq_of_shut hDriver e he] at hStrands
    cases hStrands

/-- Just the contexts of sessions were told to close. -/
theorem told_iff (hAssigned : h.Assigned before) (n : Nat) :
    .closeContext n ∈ (before ++ (made ++ (more ++ last))).map Exchange.call ↔ h.Owns n := by
  simp only [List.map_append, List.mem_append]
  constructor
  · rintro (hBefore | hMade | hMem | hMem)
    · exact absurd hBefore (hAssigned.untold n)
    · obtain ⟨e, he, hCall⟩ := List.mem_map.mp hMade
      obtain ⟨p, hMem, hContext⟩ := hContexts.call_eq e he
      exact ⟨p, hMem, Call.closeContext.inj (hContext.symm.trans hCall)⟩
    · obtain ⟨e, he, hCall⟩ := List.mem_map.mp hMem
      cases (call_eq_of_shut hBrowser e he).symm.trans hCall
    · obtain ⟨e, he, hCall⟩ := List.mem_map.mp hMem
      cases (call_eq_of_shut hDriver e he).symm.trans hCall
  · rintro ⟨p, hMem, rfl⟩
    exact .inr (.inl (hContexts.closes_all.1 p hMem))

/-- Then nothing is left open just when no page was missing. -/
theorem releases_iff (hTracked : h.Tracked h.browser before) (hAssigned : h.Assigned before) :
    Released (before ++ (made ++ (more ++ last))) ↔
      ∀ e ∈ before ++ (made ++ (more ++ last)), e.call.strands = true → e.ok = true := by
  have hRest := rest_ok hContexts hBrowser hDriver
  have hTold := told_iff hContexts hBrowser hDriver hAssigned
  have hCount : (before ++ (made ++ (more ++ last))).countP Exchange.opensContext =
      h.contexts := by
    rw [List.countP_append, hTracked.contexts, List.countP_eq_zero.mpr, Nat.add_zero]
    exact fun e he => by rw [(hRest e he).1]; exact Bool.false_ne_true
  constructor
  · intro hReleased e he
    rcases List.mem_append.mp he with he | he
    · refine hAssigned.owned.mp (fun n hPos hLe => ?_) e he
      exact (hTold n).mp (hReleased.contexts n hPos (hCount ▸ hLe))
    · exact (hRest e he).2
  · intro hAll
    refine ⟨fun n hPos hLe => (hTold n).mpr ?_, browsers_told hContexts hBrowser hDriver hTracked,
      drivers_told hContexts hBrowser hDriver hTracked⟩
    exact hAssigned.owned.mpr (fun e he => hAll e (List.mem_append_left _ he)) n hPos
      (hCount ▸ hLe)

end Ended

/-- Where closing is broken off there is a call that failed, and something is left open. -/
theorem Closed.releases_iff (hClosed : Closed h outcome made h₁)
    (hTracked : h.Tracked h.browser before) (hAssigned : h.Assigned before) :
    Released (before ++ made) ↔ ∀ e ∈ before ++ made, e.call.strands = true → e.ok = true := by
  have hNot {left : Prop} {e : Exchange} (he : e ∈ made) (hStrands : e.call.strands = true)
      (hFails : e.ok = false) (hLeft : ¬ left) :
      left ↔ ∀ e ∈ before ++ made, e.call.strands = true → e.ok = true := by
    refine iff_of_false hLeft fun hAll => ?_
    rw [hAll e (List.mem_append_right _ he) hStrands] at hFails
    cases hFails
  cases hClosed with
  | context hContexts =>
      obtain ⟨hSome, e, he, hStrands, hFails⟩ := hContexts.stuck_at
      have hSome : h.sessions ≠ [] := by simpa using hSome
      refine hNot he hStrands hFails fun hReleased => ?_
      have hClosed := hReleased.browsers
      rw [hContexts.openAfter_eq (by simp), hTracked.browser, hAssigned.housed hSome] at hClosed
      cases hClosed
  | @browser fault made more _ hContexts hBrowser =>
      obtain ⟨hHeld, rfl⟩ := hBrowser.stuck_at
      refine hNot (List.mem_append_right made (List.mem_singleton_self _)) rfl rfl
        fun hReleased => ?_
      have hClosed := hReleased.drivers
      rw [← List.append_assoc, openAfter_append_idle (by simp), hContexts.openAfter_eq (by simp),
        hTracked.driver] at hClosed
      cases hHeld.symm.trans (Option.some.inj hClosed)
  | driver hContexts hBrowser hDriver =>
      exact PageSession.releases_iff hContexts hBrowser hDriver hTracked hAssigned

end PageSession

namespace BrowserSettings

variable {settings : BrowserSettings} {s : Surroundings} {start w : World}

def Requested (s : Surroundings) (start w : World) : Prop :=
  ∃ calls, w.calls = start.calls ++ calls ∧
    w.holdings.Tracked w.holdings.browser (s.exchanges start.calls calls) ∧
    w.holdings.Assigned (s.exchanges start.calls calls)

/-- What was asked for stays so with one more session. -/
theorem Requested.get (hFaults : s.LauncherFaults) (hRequested : Requested s start w)
    (flow : String) : Requested s start (runIn s w (settings.getSession flow)).2 := by
  obtain ⟨calls, hCalls, hTracked, hAssigned⟩ := hRequested
  obtain ⟨more, hMore, hGot⟩ := settings.ends_getSession w hFaults flow
  refine ⟨calls ++ more, ?_, ?_⟩
  · rw [hMore, hCalls, List.append_assoc]
  · rw [s.exchanges_append, ← hCalls]
    exact ⟨hGot.tracked hTracked, hGot.assigned hAssigned⟩

/-- It stays so with any number of sessions. -/
theorem Requested.afterGets (settings : BrowserSettings) (hFaults : s.LauncherFaults)
    (hRequested : Requested s start w) (flows : List String) :
    Requested s start (settings.afterGets s w flows) := by
  induction flows generalizing w with
  | nil => exact hRequested
  | cons flow flows ih => exact ih (hRequested.get hFaults flow)

/-- Once everything was to be closed, nothing is left open if and only if every page could be opened
and every context and the browser could be closed, whatever else failed. -/
theorem released_iff (settings : BrowserSettings) (hFaults : s.LauncherFaults)
    (hFresh : start.holdings = {}) (flows : List String) :
    ∃ calls, (runIn s (settings.afterGets s start flows) PageSession.closeAll).2.calls =
        start.calls ++ calls ∧
      (Released (s.exchanges start.calls calls) ↔
        ∀ e ∈ s.exchanges start.calls calls, e.call.strands = true → e.ok = true) := by
  have hStart : Requested s start start := by
    refine ⟨[], (List.append_nil _).symm, ?_⟩
    rw [hFresh, Surroundings.exchanges]
    refine ⟨⟨rfl, rfl, by simp, by simp, rfl⟩, ⟨fun hSome => (hSome rfl).elim, ?_, ?_, ?_⟩⟩
    · simp [Holdings.Owns]
    · simp only [List.not_mem_nil, false_implies, implies_true, iff_true]
      exact fun n hPos hLe => absurd hPos (Nat.not_lt.mpr hLe)
    · simp
  obtain ⟨calls, hCalls, hTracked, hAssigned⟩ :=
    hStart.afterGets settings hFaults flows
  obtain ⟨more, hMore, hClosed⟩ :=
    PageSession.ends_closeAll (s := s) (settings.afterGets s start flows)
  refine ⟨calls ++ more, ?_, ?_⟩
  · rw [hMore, hCalls, List.append_assoc]
  · rw [s.exchanges_append, ← hCalls]
    exact hClosed.releases_iff hTracked hAssigned

/-- With one page, the context of the second flow is left open. -/
theorem released_iff_onePage :
    onePage.LauncherFaults ∧ ∃ calls,
      (runIn onePage (BrowserSettings.afterGets {} onePage {} ["shop", "search"])
        PageSession.closeAll).2.calls = calls ∧ ¬ Released (onePage.exchanges [] calls) := by
  obtain ⟨calls, hCalls, hReleased⟩ := BrowserSettings.released_iff {} onePage_launcherFaults
    (rfl : ({} : World).holdings = {}) ["shop", "search"]
  refine ⟨onePage_launcherFaults, calls, hCalls, fun hAll => ?_⟩
  have hMade : calls = [.startDriver, .launchBrowser true, .newContext 1280 720, .newPage 1,
      .newContext 1280 720, .newPage 2, .closeContext 1, .closeBrowser, .stopDriver] :=
    hCalls.symm.trans rfl
  subst hMade
  have hFailed := hReleased.mp hAll ⟨.newPage 2, .error (.reported .page "out of memory")⟩
  cases hFailed (by simp [Surroundings.exchanges, onePage]) rfl

end BrowserSettings

end ScenarioRunner
