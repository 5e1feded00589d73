import ScenarioRunner.Page.Session

/-! Providing sessions. A browser is launched when the first session is asked for; every flow has one
session with a page of its own, until all are closed. -/
namespace ScenarioRunner

namespace BrowserSettings

variable (s : BrowserSettings)

/-- Starts the driver and launches the browser, where none is held. -/
def launch : Attempt Unit := do
  if (← get).holdings.browser then return ()
  let _ ← Attempt.call .startDriver
  Outside.changeHoldings fun h => { h with driver := true }
  let _ ← Attempt.call (.launchBrowser s.headless)
  Outside.changeHoldings fun h => { h with browser := true }

/-- Opens a context, gives its number. -/
def openContext : Attempt Nat := do
  let _ ← Attempt.call (.newContext s.width s.height)
  Outside.changeHoldings fun h => { h with contexts := h.contexts + 1 }
  return (← get).holdings.contexts

/-- Opens a page in a context, gives its number. -/
def openPage (context : Nat) : Attempt Nat := do
  let _ ← Attempt.call (.newPage context)
  Outside.changeHoldings fun h => { h with pages := h.pages + 1 }
  return (← get).holdings.pages

/-- Opens a new session. -/
def openSession : Attempt PageSession := do
  s.launch
  let context ← s.openContext
  let page ← openPage context
  return { page, context, client := s.client, shots := s.shots }

/-- Stops a driver that was left without a browser. -/
def dropDriver : Attempt Unit := do
  let h := (← get).holdings
  if !h.browser && h.driver then
    let _ ← Attempt.call .stopDriver
    Outside.changeHoldings fun h => { h with driver := false }

/-- The session of a flow. -/
def getSession (workflow : String) : Attempt PageSession := do
  match (← get).holdings.sessions.get? workflow with
  | some session => return session
  | none =>
    match ← s.openSession.outcome with
    | .ok session =>
      Outside.changeHoldings fun h => { h with sessions := h.sessions.put workflow session }
      return session
    | .error fault =>
      if fault.isPageFault then
        dropDriver
        throw (.noSession workflow fault.message)
      else throw fault

end BrowserSettings

namespace PageSession

/-- Closes sessions one after another. -/
def closeEach : List PageSession → Attempt Unit
  | [] => return ()
  | p :: rest => do
    p.close
    closeEach rest

/-- Closes all sessions, the browser and its driver. -/
def closeAll : Attempt Unit := do
  closeEach ((← get).holdings.sessions.map (·.2))
  Outside.changeHoldings fun h => { h with sessions := [] }
  if (← get).holdings.browser then
    let _ ← Attempt.call .closeBrowser
    Outside.changeHoldings fun h => { h with browser := false }
  if (← get).holdings.driver then
    let _ ← Attempt.call .stopDriver
    Outside.changeHoldings fun h => { h with driver := false }

end PageSession

end ScenarioRunner
