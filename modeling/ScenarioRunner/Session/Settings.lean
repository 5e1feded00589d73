import ScenarioRunner.File.Path

/-! How sessions come about. A provider is either somebody else's, and then each session is a party
outside of the runner, or it opens a browser and gives every flow a page of its own. -/
namespace ScenarioRunner

/-- The model that decides what to do on a page. -/
structure ModelClient where
  model : String := "claude-opus-4-6"
  maxTokens : Int := 4000
deriving DecidableEq, Repr

/-- A page of the browser, with all that is needed to act on it. -/
structure PageSession where
  page : Nat
  /-- The browser context in which the page was opened. -/
  context : Nat
  client : Option ModelClient := none
  /-- The folder for screenshots. -/
  shots : Option Path := none
deriving DecidableEq, Repr

inductive Session
  | given
  | page (p : PageSession)
deriving DecidableEq, Repr

/-- How browsers are launched and pages set up. -/
structure BrowserSettings where
  headless : Bool := true
  width : Int := 1280
  height : Int := 720
  client : Option ModelClient := none
  shots : Option Path := none
deriving DecidableEq, Repr

inductive Provider
  | given
  | browser (settings : BrowserSettings)
deriving DecidableEq, Repr

end ScenarioRunner
