import ScenarioRunner.Session.Reply

/-! The calls that the runner makes to parties outside of it: to sessions that somebody else
provides, to the pages of a browser, to the model that decides for them, and to the launcher of
browsers. -/
namespace ScenarioRunner

/-- Calls to a session that is provided from outside. -/
inductive SessionCall
  | navigate (url : Reply)
  | goBack
  | reload
  | title
  /-- Carry out a text. Values of placeholders are passed on by steps but not by scripts. -/
  | act (text : String) (values : Option (Assoc String)) (fromScript : Bool)
  | extract (target : String) (shape : Reply)
  | observe (target : String)
  | runTask (instruction : String)

/-- Calls to one page of a browser. Times are in milliseconds. -/
inductive PageCall
  | goto (url : Json)
  | goBack
  | reload
  | title
  | settle (timeout : Int)
  | catalogue
  | pageText
  | click (selector : String) (timeout : Int)
  | fill (selector value : String) (timeout : Int)
  | select (selector label : String) (timeout : Int)
  | hover (selector : String) (timeout : Int)
  | locate (selector : String)
  | scrollIntoView (timeout : Int)
  | scrollTo (y : Int)
  | scrollToBottom
  | waitForSelector (selector : String) (timeout : Int)
  | waitFor (ms : Int)
  | press (key : String)
  | screenshot (path : String)

/-- A request for one decision of the model. -/
structure ModelRequest where
  model : String
  maxTokens : Int
  temperature : Json
  system : String
  message : String

inductive Call
  | session (call : SessionCall)
  /-- Ask the provider for the session of a flow. -/
  | openSession (workflow : String)
  | closeSessions
  /-- Call the page with a number. -/
  | page (number : Nat) (call : PageCall)
  | connectModel (key : String)
  | askModel (request : ModelRequest)
  | startDriver
  | launchBrowser (headless : Bool)
  | newContext (width height : Int)
  /-- Open a page in the context with a number. -/
  | newPage (context : Nat)
  | closeContext (number : Nat)
  | closeBrowser
  | stopDriver

/-- How long a page may take to load. -/
def loadTimeout : Int := 30000

/-- How long carrying out a text may take, and how often it is tried again. -/
def actTimeout : Int := 30000

def actRetries : Int := 2

/-- How many turns an agent has for a task. -/
def agentTurns : Int := 20

/-- A call as it stands in a log: its name, its arguments and its named arguments. -/
structure LogEntry where
  name : String
  arguments : List Json := []
  named : List (String × Json) := []

namespace LogEntry

def toJson (e : LogEntry) : Json := .arr [.str e.name, .arr e.arguments, .obj e.named]

end LogEntry

namespace SessionCall

def entry : SessionCall → LogEntry
  | navigate url => ⟨"navigate", [url.toJson], []⟩
  | goBack => ⟨"go_back", [], []⟩
  | reload => ⟨"reload", [], []⟩
  | title => ⟨"title", [], []⟩
  | act text values fromScript =>
    let values := if fromScript then [] else [("variables", (values.map Json.ofAssoc).getD .null)]
    ⟨"act", [.str text], [("timeout", .int actTimeout), ("retries", .int actRetries)] ++ values⟩
  | extract target shape => ⟨"extract", [.str target, shape.toJson], []⟩
  | observe target => ⟨"observe", [.str target], []⟩
  | runTask instruction =>
    ⟨"run_agent_task", [.str instruction], [("max_steps", .int agentTurns), ("feedback", .bool false)]⟩

end SessionCall

namespace PageCall

def withTimeout (name : String) (arguments : List Json) (timeout : Int) : LogEntry :=
  ⟨name, arguments, [("timeout", .int timeout)]⟩

/-- A call that waits until a page has loaded. -/
def loading (name : String) (arguments : List Json) : LogEntry :=
  ⟨name, arguments, [("wait_until", .str "domcontentloaded"), ("timeout", .int loadTimeout)]⟩

def entry : PageCall → LogEntry
  | goto url => loading "goto" [url]
  | goBack => loading "go_back" []
  | reload => loading "reload" []
  | title => ⟨"title", [], []⟩
  | settle timeout => withTimeout "wait_for_load_state" [.str "networkidle"] timeout
  | catalogue => ⟨"catalogue", [], []⟩
  | pageText => ⟨"page_text", [], []⟩
  | click selector timeout => withTimeout "click" [.str selector] timeout
  | fill selector value timeout => withTimeout "fill" [.str selector, .str value] timeout
  | select selector label timeout =>
    ⟨"select_option", [.str selector], [("label", .str label), ("timeout", .int timeout)]⟩
  | hover selector timeout => withTimeout "hover" [.str selector] timeout
  | locate selector => ⟨"locator", [.str selector], []⟩
  | scrollIntoView timeout => withTimeout "scroll_into_view_if_needed" [] timeout
  | scrollTo y => ⟨"evaluate", [.str "(y) => window.scrollTo(0, y)", .int y], []⟩
  | scrollToBottom => ⟨"evaluate", [.str "window.scrollTo(0, document.body.scrollHeight)"], []⟩
  | waitForSelector selector timeout => withTimeout "wait_for_selector" [.str selector] timeout
  | waitFor ms => ⟨"wait_for_timeout", [.int ms], []⟩
  | press key => ⟨"press", [.str key], []⟩
  | screenshot path => ⟨"screenshot", [], [("path", .str path), ("full_page", .bool true)]⟩

end PageCall

namespace Call

def entry : Call → LogEntry
  | session call => call.entry
  | openSession workflow => ⟨"get_session", [.str workflow], []⟩
  | closeSessions => ⟨"close_all", [], []⟩
  | page _ call => call.entry
  | connectModel key => ⟨"Anthropic", [.str key], []⟩
  | askModel request =>
    ⟨"create", [.str request.model, .int request.maxTokens, request.temperature,
      .str request.system, .arr [.arr [.str "user", .str request.message]]], []⟩
  | startDriver => ⟨"start", [], []⟩
  | launchBrowser headless =>
    ⟨"launch", [], [("headless", .bool headless),
      ("args", .strings ["--disable-blink-features=AutomationControlled"])]⟩
  | newContext width height =>
    ⟨"new_context", [], [("viewport", .obj [("width", .int width), ("height", .int height)])]⟩
  | newPage _ => ⟨"new_page", [], []⟩
  | closeContext _ => ⟨"context_close", [], []⟩
  | closeBrowser => ⟨"browser_close", [], []⟩
  | stopDriver => ⟨"stop", [], []⟩

end Call

end ScenarioRunner
