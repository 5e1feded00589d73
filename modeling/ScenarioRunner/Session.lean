import ScenarioRunner.Page.Provider

/-! Sessions, wherever they come from: given ones, every operation of which is a call to a party
outside, and pages of a browser. -/
namespace ScenarioRunner

namespace Provider

/-- The session of a flow. -/
def getSession (workflow : String) : Provider → Attempt Session
  | given => do
    let _ ← Attempt.call (.openSession workflow)
    return .given
  | browser settings => do return .page (← settings.getSession workflow)

/-- Closes all sessions. -/
def closeAll : Provider → Attempt Unit
  | given => do
    let _ ← Attempt.call .closeSessions
  | browser _ => PageSession.closeAll

end Provider

namespace Session

def ask (c : SessionCall) : Attempt Json := Attempt.call (.session c)

def navigate (url : Reply) : Session → Attempt Unit
  | given => do
    let _ ← ask (.navigate url)
  | page p => p.navigate url.toJson

def goBack : Session → Attempt Unit
  | given => do
    let _ ← ask .goBack
  | page p => p.goBack

def reload : Session → Attempt Unit
  | given => do
    let _ ← ask .reload
  | page p => p.reload

def title : Session → Attempt Json
  | given => ask .title
  | page p => p.title

/-- Carries out a text of a step, with the values of its placeholders. -/
def act (text : String) (values : Assoc String) : Session → Attempt Json
  | given => ask (.act text (if values.isEmpty then none else some values) false)
  | page p => p.act text actTimeout actRetries values

/-- Carries out a text of a script. -/
def actForScript (text : String) : Session → Attempt Json
  | given => ask (.act text none true)
  | page p => p.act text actTimeout actRetries []

/-- Takes data of a shape. -/
def extract (target : String) (shape : Reply) : Session → Attempt Json
  | given => ask (.extract target shape)
  | page p => p.extract target shape.display

def observe (target : String) : Session → Attempt Json
  | given => ask (.observe target)
  | page p => p.observe target

/-- Hands a task to an agent. -/
def runTask (instruction : String) : Session → Attempt Reply
  | given => do return .data (← ask (.runTask instruction))
  | page p => do return .report (← p.runTask instruction agentTurns)

end Session

end ScenarioRunner
