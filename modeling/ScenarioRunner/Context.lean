import ScenarioRunner.Config
import ScenarioRunner.Session.Settings

/-! What steps are read and carried out with: the values of variables, the address to fall back on,
and the provider of sessions. -/
namespace ScenarioRunner

structure Context where
  values : Assoc String := []
  baseUrl : String := defaultBaseUrl
  provider : Option Provider := none
deriving DecidableEq, Repr

namespace Context

/-- The variable that overrides the address to fall back on. -/
def baseUrlName : String := "TEST_BASE_URL"

/-- Variables of the environment, overridden by those of the configuration. -/
def ofEnvironment (config : Config) (environ : Assoc String) (provider : Option Provider) :
    Context :=
  let values := environ.override config.values
  { values
    baseUrl := ((values.get? baseUrlName).filter (· != "")).getD config.baseUrl
    provider }

/-- Overrides variables. The name `self` is taken and cannot be one. -/
def withVariables (c : Context) (extra : Assoc String) : Except Fault Context :=
  if extra.hasKey "self" then .error (.wrongType "more than one value for 'self'")
  else .ok { c with values := c.values.override extra }

/-- Writes a variable into a context that is there already, which is refused: contexts stay as they
are made. -/
def assign (_ : Context) (_ _ : String) : Except Fault Context :=
  .error (.wrongType "'mappingproxy' object does not support item assignment")

def withProvider (c : Context) (provider : Provider) : Context :=
  { c with provider := some provider }

end Context

end ScenarioRunner
