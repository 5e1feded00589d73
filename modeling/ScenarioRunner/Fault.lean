import ScenarioRunner.Descriptor
import ScenarioRunner.File.Tree

/-! Everything that can go wrong, by cause. Each fault has a message and a label; the label names
the class of the fault and stands in for a message that is empty. -/
namespace ScenarioRunner

/-- The name of a class of exceptions. -/
structure ClassName where
  text : String
  nonempty : text ≠ ""
deriving DecidableEq, Repr

/-- How an outside party says that it failed: by one of the classes that are told apart somewhere,
or by any other one. -/
inductive Origin
  | page
  | pageTimeout
  | model
  | value
  | runtime
  | system
  | backend
  | unavailable
  | other (name : ClassName)
deriving DecidableEq, Repr

/-- Why a script cannot go on. -/
inductive ScriptFault
  | openQuote (line : Nat)
  | noOperation (line : Nat)
  | unknownOperation (line : Nat) (name : String)
  | wrongCount (line : Nat) (name : String) (least most got : Nat)
  | unknownBinding (name : String)
  /-- A wait for something that is no number of milliseconds. -/
  | badWait (text : String)
deriving DecidableEq, Repr

namespace ScriptFault

def message : ScriptFault → String
  | openQuote line => s!"line {line}: No closing quotation"
  | noOperation line => s!"line {line}: missing operation"
  | unknownOperation line name => s!"line {line}: unknown operation '{name}'"
  | wrongCount line name least most got =>
    s!"line {line}: '{name}' takes {least}-{most} arguments, got {got}"
  | unknownBinding name => s!"unknown binding '${name}'"
  | badWait text => s!"wait expects milliseconds, got {text}"

end ScriptFault

/-- An expectation that did not hold. -/
inductive Expectation
  | equal (actual expected : String)
  | containing (actual part : String)
  | notEmpty
deriving DecidableEq, Repr

namespace Expectation

def message : Expectation → String
  | equal actual expected => s!"expected {actual} to equal {expected}"
  | containing actual part => s!"expected {actual} to contain {part}"
  | notEmpty => "expected a non-empty value"

end Expectation

/-- Why a command of the debugger is refused. -/
inductive CommandFault
  | unknown (command : String)
  | notNow (command state : String)
  | retriesSpent (step : Nat) (limit : Int)
deriving DecidableEq, Repr

namespace CommandFault

def message : CommandFault → String
  | unknown command => s!"Unknown debugger command: {quoted command}"
  | notNow command state => s!"Cannot {command}: debugger is {state}"
  | retriesSpent step limit => s!"Step {step} already retried {limit} times"

end CommandFault

inductive Fault
  /-- An outside party failed, with words of its own. -/
  | reported (origin : Origin) (text : String)
  | invalidStep (d : Descriptor)
  /-- The operation needs decisions of a model, and there is none. -/
  | needsModel (operation : String)
  /-- No decision can be read out of the reply of the model. -/
  | noDecision (reason : String)
  | noAction (step reasoning : String)
  | actFailed (attempts : Int) (last : String)
  | agentFailed (error : String)
  | noSession (workflow cause : String)
  | script (fault : ScriptFault)
  | expectation (failed : Expectation)
  | command (fault : CommandFault)
  | needsSelector (action : String)
  | unknownAction (action : String)
  /-- A text that should be an integer is none. -/
  | notAnInteger (text : String)
  | integerTooLong (digits : Nat)
  | badJson (message : String)
  | badReply (message : String)
  | badYaml (message : String)
  | badRuleDocument (message : String)
  | file (trouble : FileTrouble)
  | missingConfig (path : String)
  | missingScenario (path : String)
  | noModelKey
  /-- An answer was asked for after the input had ended. -/
  | inputEnded
  /-- Values that do not have the form they should have, by their places. -/
  | misfits (places : List String)
  | badPattern
  | wrongType (message : String)
  | noAttribute (message : String)
  | overflow (message : String)
deriving DecidableEq, Repr

namespace Fault

/-- The text of a step that is not carried out, with the reason. -/
def invalidStepText (d : Descriptor) : String :=
  let reason := match d.invalidReason with
    | some reason => if reason == "" then none else some reason
    | none => none
  let reason := reason.getD s!"missing required parameters for '{d.kind.name}'"
  let rule := d.ruleName.getD "None"
  s!"Invalid step configuration ({reason}): type={d.kind.name} pattern={rule} params={d.paramsText}"

def tooLongText (digits : Nat) : String :=
  s!"Exceeds the limit ({Numeral.maxDigits} digits) for integer string conversion: value has " ++
    s!"{digits} digits; use sys.set_int_max_str_digits() to increase the limit"

/-- The first 200 characters of a quoted text. -/
def shortQuoted (text : String) : String := String.ofList ((quoted text).toList.take 200)

def message : Fault → String
  | reported _ text => text
  | invalidStep d => invalidStepText d
  | needsModel operation =>
    s!"'{operation}' needs an AI client; set ANTHROPIC_API_KEY to enable it"
  | noDecision reason => reason
  | noAction step reasoning => s!"No action found for '{step}': {reasoning}"
  | actFailed attempts last => s!"Action failed after {attempts} attempts: {last}"
  | agentFailed error => s!"Agent task reported an error: {error}"
  | noSession workflow cause =>
    s!"Could not start a browser session for workflow '{workflow}': {cause}"
  | script fault => fault.message
  | expectation failed => failed.message
  | command fault => fault.message
  | needsSelector action => s!"{action} action requires a selector"
  | unknownAction action => s!"Unknown action type: {action}"
  | notAnInteger text => s!"invalid literal for int() with base 10: {shortQuoted text}"
  | integerTooLong digits => tooLongText digits
  | badJson message => message
  | badReply message => s!"AI decision reply is invalid JSON: {message}"
  | badYaml message => message
  | badRuleDocument message => message
  | file trouble => trouble.message
  | missingConfig path => s!"Config file not found: {path}"
  | missingScenario path => s!"Scenario file not found: {path}"
  | noModelKey =>
    "ANTHROPIC_API_KEY is not set; steps that fall back to the AI (free-text act, extract, " ++
      "observe, agent tasks) cannot run."
  | inputEnded => ""
  | misfits places => "values that do not fit: " ++ ", ".intercalate places
  | badPattern => "the pattern cannot be read"
  | wrongType message => message
  | noAttribute message => message
  | overflow message => message

/-- What a value is called in complaints about its type. -/
def typeWord : Json → String
  | .null => "NoneType"
  | .bool _ => "bool"
  | .int _ => "int"
  | .float _ => "float"
  | .str _ => "str"
  | .arr _ => "list"
  | .obj _ => "dict"

/-- The value has no items. -/
def notIterable (v : Json) : Fault := wrongType s!"'{typeWord v}' object is not iterable"

/-- The value has no operation of that name. -/
def noOperation (v : Json) (name : String) : Fault :=
  noAttribute s!"'{typeWord v}' object has no attribute '{name}'"

def fileLabel : FileTrouble → String
  | .notFound _ => "FileNotFoundError"
  | .alreadyThere _ => "FileExistsError"
  | .notAFolder _ => "NotADirectoryError"
  | .isFolder _ => "IsADirectoryError"
  | .nameTooLong _ => "OSError"
  | .notPermitted _ => "PermissionError"
  | .nullCharacter => "ValueError"
  | .notText => "UnicodeDecodeError"

def originLabel : Origin → String
  | .page => "Error"
  | .pageTimeout => "TimeoutError"
  | .model => "APIConnectionError"
  | .value => "ValueError"
  | .runtime => "RuntimeError"
  | .system => "OSError"
  | .backend => "BackendExecutionError"
  | .unavailable => "SessionUnavailable"
  | .other name => name.text

/-- The class of a fault. -/
def label : Fault → String
  | reported origin _ => originLabel origin
  | invalidStep _ => "InvalidDescriptor"
  | needsModel _ => "BackendExecutionError"
  | noDecision _ => "BackendExecutionError"
  | noAction _ _ => "BackendExecutionError"
  | actFailed _ _ => "BackendExecutionError"
  | agentFailed _ => "BackendExecutionError"
  | noSession _ _ => "SessionUnavailable"
  | script _ => "ScriptError"
  | expectation _ => "ScriptAssertionError"
  | command _ => "DebugCommandError"
  | needsSelector _ => "ValueError"
  | unknownAction _ => "ValueError"
  | notAnInteger _ => "ValueError"
  | integerTooLong _ => "ValueError"
  | badJson _ => "JSONDecodeError"
  | badReply _ => "ValueError"
  | badYaml _ => "YAMLError"
  | badRuleDocument _ => "ValueError"
  | file trouble => fileLabel trouble
  | missingConfig _ => "FileNotFoundError"
  | missingScenario _ => "FileNotFoundError"
  | noModelKey => "OSError"
  | inputEnded => "Abort"
  | misfits _ => "ValidationError"
  | badPattern => "error"
  | wrongType _ => "TypeError"
  | noAttribute _ => "AttributeError"
  | overflow _ => "OverflowError"

/-- The message, or the label where the message is empty. -/
def text (f : Fault) : String := if f.message == "" then f.label else f.message

/-- A page did not do what it was asked for. -/
def isPageFault : Fault → Bool
  | reported .page _ => true
  | reported .pageTimeout _ => true
  | _ => false

/-- The model could not be reached. -/
def isModelFault : Fault → Bool
  | reported .model _ => true
  | _ => false

/-- A value is not of the kind that was needed. -/
def isValueFault (f : Fault) : Bool :=
  match f with
  | reported origin _ => origin == .value
  | file trouble => trouble.isBadText
  | misfits _ => true
  | badJson _ => true
  | f => f.label == "ValueError"

def isBackendFault : Fault → Bool
  | reported origin _ => origin == .backend
  | f => f.label == "BackendExecutionError"

/-- Something is wrong with a file or with the surroundings. -/
def isSystemFault : Fault → Bool
  | reported .system _ => true
  | noModelKey => true
  | file trouble => !trouble.isBadText
  | missingConfig _ => true
  | missingScenario _ => true
  | _ => false

def isYamlFault : Fault → Bool
  | badYaml _ => true
  | _ => false

def isCommandFault : Fault → Bool
  | command _ => true
  | _ => false

/-- Something was looked up at a place that is not there. -/
def outOfRange (message : String) : Fault := reported (.other ⟨"IndexError", by decide⟩) message

end Fault

namespace Json

/-- The items of a value: those of a list, the characters of a text, the names of the fields of
an object. -/
def items : Json → Except Fault (List Json)
  | arr items => .ok items
  | str s => .ok (s.toList.map fun c => str (String.singleton c))
  | obj fields => .ok (fields.map fun entry => str entry.1)
  | v => .error (Fault.notIterable v)

/-- The value of a field, or a default where an object lacks it. -/
def fieldOr (v : Json) (name : String) (default : Json) : Except Fault Json :=
  match v with
  | obj fields => .ok ((fields.lookup name).getD default)
  | v => .error (Fault.noOperation v "get")

end Json

end ScenarioRunner
