import ScenarioRunner.Fault
import ScenarioRunner.Scenario

/-! Scenario files. All steps of a file belong to one flow, which has its name from the file. -/
namespace ScenarioRunner.Scenario

/-- The flow of a file: the name of the file without its ending, in lower case. -/
def workflowOf (path : Path) : String := String.ofList (Text.lower path.stem.toList) ++ "-flow"

/-- The test cases of a file. -/
def ofFile (files : FileTree) (path : Path) (workflow : Option String) :
    Except Fault (List TestCase) := do
  let text ← (files.read path).mapError .file
  return read text ((workflow.filter (· != "")).getD (workflowOf path))

def ofFiles (files : FileTree) : List Path → Except Fault (List TestCase)
  | [] => .ok []
  | path :: rest => do
    let cases ← ofFile files path none
    return cases ++ (← ofFiles files rest)

/-- The ending of scenario files in folders. -/
def fileEnding : String := ".txt"

/-- The scenario files that a path stands for: the file itself, or those in a folder by name. -/
def filesAt (files : FileTree) (path : Path) : Except Fault (List Path) := do
  match ← (files.find? path).mapError .file with
  | .folder place => return ((files.names place).filter (endsWith · fileEnding)).map path.child
  | .file _ => return [path]
  | .nothing => .error (.missingScenario path.text)

/-- The scenario files that paths stand for, in order. -/
def collect (files : FileTree) : List String → Except Fault (List Path)
  | [] => .ok []
  | text :: rest => do
    let found ← filesAt files (Path.ofText text)
    return found ++ (← collect files rest)

end ScenarioRunner.Scenario
