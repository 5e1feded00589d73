import ScenarioRunner.Config
import ScenarioRunner.Datum
import ScenarioRunner.Rule.Builtin
import ScenarioRunner.Rule.Registry

/-! Documents with custom rules. A document is a mapping whose field `patterns` holds, for each kind
of action, a list of rules; entries that are no rules are passed over. A file holds its document as
JSON or as YAML, depending on its ending. YAML is read by a library, which is a parameter here. -/
namespace ScenarioRunner

namespace RuleTable

/-- The rules in the list of one kind. What counts as false in a condition is an empty list. -/
def ofEntries (entries : Datum) : Except Fault (List RuleDefinition) := do
  let entries ← if entries.truthy then entries.items else pure []
  return entries.filterMap fun entry => RuleDefinition.ofJson? entry.toJson

/-- The fault of a kind that has no text. -/
def tooManyDigits : Fault :=
  .reported .value (s!"Exceeds the limit ({Numeral.maxDigits} digits) for integer string " ++
    "conversion; use sys.set_int_max_str_digits() to increase the limit")

/-- Adds the rules of the kinds to a table. Kinds are told apart by their texts, and of two kinds with
the same text the later one counts. -/
def addKinds (table : RuleTable) : List (Atom × Datum) → Except Fault RuleTable
  | [] => .ok table
  | (kind, entries) :: rest => do
    let definitions ← ofEntries entries
    match kind.keyText? with
    | some text => addKinds (table.put text definitions) rest
    | none => .error tooManyDigits

/-- The rules of a document. -/
def ofDocument : Datum → Except Fault RuleTable
  | .mapping fields =>
    let patterns := (Datum.field? "patterns" fields).getD (.atom .null)
    if !patterns.truthy then .ok []
    else
      match patterns with
      | .mapping kinds => addKinds [] kinds
      | _ => .error (.badRuleDocument "'patterns' must map action types to lists")
  | _ => .error (.badRuleDocument "pattern config must be a mapping")

/-- The ending of a file tells that it holds JSON. -/
def isJsonFile (path : Path) : Bool := Text.lower path.ending.toList == ".json".toList

variable (readYaml : YamlReader)

/-- The document in a file of some content. -/
def readDocument (json : Bool) (content : Content) : Except Fault Datum :=
  if json then do
    return .ofJson (← Config.readDocument (← Config.onFiles (FileTree.textOf content)))
  else readYaml content

/-- The rules of a file that is there. -/
def read (files : FileTree) (path : Path) : Except Fault RuleTable := do
  let content ← Config.onFiles (files.contentAt path)
  ofDocument (← readDocument readYaml (isJsonFile path) content)

/-- A file that gives such a fault counts as a file without rules. -/
def isPassedOver (f : Fault) : Bool := f.isSystemFault || f.isValueFault || f.isYamlFault

def passOver : Except Fault RuleTable → Except Fault RuleTable
  | .error fault => if isPassedOver fault then .ok [] else .error fault
  | .ok table => .ok table

/-- The rules of a file. A file that is missing or cannot be read gives none. -/
def load (files : FileTree) (path : Option String) : Except Fault RuleTable := do
  match path.filter (· != "") with
  | none => return []
  | some path =>
    let path := Path.ofText path
    if !(← Config.onFiles (files.exists? path)) then return []
    passOver (read readYaml files path)

end RuleTable

/-- The builtin rules together with the custom ones of a file. -/
def Registry.ofFile (readYaml : YamlReader) (files : FileTree) (path : Option String) :
    Except Fault Registry := do
  build BuiltinRules.table (← RuleTable.load readYaml files path)

end ScenarioRunner
