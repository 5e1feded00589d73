import ScenarioRunner.CommandLine.Console

/-! The console as plain lines, without marks for styles. -/
namespace ScenarioRunner.CommandLine

/-- The styles that texts on the console use. -/
def styles : List String := ["bold", "bold green", "blue", "dim", "green", "red", "yellow"]

/-- The marks that open and close styles. -/
def marks : List (List Char) :=
  styles.flatMap fun style => [("[" ++ style ++ "]").toList, ("[/" ++ style ++ "]").toList]

/-- Drops all marks; `covered` counts the characters that are still to be dropped. -/
def dropMarks : Nat → List Char → List Char
  | _, [] => []
  | covered + 1, _ :: rest => dropMarks covered rest
  | 0, c :: rest =>
    match marks.find? (·.isPrefixOf (c :: rest)) with
    | some mark => dropMarks (mark.length - 1) rest
    | none => c :: dropMarks 0 rest

def plain (s : String) : String := String.ofList (dropMarks 0 s.toList)

/-- The cells of a row on one line. -/
def rowLine (cells : List String) : String := " | ".intercalate (cells.map plain)

def branchLines (branch : String × List String) : List String :=
  ("- " ++ plain branch.1) :: branch.2.map fun leaf => "  - " ++ plain leaf

def Item.lines : Item → List String
  | text s => [plain s]
  | table title columns rows => plain title :: rowLine columns :: rows.map rowLine
  | tree label branches => plain label :: branches.flatMap branchLines
  | json v => [v.indented]

/-- How the program is called. -/
def usage : List String := [
  "Usage: itest [-v] COMMAND",
  "  run PATHS... [-c FILE] [-p COUNT]      run scenario files",
  "  debug PATH [-c FILE] [--max-retries N] step through a scenario file",
  "  translate STEP [-c FILE] [--var NAME=VALUE]... [--json]",
  "  patterns [-c FILE] [--type KIND]       list the rules",
  "  parse PATH                             show the steps of a scenario file",
  "  init [--base-url URL]                  write a configuration file",
  "  config validate [-c FILE]              check the configuration file"]

/-- What is told about the end of a command. -/
def endLines : Except Stop Unit → List String
  | .ok () => []
  | .error (.exit _) => []
  | .error .help => usage
  | .error (.misuse (some message)) => ["Error: " ++ message]
  | .error (.misuse none) => usage
  | .error (.fault f) => [f.label ++ ": " ++ f.message]

end ScenarioRunner.CommandLine
