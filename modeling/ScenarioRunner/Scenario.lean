import ScenarioRunner.Text.Basic

/-! Scenario texts. A line that starts with `## ` opens a test case; within a case a line that starts
with `# ` is a remark, other lines that start with `#` say nothing, and every other line that is not
blank is a step. A step may carry a comment behind a `#` that has blanks on both sides; one without
takes the last remark since the step before it. -/
namespace ScenarioRunner

structure Step where
  action : String
  comment : Option String := none
  /-- The flow to which the step belongs; all steps of a flow share a session. -/
  workflow : String := "shared-actions"
deriving DecidableEq, Repr

structure TestCase where
  name : String
  comments : List String := []
  steps : List Step := []
deriving DecidableEq, Repr

namespace Scenario

/-- The flow of steps that were not read from a file. -/
def sharedWorkflow : String := "shared-actions"

/-- Cuts a line at the first `#` with a blank on both sides; `after` says whether a blank comes
right before the line. -/
def cutAtComment (after : Bool) : List Char → List Char × Option (List Char)
  | [] => ([], none)
  | [c] => ([c], none)
  | c :: d :: rest =>
    if after && c == '#' && Text.isBlank d then ([], some rest)
    else
      let (action, comment) := cutAtComment (Text.isBlank c) (d :: rest)
      (c :: action, comment)

def textOf (s : List Char) : String := String.ofList (Text.trim s)

/-- The action of a step line and its comment. Blank lines and lines that start with `#` hold
no step. -/
def readStepLine (line : List Char) : Option (String × Option String) :=
  match Text.trim line with
  | [] => none
  | '#' :: _ => none
  | text =>
    let (action, comment) := cutAtComment false text
    some (textOf action, comment.map textOf)

/-- The name of the case that a trimmed line opens. -/
def title? : List Char → Option String
  | '#' :: '#' :: ' ' :: rest => some (textOf rest)
  | _ => none

/-- The text of a trimmed line that is a remark. -/
def remark? : List Char → Option String
  | '#' :: ' ' :: rest => some (textOf rest)
  | _ => none

/-- The remarks and steps in the trimmed lines of a case, where `pending` is the last remark since
the step before. -/
def readBody (workflow : String) (pending : Option String) :
    List (List Char) → List String × List Step
  | [] => ([], [])
  | line :: rest =>
    match remark? line with
    | some remark =>
      let (comments, steps) := readBody workflow (some remark) rest
      (remark :: comments, steps)
    | none =>
      match readStepLine line with
      | some (action, comment) =>
        let (comments, steps) := readBody workflow none rest
        (comments, ⟨action, comment <|> pending, workflow⟩ :: steps)
      | none => readBody workflow pending rest

/-- The lines up to the next one that opens a case. -/
def bodyLines (lines : List (List Char)) : List (List Char) :=
  lines.takeWhile fun line => (title? line).isNone

/-- The cases in trimmed lines: one for each line that opens one, with the lines up to the next. -/
def readCases (workflow : String) : List (List Char) → List TestCase
  | [] => []
  | line :: rest =>
    match title? line with
    | none => readCases workflow rest
    | some name =>
      let (comments, steps) := readBody workflow none (bodyLines rest)
      ⟨name, comments, steps⟩ :: readCases workflow rest

/-- The test cases of a scenario text. -/
def read (text : String) (workflow : String) : List TestCase :=
  readCases workflow ((Text.lines text.toList).map Text.trim)

end Scenario

end ScenarioRunner
