import ScenarioRunner.World

/-! The console of the command line: what is shown on it, what is asked there, and how a command
ends. -/
namespace ScenarioRunner.CommandLine

/-- Something shown on the console. Texts may hold marks for styles, in brackets. -/
inductive Item
  | text (s : String)
  | table (title : String) (columns : List String) (rows : List (List String))
  | tree (label : String) (branches : List (String × List String))
  | json (v : Json)

/-- A question with the answers that are taken. -/
structure Prompt where
  text : String
  choices : List String
deriving DecidableEq, Repr

structure Console where
  items : List Item := []
  prompts : List Prompt := []
  /-- The lines of input that were not read yet. -/
  input : List String := []

/-- How a command ends before its end. -/
inductive Stop
  | exit (code : Nat)
  | help
  /-- The arguments are not those of any command. -/
  | misuse (message : Option String)
  | fault (f : Fault)

/-- A command on its way: it shows things on the console and may stop. -/
abbrev Talk := ExceptT Stop (StateT Console Outside)

namespace Talk

def showItem (item : Item) : Talk Unit :=
  modify fun c => { c with items := c.items ++ [item] }

def say (s : String) : Talk Unit := showItem (.text s)

def stop {α : Type} (s : Stop) : Talk α := throw s

/-- A fault ends the command. -/
def demand {α : Type} (e : Except Fault α) : Talk α :=
  match e with
  | .ok a => return a
  | .error f => stop (.fault f)

/-- Goes on with the outcome of a computation. -/
def ofOutside {α : Type} (x : Outside α) : Talk α := ExceptT.lift (StateT.lift x)

def ofAttempt {α : Type} (x : Attempt α) : Talk α := do demand (← ofOutside x.run)

def files : Talk FileTree := do return (← ofOutside get).files

def readYaml : Talk YamlReader := ofOutside Outside.readYaml

/-- There is a file or a folder at the end of a path. -/
def isThere (path : Path) : Talk Bool := do demand (((← files).exists? path).mapError .file)

/-- The next line of input. -/
def line : Talk String := do
  match (← get).input with
  | [] => stop (.fault .inputEnded)
  | line :: rest => do
    modify fun c => { c with input := rest }
    return line

/-- The first line of input that gives an answer. Lines that give none are asked for again. -/
def answer {α : Type} (answer? : String → Option α) : Talk α := do
  let input := (← get).input
  match input.findSome? answer? with
  | some a => do
    modify fun c => { c with input := (input.dropWhile fun line => (answer? line).isNone).drop 1 }
    return a
  | none => do
    modify fun c => { c with input := [] }
    stop (.fault .inputEnded)

end Talk

end ScenarioRunner.CommandLine
