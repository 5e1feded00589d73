import ScenarioRunner.Config
import ScenarioRunner.Numeral.Integer
import ScenarioRunner.Text.Basic

/-! The arguments of the command line. Options may stand anywhere among the words of a command, and
two dashes end them. An option has a long name, which may take its value behind an equals sign, and
perhaps a letter, which may take it right behind itself; letters without values may be joined. -/
namespace ScenarioRunner.CommandLine

structure OptionSpec where
  name : String
  letter : Option Char := none
  takesValue : Bool := true
deriving DecidableEq, Repr

/-- Options with their values, in order, and the words beside them. -/
structure Scanned where
  options : List (String × String) := []
  words : List String := []
deriving DecidableEq, Repr

/-- What an argument with a dash gives: options that are complete, and perhaps one that has its value
in the next argument. -/
structure Reading where
  options : List (String × String) := []
  open? : Option String := none
deriving DecidableEq, Repr

/-- The options that letters stand for. -/
def readLetters (known : List OptionSpec) : List Char → Option Reading
  | [] => some {}
  | c :: rest => do
    let spec ← known.find? (·.letter == some c)
    if !spec.takesValue then
      let later ← readLetters known rest
      return { later with options := (spec.name, "") :: later.options }
    else if rest.isEmpty then return { open? := some spec.name }
    else return { options := [(spec.name, String.ofList rest)] }

/-- The option of a long name, and its value where one stands behind an equals sign. -/
def readName (spec : OptionSpec) (value : Option String) : Option Reading :=
  match spec.takesValue, value with
  | true, some value => some { options := [(spec.name, value)] }
  | true, none => some { open? := some spec.name }
  | false, some _ => none
  | false, none => some { options := [(spec.name, "")] }

/-- The options that an argument with a dash stands for. -/
def readDashed (known : List OptionSpec) (arg : String) : Option Reading :=
  let (name, value) := match Text.cutAt? ['='] arg.toList with
    | some (name, value) => (String.ofList name, some (String.ofList value))
    | none => (arg, none)
  match known.find? fun spec => "--" ++ spec.name == name with
  | some spec => readName spec value
  | none => if startsWith arg "--" then none else readLetters known (arg.toList.drop 1)

/-- Takes arguments apart. Unless options and words are `mixed`, the first word ends the options. -/
def scan (known : List OptionSpec) (mixed : Bool) : List String → Option Scanned
  | [] => some {}
  | arg :: rest =>
    if arg == "--" then some { words := rest }
    else if startsWith arg "-" && arg != "-" then do
      let reading ← readDashed known arg
      match reading.open?, rest with
      | none, rest =>
        let later ← scan known mixed rest
        return { later with options := reading.options ++ later.options }
      | some _, [] => none
      | some name, value :: rest =>
        let later ← scan known mixed rest
        return { later with options := reading.options ++ (name, value) :: later.options }
    else if mixed then do
      let later ← scan known mixed rest
      return { later with words := arg :: later.words }
    else some { words := arg :: rest }

namespace Scanned

variable (s : Scanned)

def has (name : String) : Bool := (s.options.lookup name).isSome

/-- All values of an option, in order. -/
def values (name : String) : List String :=
  s.options.filterMap fun entry => if entry.1 == name then some entry.2 else none

/-- The last value of an option. -/
def value? (name : String) : Option String := (s.values name).getLast?

/-- The last value of an option that takes an integer; nothing where it is none. -/
def int? (name : String) : Option (Option Int) :=
  match s.value? name with
  | none => some none
  | some text => (Numeral.readInteger text.toList).toOption.map some

end Scanned

/-- The file of the configuration unless another one is named. -/
def standardConfig : String := "itest-config.json"

inductive Command
  /-- Run scenario files, perhaps so many cases at once. -/
  | run (paths : List String) (config : String) (parallel : Option Int)
  | debug (path config : String) (maxRetries : Int)
  /-- Show how a step is understood. -/
  | interpret (step config : String) (values : List String) (asJson : Bool)
  /-- List the rules, perhaps of one kind alone. -/
  | patterns (config : String) (kind : Option String)
  /-- Show the cases of a scenario file. -/
  | parse (path : String)
  /-- Write a configuration file; without an address one is asked for. -/
  | init (baseUrl : Option String)
  | validateConfig (config : String)
deriving DecidableEq, Repr

/-- What arguments ask for. -/
inductive Request
  | help
  | command (c : Command)
  /-- A command with more words than it takes. -/
  | surplus (c : Command)
deriving DecidableEq, Repr

def helpOption : OptionSpec := { name := "help", takesValue := false }

def configOption : OptionSpec := { name := "config", letter := some 'c' }

/-- The request for a command that takes `count` words. -/
def counted (words : List String) (count : Nat) (c : Command) : Request :=
  if count < words.length then .surplus c else .command c

/-- Reads the arguments of a command; `make` gives nothing where a word is missing or a value does
not fit. -/
def withOptions (known : List OptionSpec) (make : Scanned → Option Request) (args : List String) :
    Option Request := do
  let s ← scan (helpOption :: known) true args
  if s.has helpOption.name then return .help else make s

def configOf (s : Scanned) : String := (s.value? configOption.name).getD standardConfig

def readRun : List String → Option Request :=
  withOptions [configOption, { name := "parallel", letter := some 'p' }] fun s => do
    let parallel ← s.int? "parallel"
    if s.words.isEmpty then none
    else return .command (.run s.words (configOf s) parallel)

def readDebug : List String → Option Request :=
  withOptions [configOption, { name := "max-retries" }] fun s => do
    let maxRetries ← s.int? "max-retries"
    return counted s.words 1 (.debug (← s.words.head?) (configOf s) (maxRetries.getD 3))

def readInterpret : List String → Option Request :=
  withOptions [configOption, { name := "var" }, { name := "json", takesValue := false }] fun s => do
    let step ← s.words.head?
    return counted s.words 1 (.interpret step (configOf s) (s.values "var") (s.has "json"))

def readPatterns : List String → Option Request :=
  withOptions [configOption, { name := "type" }] fun s =>
    some (counted s.words 0 (.patterns (configOf s) (s.value? "type")))

def readParse : List String → Option Request :=
  withOptions [] fun s => do return counted s.words 1 (.parse (← s.words.head?))

def readInit : List String → Option Request :=
  withOptions [{ name := "base-url" }] fun s =>
    some (counted s.words 0 (.init (s.value? "base-url")))

def readValidate : List String → Option Request :=
  withOptions [configOption] fun s => some (counted s.words 0 (.validateConfig (configOf s)))

/-- Reads the name of a command of a group, and the arguments behind it. -/
def withCommand (known : List OptionSpec) (commands : List (String × (List String → Option Request)))
    (args : List String) : Option Request := do
  let s ← scan (helpOption :: known) false args
  if s.has helpOption.name then return .help
  else
    match s.words with
    | [] => none
    | name :: rest => (← commands.lookup name) rest

def readConfig : List String → Option Request := withCommand [] [("validate", readValidate)]

/-- Reads the command line; nothing where it is misused. -/
def read : List String → Option Request :=
  withCommand [{ name := "verbose", letter := some 'v', takesValue := false }] [
    ("run", readRun),
    ("debug", readDebug),
    ("translate", readInterpret),
    ("patterns", readPatterns),
    ("parse", readParse),
    ("init", readInit),
    ("config", readConfig)]

end ScenarioRunner.CommandLine
