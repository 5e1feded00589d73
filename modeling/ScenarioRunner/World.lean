import ScenarioRunner.Datum
import ScenarioRunner.Session.Settings
import ScenarioRunner.World.Call

/-! The world around a run: a clock, a counter for fresh ids, files, the browser as far as the runner
holds on to it, and the calls made so far. What outside parties answer is a function of the calls
made before; each answer takes time. -/
namespace ScenarioRunner

structure Answer where
  /-- How many milliseconds pass before the answer. -/
  elapsed : Nat := 0
  outcome : Except Fault Json

/-- What a run finds in its surroundings and cannot change. -/
structure Surroundings where
  environ : Assoc String := []
  /-- The library for YAML. -/
  readYaml : YamlReader := noYaml
  /-- The address that a page shows. -/
  pageUrl : Nat → String := fun _ => ""
  /-- The answer to a call, after the calls made earlier. -/
  respond : List Call → Call → Answer

/-- What the runner holds of a browser. -/
structure Holdings where
  driver : Bool := false
  browser : Bool := false
  /-- The session of each flow. -/
  sessions : Assoc PageSession := []
  /-- How many contexts and pages were opened so far. -/
  contexts : Nat := 0
  pages : Nat := 0
deriving DecidableEq, Repr

structure World where
  /-- Milliseconds since the start of 1970. -/
  clock : Nat := 0
  /-- How many ids were given out. -/
  ids : Nat := 0
  files : FileTree := {}
  /-- All calls made so far, in order. -/
  calls : List Call := []
  holdings : Holdings := {}
  /-- The folder for logs of decisions, once one has been set. -/
  debugDir : Option Path := none

/-- A computation that calls outside parties. -/
abbrev Outside := ReaderT Surroundings (StateM World)

/-- A computation that calls outside parties and may fail; what it did before failing stays done. -/
abbrev Attempt := ExceptT Fault Outside

namespace Outside

def now : Outside Nat := do return (← get).clock

def wait (ms : Nat) : Outside Unit := modify fun w => { w with clock := w.clock + ms }

def freshId : Outside Nat := modifyGet fun w => (w.ids + 1, { w with ids := w.ids + 1 })

def environ : Outside (Assoc String) := do return (← read).environ

def readYaml : Outside YamlReader := do return (← read).readYaml

/-- Makes a call, and lets the time of the answer pass. -/
def call (c : Call) : Outside (Except Fault Json) := do
  let w ← get
  let answer := (← read).respond w.calls c
  set { w with calls := w.calls ++ [c], clock := w.clock + answer.elapsed }
  return answer.outcome

def changeHoldings (f : Holdings → Holdings) : Outside Unit :=
  modify fun w => { w with holdings := f w.holdings }

/-- Changes files; where that fails they stay as they are. -/
def changeFiles (f : FileTree → Except FileTrouble FileTree) : Outside (Except FileTrouble Unit) := do
  let w ← get
  match f w.files with
  | .ok files => do
    set { w with files }
    return .ok ()
  | .error trouble => return .error trouble

/-- Makes a folder and then writes a text file. The folder stays even if the file fails. -/
def writeInto (folder file : Path) (text : String) : Outside (Except FileTrouble Unit) := do
  match ← changeFiles (·.makeFolders folder) with
  | .ok () => changeFiles (·.write file text)
  | .error trouble => return .error trouble

end Outside

namespace Attempt

/-- Goes on with the outcome of a computation that reports its failure. -/
def ofOutcome {α : Type} (x : Outside (Except Fault α)) : Attempt α := ExceptT.mk x

def call (c : Call) : Attempt Json := ofOutcome (Outside.call c)

def ofExcept {α : Type} (e : Except Fault α) : Attempt α := ExceptT.mk (pure e)

def onFiles {α : Type} (x : Outside (Except FileTrouble α)) : Attempt α :=
  ofOutcome do return (← x).mapError .file

/-- What comes of a computation, its failure included. -/
def outcome {α : Type} (x : Attempt α) : Attempt (Except Fault α) :=
  ExceptT.mk (Except.ok <$> x.run)

end Attempt

/-- The hexadecimal name of an id: six digits and then zeros up to a width. -/
def idText (width n : Nat) : String :=
  String.ofList ((Text.hex 6 n ++ List.replicate 26 '0').take width)

end ScenarioRunner
