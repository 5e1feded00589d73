import ScenarioRunner.CommandLine
import ScenarioRunner.CommandLine.Layout
import ScenarioRunner.Yaml.Document
import Std.Time.DateTime.Timestamp

/-! The program. It takes in the files below the working folder, carries out a command on them, shows
what the command has to show and writes the files that have changed. No browser and no model is
attached to it: steps that need one fail. -/
namespace ScenarioRunner.Program

/-- How many folders deep files are taken in. -/
def depthLimit : Nat := 12

/-- What is said to every call. -/
def respond (_ : List Call) : Call → Answer
  | .connectModel _ => { outcome := .error (.reported .system "no model is attached") }
  | _ => { outcome := .error (.reported .page "no browser is attached") }

/-- The variables whose values may count: those that some text has a placeholder for, and two of
fixed names. -/
def variableNames (texts : List String) : List String :=
  ([Context.baseUrlName, ModelClient.keyName] ++ texts.flatMap Placeholder.names).eraseDups

def textsOf (t : FileTree) : List String := t.files.filterMap fun entry => entry.2.decode

/-- The file with its bytes as text where they are text. -/
def contentOf (bytes : ByteArray) : Content :=
  match String.fromUTF8? bytes with
  | some s => .text s
  | none => .bytes bytes.toList

def pathText (place : List String) : String := "/".intercalate ("." :: place)

/-- Takes in a file or, if there is no file of that name, a folder. -/
def takeIn : Nat → FileTree → List String → IO FileTree
  | 0, t, _ => return t
  | depth + 1, t, place => do
    try
      let bytes ← IO.FS.readBinFile (pathText place)
      return { t with files := t.files ++ [(place, contentOf bytes)] }
    catch _ =>
      try
        let folder ← IO.FS.realPath (pathText place)
        let names := (← folder.readDir).toList.map (·.fileName)
        let t := if place.isEmpty then t else { t with folders := t.folders ++ [place] }
        (names.filter (!·.startsWith ".")).foldlM (fun t name => takeIn depth t (place ++ [name])) t
      catch _ => return t

/-- Writes the files that have changed. -/
def writeBack (before after : FileTree) : IO Unit := do
  for folder in after.folders do
    if !before.folders.contains folder then IO.FS.createDirAll (pathText folder)
  for (place, content) in after.files do
    match content with
    | .text s => if before.files.lookup place != some content then IO.FS.writeFile (pathText place) s
    | .bytes _ => pure ()
  for (path, content) in after.elsewhere do
    match content with
    | .text s => do
      IO.FS.createDirAll path.parent.text
      IO.FS.writeFile path.text s
    | .bytes _ => pure ()

def environment (names : List String) : IO (Assoc String) := do
  let values ← names.mapM fun name => do return (← IO.getEnv name).map fun value => (name, value)
  return values.filterMap id

end ScenarioRunner.Program

open ScenarioRunner in
def main (args : List String) : IO UInt32 := do
  let files ← Program.takeIn Program.depthLimit {} []
  let environ ← Program.environment (Program.variableNames (args ++ Program.textsOf files))
  let clock := (← Std.Time.Timestamp.now).toMillisecondsSinceUnixEpoch.toInt.toNat
  let input ← (← IO.getStdin).readToEnd
  let surroundings : Surroundings :=
    { environ, readYaml := Yaml.ofContent, respond := Program.respond }
  let ((outcome, console), w) :=
    ((CommandLine.execute args input).run surroundings).run { clock, files }
  for item in console.items do
    for line in item.lines do IO.println line
  for line in CommandLine.endLines outcome do IO.eprintln line
  Program.writeBack files w.files
  return (CommandLine.exitCode outcome).toUInt32
