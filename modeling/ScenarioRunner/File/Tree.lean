import ScenarioRunner.File.Path
import ScenarioRunner.Text.Quoted

/-! The files that paths lead to. A place below the working folder is the list of the names that
lead to it; the working folder itself is the empty list. Outside of it only the files that were
written there are known, by the paths that they were written to, and every folder is taken to be
there. Folders may be barred: no path leads through them. -/
namespace ScenarioRunner

/-- What a file holds: text, or bytes that may be no text. -/
inductive Content
  | text (s : String)
  | bytes (b : List UInt8)
deriving DecidableEq, Repr

/-- The text of a file; bytes have to be UTF-8. -/
def Content.decode : Content → Option String
  | .text s => some s
  | .bytes b => String.fromUTF8? ⟨b.toArray⟩

/-- What may not be searched. -/
structure Bars where
  folders : List (List String) := []
  /-- Paths outside of the working folder that lead through a folder of this kind. -/
  paths : List Path := []
deriving DecidableEq, Repr

structure FileTree where
  folders : List (List String) := []
  files : List (List String × Content) := []
  /-- What was written outside of the working folder. -/
  elsewhere : List (Path × Content) := []
  bars : Bars := {}
deriving DecidableEq, Repr

/-- Why a path cannot be used. -/
inductive FileTrouble
  | notFound (path : String)
  | alreadyThere (path : String)
  | notAFolder (path : String)
  | isFolder (path : String)
  | nameTooLong (path : String)
  | notPermitted (path : String)
  /-- The path holds a character that no path may hold. -/
  | nullCharacter
  /-- The file is no UTF-8 text. -/
  | notText
deriving DecidableEq, Repr

namespace FileTrouble

def message : FileTrouble → String
  | notFound path => "[Errno 2] No such file or directory: " ++ quoted path
  | alreadyThere path => "[Errno 17] File exists: " ++ quoted path
  | notAFolder path => "[Errno 20] Not a directory: " ++ quoted path
  | isFolder path => "[Errno 21] Is a directory: " ++ quoted path
  | nameTooLong path => "[Errno 36] File name too long: " ++ quoted path
  | notPermitted path => "[Errno 13] Permission denied: " ++ quoted path
  | nullCharacter => "embedded null byte"
  | notText => "invalid UTF-8 text"

/-- Troubles with the text of a path or a file, not with the files themselves. -/
def isBadText : FileTrouble → Bool
  | nullCharacter => true
  | notText => true
  | _ => false

/-- Troubles that keep it from being said whether anything is at the end of a path. -/
def isUnclear : FileTrouble → Bool
  | nameTooLong _ => true
  | notPermitted _ => true
  | _ => false

end FileTrouble

namespace FileTree

/-- The most bytes that one name may have. -/
def maxName : Nat := 255

/-- The most bytes that a whole path may have. -/
def maxPath : Nat := 4095

def isFolder (t : FileTree) (place : List String) : Bool := place.isEmpty || t.folders.contains place

def file? (t : FileTree) (place : List String) : Option Content := t.files.lookup place

/-- Where a walk along a path ends. -/
inductive Spot
  | inside (place : List String)
  | outside (path : Path)
deriving DecidableEq, Repr

/-- Goes along a path that leaves the working folder. -/
def leave (t : FileTree) (path : Path) : Except FileTrouble Spot :=
  if t.bars.paths.contains path then .error (.notPermitted path.text) else .ok (.outside path)

/-- Walks on from a folder. Every name but the last has to be a folder. -/
def walk (t : FileTree) (path : Path) (here : List String) :
    List String → Except FileTrouble Spot
  | [] => .ok (.inside here)
  | name :: rest =>
    if t.bars.folders.contains here then .error (.notPermitted path.text)
    else if name == ".." then
      if here.isEmpty then t.leave path else walk t path here.dropLast rest
    else if maxName < name.utf8ByteSize then .error (.nameTooLong path.text)
    else if rest.isEmpty then .ok (.inside (here ++ [name]))
    else if t.isFolder (here ++ [name]) then walk t path (here ++ [name]) rest
    else if (t.file? (here ++ [name])).isSome then .error (.notAFolder path.text)
    else .error (.notFound path.text)

def locate (t : FileTree) (path : Path) : Except FileTrouble Spot :=
  if path.text.toList.contains '\x00' then .error .nullCharacter
  else if maxPath < path.text.utf8ByteSize then .error (.nameTooLong path.text)
  else if path.root == "" then t.walk path [] path.parts
  else t.leave path

/-- What is found at the end of a path: a folder, a file or nothing. -/
inductive Found
  | folder (place : List String)
  | file (content : Content)
  | nothing
deriving DecidableEq, Repr

def look (t : FileTree) (path : Path) : Except FileTrouble Found := do
  match ← t.locate path with
  | .outside path =>
    match t.elsewhere.lookup path with
    | some content => return .file content
    | none => return .nothing
  | .inside place =>
    if t.isFolder place then return .folder place
    match t.file? place with
    | some content => return .file content
    | none => return .nothing

/-- What is found at the end of a path, if anything. A folder or a file on the way that is missing
is no trouble here. -/
def find? (t : FileTree) (path : Path) : Except FileTrouble Found :=
  match t.look path with
  | .error trouble => if trouble.isUnclear then .error trouble else .ok .nothing
  | .ok found => .ok found

def exists? (t : FileTree) (path : Path) : Except FileTrouble Bool :=
  (t.find? path).map (· != .nothing)

/-- Lines end in a newline, whichever of the three ways they ended in the file. -/
def unifyNewlines : List Char → List Char
  | [] => []
  | '\r' :: '\n' :: rest => '\n' :: unifyNewlines rest
  | '\r' :: rest => '\n' :: unifyNewlines rest
  | c :: rest => c :: unifyNewlines rest

/-- What the file at the end of a path holds. -/
def contentAt (t : FileTree) (path : Path) : Except FileTrouble Content := do
  match ← t.look path with
  | .folder _ => .error (.isFolder path.text)
  | .nothing => .error (.notFound path.text)
  | .file content => return content

/-- The text that a file holds. -/
def textOf (content : Content) : Except FileTrouble String :=
  match content.decode with
  | some s => .ok (String.ofList (unifyNewlines s.toList))
  | none => .error .notText

/-- The text of a file. -/
def read (t : FileTree) (path : Path) : Except FileTrouble String := do
  textOf (← t.contentAt path)

/-- Makes one folder, in a folder that is there already. -/
def makeFolder (t : FileTree) (path : Path) : Except FileTrouble FileTree := do
  match ← t.locate path with
  | .outside _ => return t
  | .inside place =>
    if t.isFolder place || (t.file? place).isSome then .error (.alreadyThere path.text)
    else return { t with folders := t.folders ++ [place] }

/-- Makes one folder; a folder that is there already is no trouble. -/
def ensureFolder (t : FileTree) (path : Path) : Except FileTrouble FileTree :=
  match t.makeFolder path, t.look path with
  | .ok made, _ => .ok made
  | .error _, .ok (.folder _) => .ok t
  | .error trouble, _ => .error trouble

/-- Makes a folder and the folders above it, as far as they are missing. Each round goes up one
folder, so one more round than the path has parts is enough. -/
def makeFoldersWithin : Nat → FileTree → Path → Except FileTrouble FileTree
  | 0, t, _ => .ok t
  | fuel + 1, t, path =>
    match t.ensureFolder path with
    | .error (.notFound p) =>
      if path.parts.isEmpty then .error (.notFound p)
      else do (← makeFoldersWithin fuel t path.parent).ensureFolder path
    | result => result

def makeFolders (t : FileTree) (path : Path) : Except FileTrouble FileTree :=
  makeFoldersWithin (path.parts.length + 1) t path

def put {κ : Type} [BEq κ] (place : κ) (content : Content) :
    List (κ × Content) → List (κ × Content)
  | [] => [(place, content)]
  | (p, old) :: rest =>
    if p == place then (place, content) :: rest else (p, old) :: put place content rest

/-- Writes a text file into a folder that is there already. -/
def write (t : FileTree) (path : Path) (text : String) : Except FileTrouble FileTree := do
  match ← t.locate path with
  | .outside path => return { t with elsewhere := put path (.text text) t.elsewhere }
  | .inside place =>
    if t.isFolder place then .error (.isFolder path.text)
    else return { t with files := put place (.text text) t.files }

/-- The names in a folder, sorted. -/
def names (t : FileTree) (place : List String) : List String :=
  let below := fun (p : List String) =>
    if p.dropLast == place then p.getLast? else none
  (t.folders.filterMap below ++ t.files.filterMap fun entry => below entry.1).mergeSort (· ≤ ·)

end FileTree

end ScenarioRunner
