import ScenarioRunner.Text.LetterCase

/-! Paths of files. Empty parts and parts that are a single point are dropped when a path is read;
parts that are two points are kept. -/
namespace ScenarioRunner

structure Path where
  /-- The slashes at the start of an absolute path; empty for a relative one. -/
  root : String := ""
  parts : List String
deriving DecidableEq, Repr

namespace Path

/-- Two slashes at the start are kept; one, or more than two, stand for one. -/
def rootOf : List Char → String
  | '/' :: '/' :: '/' :: _ => "/"
  | '/' :: '/' :: _ => "//"
  | '/' :: _ => "/"
  | _ => ""

def ofText (text : String) : Path where
  root := rootOf text.toList
  parts := ((text.toList.splitOn '/').filter fun part => !part.isEmpty && part != ['.']).map
    String.ofList

/-- The text of a path. The path without parts is the working folder, written as a point. -/
def text (p : Path) : String :=
  if p.root == "" && p.parts.isEmpty then "." else p.root ++ "/".intercalate p.parts

/-- The path of `other` as seen from the folder `p`. -/
def join (p other : Path) : Path :=
  if other.root == "" then ⟨p.root, p.parts ++ other.parts⟩ else other

/-- The path of the file called `name` in the folder `p`. -/
def child (p : Path) (name : String) : Path := p.join (ofText name)

def parent (p : Path) : Path := ⟨p.root, p.parts.dropLast⟩

def name (p : Path) : String := p.parts.getLastD ""

/-- The name before its last point and the rest of it. A point at either end of the name does
not count. -/
def splitName (p : Path) : String × String :=
  let name := p.name.toList
  let ending := name.reverse.takeWhile (· != '.')
  let dot := name.length - ending.length - 1
  if 0 < dot && !ending.isEmpty then
    (String.ofList (name.take dot), String.ofList (name.drop dot))
  else (p.name, "")

/-- The name without its ending. -/
def stem (p : Path) : String := p.splitName.1

/-- The ending of the name with its point. -/
def ending (p : Path) : String := p.splitName.2

end Path

end ScenarioRunner
