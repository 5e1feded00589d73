import ScenarioRunner.Assoc
import ScenarioRunner.Numeral.Shortest
import ScenarioRunner.Text.Quoted

/-! JSON values. Integers have any size and are kept apart from double-precision numbers; the fields
of an object keep the order in which they arrived. -/
namespace ScenarioRunner

inductive Json
  | null
  | bool (b : Bool)
  | int (n : Int)
  | float (x : Binary64)
  | str (s : String)
  | arr (items : List Json)
  | obj (fields : List (String × Json))

namespace Json

instance : Inhabited Json := ⟨.null⟩

/-- Counts as true in a condition: everything but null, false, zero and what is empty. -/
def truthy : Json → Bool
  | null => false
  | bool b => b
  | int n => n != 0
  | float x => !x.isZero
  | str s => s != ""
  | arr items => !items.isEmpty
  | obj fields => !fields.isEmpty

/-- The value of a field of an object. -/
def field? (name : String) : Json → Option Json
  | obj fields => List.lookup name fields
  | _ => none

def isNull : Json → Bool
  | null => true
  | _ => false

def string? : Json → Option String
  | str s => some s
  | _ => none

/-- A string, or null for none. -/
def ofOption : Option String → Json
  | some s => str s
  | none => null

def ofNat (n : Nat) : Json := int n

def strings (l : List String) : Json := arr (l.map str)

def ofAssoc (m : Assoc String) : Json := obj (m.mapValues str)

mutual

/-- The text of a value inside another one, in messages. -/
def quotedText : Json → String
  | null => "None"
  | bool true => "True"
  | bool false => "False"
  | int n => toString n
  | float x => x.text
  | str s => quoted s
  | arr items => "[" ++ ", ".intercalate (quotedItems items) ++ "]"
  | obj fields => "\x7b" ++ ", ".intercalate (quotedFields fields) ++ "\x7d"

def quotedItems : List Json → List String
  | [] => []
  | v :: rest => quotedText v :: quotedItems rest

def quotedFields : List (String × Json) → List String
  | [] => []
  | (k, v) :: rest => (quoted k ++ ": " ++ quotedText v) :: quotedFields rest

end

/-- The text of a value in messages and templates: a string as it stands, all else as it looks
inside a list. -/
def display : Json → String
  | str s => s
  | v => quotedText v

end Json

end ScenarioRunner
