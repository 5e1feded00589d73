import ScenarioRunner.Fault

/-! What a document read from a file holds. A document in YAML may hold more than JSON has: bytes,
days and moments, sets, and keys that are no texts. A value that holds itself is given as far as it is
looked into. -/
namespace ScenarioRunner

/-- A value that has no parts. These are the values that may be keys. -/
inductive Atom
  | null
  | bool (b : Bool)
  | int (n : Int)
  | float (x : Binary64)
  | text (s : String)
  | bytes (b : List UInt8)
  /-- A value of any other class, with its text. It has no items. -/
  | other (className shown : String)
deriving DecidableEq

inductive Datum
  | atom (a : Atom)
  /-- The items of a list or of a set, in the order in which they come. -/
  | list (items : List Datum)
  | mapping (entries : List (Atom × Datum))

namespace Atom

/-- Counts as true in a condition. -/
def truthy : Atom → Bool
  | null => false
  | bool b => b
  | int n => n != 0
  | float x => !x.isZero
  | text s => s != ""
  | bytes b => !b.isEmpty
  | other .. => true

def className : Atom → String
  | null => "NoneType"
  | bool _ => "bool"
  | int _ => "int"
  | float _ => "float"
  | text _ => "str"
  | bytes _ => "bytes"
  | other className _ => className

/-- The value has no items. -/
def notIterable (a : Atom) : Fault := .wrongType s!"'{a.className}' object is not iterable"

/-- The items of a value: the characters of a text and the numbers of bytes. -/
def items : Atom → Except Fault (List Atom)
  | text s => .ok (s.toList.map fun c => text (String.singleton c))
  | bytes b => .ok (b.map fun n => int n.toNat)
  | a => .error a.notIterable

/-- Bytes as they are shown in messages. -/
def bytesText (b : List UInt8) : String :=
  let chars := b.map fun n => Char.ofNat n.toNat
  let quote := Text.quoteFor chars
  let shown (c : Char) :=
    if c.toNat < 0x7F then Text.quotedChar quote c else ['\\', 'x'] ++ Text.hex 2 c.toNat
  String.ofList ('b' :: quote :: chars.flatMap shown ++ [quote])

/-- The text of a key; integers with too many digits have none. -/
def keyText? : Atom → Option String
  | null => some "None"
  | bool b => some (if b then "True" else "False")
  | int n =>
    if Numeral.maxDigits < (toString n.natAbs).length then none else some (toString n)
  | float x => some x.text
  | text s => some s
  | bytes b => some (bytesText b)
  | other _ shown => some shown

/-- The value as the field of a rule takes it. Bytes count as the text that they hold; what no field
takes stands as an empty object. -/
def toJson : Atom → Json
  | null => .null
  | bool b => .bool b
  | int n => .int n
  | float x => .float x
  | text s => .str s
  | bytes b =>
    match Content.decode (.bytes b) with
    | some s => .str s
    | none => .obj []
  | other .. => .obj []

end Atom

namespace Datum

/-- Counts as true in a condition. -/
def truthy : Datum → Bool
  | atom a => a.truthy
  | list items => !items.isEmpty
  | mapping entries => !entries.isEmpty

/-- The items of a value; those of a mapping are its keys. -/
def items : Datum → Except Fault (List Datum)
  | atom a => a.items.map (·.map atom)
  | list items => .ok items
  | mapping entries => .ok (entries.map fun entry => atom entry.1)

/-- The value of a key that is a text. -/
def field? (name : String) (entries : List (Atom × Datum)) : Option Datum :=
  entries.lookup (.text name)

mutual

/-- The value as the fields of a rule take it. Keys that are no texts do not count. -/
def toJson : Datum → Json
  | atom a => a.toJson
  | list items => .arr (itemsToJson items)
  | mapping entries => .obj (fieldsToJson entries)

def itemsToJson : List Datum → List Json
  | [] => []
  | v :: rest => v.toJson :: itemsToJson rest

def fieldsToJson : List (Atom × Datum) → List (String × Json)
  | [] => []
  | (.text key, v) :: rest => (key, v.toJson) :: fieldsToJson rest
  | _ :: rest => fieldsToJson rest

end

mutual

/-- A value that JSON has. -/
def ofJson : Json → Datum
  | .null => atom .null
  | .bool b => atom (.bool b)
  | .int n => atom (.int n)
  | .float x => atom (.float x)
  | .str s => atom (.text s)
  | .arr items => list (ofItems items)
  | .obj fields => mapping (ofFields fields)

def ofItems : List Json → List Datum
  | [] => []
  | v :: rest => ofJson v :: ofItems rest

def ofFields : List (String × Json) → List (Atom × Datum)
  | [] => []
  | (key, v) :: rest => (.text key, ofJson v) :: ofFields rest

end

end Datum

/-- What comes of reading YAML files, by what they hold. -/
abbrev YamlReader := Content → Except Fault Datum

/-- A reader for which no file holds a document. -/
def noYaml : YamlReader := fun _ => .error (.badYaml "there is no reader for YAML")

end ScenarioRunner
