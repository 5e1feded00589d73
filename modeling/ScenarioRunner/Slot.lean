import ScenarioRunner.Text.Word

/-! Texts with named slots. A slot is a name between two signs; the text is read once from left to
right, and what is put into a slot is not read again. -/
namespace ScenarioRunner

/-- How a slot is written. -/
structure SlotMark where
  opening : List Char
  closing : Char
  inName : Char → Bool

/-- One piece of a text: a character that stands for itself, or a slot. -/
inductive Piece
  | plain (c : Char)
  | slot (name : String)
deriving DecidableEq, Repr

namespace SlotMark

variable (m : SlotMark)

/-- The name of the slot that starts the text. A name has at least one character. -/
def name? (s : List Char) : Option (List Char) :=
  if m.opening.isPrefixOf s then
    let inside := s.drop m.opening.length
    let name := inside.takeWhile m.inName
    if !name.isEmpty && (inside.dropWhile m.inName).head? == some m.closing then some name else none
  else none

/-- The number of characters of a slot after its first one. -/
def tail (name : List Char) : Nat := m.opening.length + name.length

/-- The pieces of a text whose first `covered` characters belong to the slot read last. -/
def piecesFrom : Nat → List Char → List Piece
  | _, [] => []
  | covered + 1, _ :: rest => piecesFrom covered rest
  | 0, c :: rest =>
    match m.name? (c :: rest) with
    | some name => .slot (String.ofList name) :: piecesFrom (m.tail name) rest
    | none => .plain c :: piecesFrom 0 rest

def pieces (s : String) : List Piece := m.piecesFrom 0 s.toList

/-- The text of a piece as it was read. -/
def source : Piece → List Char
  | .plain c => [c]
  | .slot name => m.opening ++ name.toList ++ [m.closing]

/-- The names of the slots of a text, each once, in the order in which they appear. -/
def names (s : String) : List String :=
  ((m.pieces s).filterMap fun
    | .plain _ => none
    | .slot name => some name).eraseDups

/-- Puts values into the slots of a text. A slot without a value stays as it is written. -/
def fill (value? : String → Option String) (s : String) : String :=
  String.ofList <| (m.pieces s).flatMap fun piece =>
    match piece with
    | .plain c => [c]
    | .slot name =>
      match value? name with
      | some value => value.toList
      | none => m.source piece

end SlotMark

end ScenarioRunner
