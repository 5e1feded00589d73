import ScenarioRunner.Text.Basic
import ScenarioRunner.Text.Digit

/-! Integers written in text: blanks around, an optional sign, and decimal digits of any script
with single underscores between them. A numeral longer than 4300 digits is refused. -/
namespace ScenarioRunner.Numeral

/-- Why a text is not read as an integer. -/
inductive Refusal
  | malformed
  | tooLong (digits : Nat)
deriving DecidableEq, Repr

def maxDigits : Nat := 4300

/-- Reads the digits after the first one: each is a digit, or an underscore and a digit. -/
def digitsAfter : List Char → Option (List Nat)
  | [] => some []
  | '_' :: c :: rest => do return (← Text.digitValue? c) :: (← digitsAfter rest)
  | c :: rest => do return (← Text.digitValue? c) :: (← digitsAfter rest)

def digits : List Char → Option (List Nat)
  | [] => none
  | c :: rest => do return (← Text.digitValue? c) :: (← digitsAfter rest)

/-- The number that a list of digits stands for, the first counting most. -/
def ofDigits (ds : List Nat) : Nat := ds.foldl (fun n d => 10 * n + d) 0

def readNatural (s : List Char) : Except Refusal Nat :=
  match digits s with
  | none => .error .malformed
  | some ds => if maxDigits < ds.length then .error (.tooLong ds.length) else .ok (ofDigits ds)

def readInteger (s : List Char) : Except Refusal Int :=
  match Text.trim s with
  | '-' :: rest => (readNatural rest).map fun n => -(n : Int)
  | '+' :: rest => (readNatural rest).map fun n => (n : Int)
  | rest => (readNatural rest).map fun n => (n : Int)

end ScenarioRunner.Numeral
