import ScenarioRunner.Assoc
import ScenarioRunner.Slot

/-! Placeholders `%NAME%` in step texts. A name whose value is missing or empty is unresolved, and
its placeholder stays as it is written. -/
namespace ScenarioRunner.Placeholder

/-- A word between two percent signs. -/
def mark : SlotMark := ⟨['%'], '%', Text.isWord⟩

def names (text : String) : List String := mark.names text

/-- A step text with its placeholders resolved as far as values are known. -/
structure Resolution where
  text : String
  /-- The values that were used, by name. -/
  captured : Assoc String
  unresolved : List String
deriving DecidableEq, Repr

/-- The value of a name, if it has one that is not empty. -/
def value? (values : Assoc String) (name : String) : Option String :=
  (values.get? name).filter (· != "")

def resolve (text : String) (values : Assoc String) : Resolution where
  text := mark.fill (value? values) text
  captured := (names text).filterMap fun name => (value? values name).map fun v => (name, v)
  unresolved := (names text).filter fun name => (value? values name).isNone

end ScenarioRunner.Placeholder
