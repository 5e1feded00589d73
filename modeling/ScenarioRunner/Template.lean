import ScenarioRunner.Slot
import ScenarioRunner.Text.Shell

/-! Script templates. A slot is a dollar sign and a name in braces; names may hold colons and
points. -/
namespace ScenarioRunner.Template

def mark : SlotMark := ⟨['$', '\x7b'], '\x7d', fun c => Text.isWord c || c == ':' || c == '.'⟩

/-- Fills the slots of a template; slots without a value stay as they are written. -/
def render (template : String) (value? : String → Option String) : String :=
  mark.fill value? template

/-- A value as one word of a script. -/
def word (value : String) : String := String.ofList (Text.shellQuote value.toList)

/-- Fills the slots of a template with values that are quoted as words of a script. -/
def renderQuoted (template : String) (value? : String → Option String) : String :=
  render template fun name => (value? name).map word

end ScenarioRunner.Template
