import ScenarioRunner.Fault
import ScenarioRunner.Regex.Matcher
import ScenarioRunner.Regex.Reader
import ScenarioRunner.Rule.Definition

/-! The registry: builtin and custom rules in the order in which they are tried. Kinds come in the
order of the builtin table, then those that only the custom table has. Within a kind the higher
priority comes first; of equal ones builtin rules precede custom ones, and each of these keep the
order in which they were declared. -/
namespace ScenarioRunner

/-- A rule that is ready for use. -/
structure Rule where
  name : String
  kind : String
  pattern : Regex.Pattern
  groups : List String := []
  priority : Int := 0
  builtin : Bool := true
  description : String := ""
  template : Option String := none
  engine : Engine := .rules
deriving Repr

namespace Rule

/-- The source of a rule, anchored at both ends where its author did not. -/
def anchored (source : String) : String :=
  let source := if startsWith source "^" then source else "^" ++ source
  if endsWith source "$" then source else source ++ "$"

def compileMatcher (source : String) : Except Regex.Fault Regex.Pattern :=
  Regex.Pattern.read (anchored source)

/-- The engine of a definition: the one it names, which has to be a known one, or rules. -/
def engineOf (d : RuleDefinition) : Option Engine :=
  match d.engine with
  | none => some .rules
  | some name =>
    if name == "" then some .rules
    else if (Engine.ofName name).isKnown then some (Engine.ofName name)
    else none

/-- The rule of a definition. A definition whose pattern cannot be read or whose engine is unknown
gives none; a repetition count beyond all bounds is a fault. -/
def ofDefinition? (kind : String) (builtin : Bool) (d : RuleDefinition) :
    Except Fault (Option Rule) :=
  match compileMatcher d.pattern with
  | .error .malformed => .ok none
  | .error .countTooLarge => .error (.overflow "the repetition number is too large")
  | .ok pattern =>
    .ok <| (engineOf d).map fun engine =>
      { name := d.name, kind, pattern, groups := d.groups, priority := d.priority, builtin
        description := d.description, template := d.template, engine }

/-- The rules of the definitions of one kind. -/
def ofDefinitions (kind : String) (builtin : Bool) (ds : List RuleDefinition) :
    Except Fault (List Rule) := do
  return (← ds.mapM (ofDefinition? kind builtin)).filterMap id

def origin (r : Rule) : String := if r.builtin then "builtin" else "custom"

def source (r : Rule) : String := r.pattern.source

def toJson (r : Rule) : Json := .obj [
  ("name", .str r.name),
  ("kind", .str r.kind),
  ("source", .str r.source),
  ("groups", .strings r.groups),
  ("priority", .int r.priority),
  ("origin", .str r.origin),
  ("is_builtin", .bool r.builtin),
  ("description", .str r.description),
  ("template", .ofOption r.template),
  ("engine", .str r.engine.name)]

end Rule

/-- Puts an element before the first one whose key is not higher. -/
def insertDown {α : Type} (key : α → Int) (a : α) : List α → List α
  | [] => [a]
  | b :: rest => if key b ≤ key a then a :: b :: rest else b :: insertDown key a rest

/-- Sorts by descending keys; elements of equal keys keep their order. -/
def sortDown {α : Type} (key : α → Int) (l : List α) : List α := l.foldr (insertDown key) []

structure Registry where
  buckets : List (String × List Rule)

namespace Registry

/-- The kinds of two tables in the order in which they are tried. -/
def kindsOf (builtin custom : RuleTable) : List String :=
  builtin.keys ++ custom.keys.filter fun kind => !builtin.hasKey kind

def byPriority (rules : List Rule) : List Rule := sortDown (·.priority) rules

def bucket (builtin custom : RuleTable) (kind : String) : Except Fault (String × List Rule) := do
  let own ← Rule.ofDefinitions kind true ((builtin.get? kind).getD [])
  let added ← Rule.ofDefinitions kind false ((custom.get? kind).getD [])
  return (kind, byPriority (own ++ added))

def build (builtin custom : RuleTable) : Except Fault Registry := do
  return ⟨← (kindsOf builtin custom).mapM (bucket builtin custom)⟩

def kinds (r : Registry) : List String := r.buckets.map (·.1)

def rulesOf (r : Registry) (kind : String) : List Rule := (r.buckets.lookup kind).getD []

/-- All rules in the order in which they are tried. -/
def rules (r : Registry) : List Rule := r.buckets.flatMap (·.2)

def find? (r : Registry) (name : String) : Option Rule := r.rules.find? (·.name == name)

structure Stats where
  total : Nat
  perKind : Assoc Nat
  builtin : Nat
  custom : Nat
deriving DecidableEq, Repr

def stats (r : Registry) : Stats where
  total := r.rules.length
  perKind := r.buckets.map fun (kind, rules) => (kind, rules.length)
  builtin := r.rules.countP (·.builtin)
  custom := r.rules.countP fun rule => !rule.builtin

end Registry

end ScenarioRunner
