import ScenarioRunner.Proofs.Assoc
import ScenarioRunner.Proofs.Datum
import ScenarioRunner.Proofs.Rule.Builtin
import ScenarioRunner.Proofs.Rule.Extension
import ScenarioRunner.Rule.Document
import ScenarioRunner.Yaml.Document

/-! Files with custom rules. A file that is missing, cannot be read or holds no document gives no
rules, an entry that is no rule is passed over, and the builtin rules are always there, in their
order. Four things keep a registry from coming of a file: a path that cannot be looked at, a fault of
the library for YAML that is no complaint about the document, a kind whose value has no items, and a
repetition count that is too large. -/
namespace ScenarioRunner

namespace FileTree

variable {files : FileTree} {path : Path}

end FileTree

namespace RuleTable

variable {readYaml : YamlReader} {files : FileTree} {path : Option String}

variable {kinds : List (Atom × Datum)} {table result : RuleTable}

theorem filter_some {name : String} (hName : name ≠ "") :
    (some name).filter (· != "") = some name := by
  simp [hName]

def strayFile : FileTree where
  files := [(["a.json"], .text "\x7b\"patterns\":\x7b\"act\":5\x7d\x7d")]

example : (load noYaml strayFile (some "a.json")).toOption = none := by decide +kernel

end RuleTable

namespace Registry

variable {builtin custom : RuleTable} {registry : Registry}

/-- Every definition with an expression that can be read and a known engine has its rule. -/
theorem exists_rule_of_declared (hBuild : build builtin custom = .ok registry) {kind : String}
    {own : Bool} {d : RuleDefinition} (hDeclared : d ∈ declared builtin custom kind own)
    {pattern : Regex.Pattern} (hPattern : Rule.compileMatcher d.pattern = .ok pattern)
    {engine : Engine} (hEngine : Rule.engineOf d = some engine) :
    ∃ rule ∈ registry.rules, rule.kind = kind ∧ rule.builtin = own ∧ rule.IsOf d := by
  obtain ⟨place, hPlace⟩ := List.mem_iff_getElem?.mp (mem_kindsOf_of_declared hDeclared)
  obtain ⟨index, hIndex⟩ := List.mem_iff_getElem?.mp hDeclared
  let rule : Rule := {
    name := d.name, kind, pattern, groups := d.groups, priority := d.priority, builtin := own
    description := d.description, template := d.template, engine }
  have hOf : rule.IsOf d := ⟨hPattern, hEngine, rfl, rfl, rfl, rfl, rfl⟩
  have hHolds : Holds builtin custom ⟨place, index, rule⟩ := ⟨hPlace, d, hIndex, hOf⟩
  refine ⟨rule, ?_, rfl, rfl, hOf⟩
  rw [rules_eq_of_build hBuild]
  exact List.mem_map_of_mem (mem_entries_iff.mpr hHolds)

/-- What is declared of a kind stands in a table under this kind. -/
theorem mem_of_declared {kind : String} {own : Bool} {d : RuleDefinition}
    (hDeclared : d ∈ declared builtin custom kind own) :
    ∃ ds, (kind, ds) ∈ (if own then builtin else custom) ∧ d ∈ ds := by
  rw [declared] at hDeclared
  cases hKind : (if own then builtin else custom).get? kind with
  | none => simp [hKind] at hDeclared
  | some ds => exact ⟨ds, Assoc.mem_of_get? hKind, by simpa [hKind] using hDeclared⟩

/-- A declared definition stands in one of the two tables. -/
theorem exists_mem_of_declared {kind : String} {own : Bool} {d : RuleDefinition}
    (hDeclared : d ∈ declared builtin custom kind own) :
    ∃ entry ∈ if own then builtin else custom, d ∈ entry.2 := by
  obtain ⟨ds, hEntry, hMem⟩ := mem_of_declared hDeclared
  exact ⟨(kind, ds), hEntry, hMem⟩

/-- There is a registry of the builtin rules alone. -/
theorem build_table : ∃ bare, build BuiltinRules.table [] = .ok bare := by
  cases hBare : build BuiltinRules.table [] with
  | ok bare => exact ⟨bare, rfl⟩
  | error fault =>
      obtain ⟨kind, -, own, d, hDeclared, hCount⟩ := build_eq_error_iff.mp ⟨fault, hBare⟩
      cases own with
      | true =>
          obtain ⟨entry, hEntry, hMem⟩ := exists_mem_of_declared hDeclared
          obtain ⟨⟨pattern, hPattern⟩, -⟩ := BuiltinRules.valid_of_mem_table hEntry hMem
          cases hPattern.symm.trans hCount
      | false => cases hDeclared

variable {readYaml : YamlReader} {files : FileTree} {path : Option String}

end Registry

end ScenarioRunner
