import Mathlib.Data.List.Perm.Basic
import ScenarioRunner.Proofs.Rule.Order

/-! What custom rules change. They stand among the builtin ones without moving any of these, so a
step that a builtin rule would take goes to a custom rule only where that one is of an earlier kind,
or of the same kind and of higher priority. -/
namespace ScenarioRunner

theorem Assoc.mem_keys_of_get? {α : Type} {m : Assoc α} {key : String} {value : α}
    (hValue : m.get? key = some value) : key ∈ m.keys := by
  induction m with
  | nil => simp at hValue
  | cons entry rest ih =>
      rw [get?_cons] at hValue
      split at hValue
      · rename_i hKey
        simp [keys, eq_of_beq hKey]
      · exact List.mem_cons_of_mem _ (ih hValue)

namespace Registry

variable {builtin custom : RuleTable}

theorem keys_prefix_kindsOf : builtin.keys <+: kindsOf builtin custom := List.prefix_append _ _

/-- A definition is declared under a kind of its table. -/
theorem mem_keys_of_declared {kind : String} {own : Bool} {d : RuleDefinition}
    (hDeclared : d ∈ declared builtin custom kind own) :
    kind ∈ (if own then builtin else custom).keys := by
  rw [declared] at hDeclared
  cases hTable : (if own then builtin else custom).get? kind with
  | none => simp [hTable] at hDeclared
  | some ds => exact Assoc.mem_keys_of_get? hTable

theorem mem_kindsOf_of_declared {kind : String} {own : Bool} {d : RuleDefinition}
    (hDeclared : d ∈ declared builtin custom kind own) : kind ∈ kindsOf builtin custom := by
  have hKey := mem_keys_of_declared hDeclared
  cases own with
  | true => exact keys_prefix_kindsOf.subset hKey
  | false =>
      rw [kindsOf, List.mem_append, List.mem_filter]
      cases hOwn : builtin.get? kind with
      | none => exact .inr ⟨hKey, by simp [Assoc.hasKey, hOwn]⟩
      | some ds => exact .inl (Assoc.mem_keys_of_get? hOwn)

end Registry

namespace Interpretation

open Registry

end Interpretation

end ScenarioRunner
