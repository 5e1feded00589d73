import ScenarioRunner.Fault
import ScenarioRunner.Proofs.Except

/-! Shapes of JSON values, as far as they decide what can be done with a value. -/
namespace ScenarioRunner.Json

/-- A value that counts as true in a condition but has no items: true, or a number but zero. -/
inductive IsStray : Json → Prop where
  | true : IsStray (.bool true)
  | int {n : Int} (h : n ≠ 0) : IsStray (.int n)
  | float {x : Binary64} (h : x.isZero = false) : IsStray (.float x)

/-- Among the values that count as true, just the stray ones have no items. -/
theorem isStray_iff {v : Json} :
    v.IsStray ↔ v.truthy = true ∧ v.items = .error (Fault.notIterable v) := by
  constructor
  · intro hStray
    cases hStray with
    | true => exact ⟨rfl, rfl⟩
    | int h => exact ⟨by simpa [truthy] using h, rfl⟩
    | float h => exact ⟨by simpa [truthy] using h, rfl⟩
  · rintro ⟨hTruthy, hItems⟩
    cases v with
    | null => cases hTruthy
    | bool b =>
        obtain rfl : b = Bool.true := hTruthy
        exact .true
    | int n => exact .int (by simpa [truthy] using hTruthy)
    | float x => exact .float (by simpa [truthy] using hTruthy)
    | str s => cases hItems
    | arr items => cases hItems
    | obj fields => cases hItems

/-- Only a value without items has none. -/
theorem items_eq_error {v : Json} {fault : Fault} (hItems : v.items = .error fault) :
    fault = .notIterable v := by
  cases v <;> cases hItems <;> rfl

end ScenarioRunner.Json
