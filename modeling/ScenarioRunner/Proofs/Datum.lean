import ScenarioRunner.Datum
import ScenarioRunner.Proofs.Except

/-! Values of documents: which of them can be listed, and what is left of a value that JSON has. -/
namespace ScenarioRunner

namespace Atom

/-- A value that counts as true in a condition but has no items: true, a number but zero, or a value
of another class. -/
inductive IsStray : Atom → Prop where
  | true : IsStray (.bool true)
  | int {n : Int} (h : n ≠ 0) : IsStray (.int n)
  | float {x : Binary64} (h : x.isZero = false) : IsStray (.float x)
  | other (className shown : String) : IsStray (.other className shown)

/-- Only a value without items has none. -/
theorem items_eq_error {a : Atom} {fault : Fault} (hItems : a.items = .error fault) :
    fault = a.notIterable := by
  cases a <;> cases hItems <;> rfl

/-- Among the values that count as true, just the stray ones have no items. -/
theorem isStray_iff {a : Atom} :
    a.IsStray ↔ a.truthy = true ∧ a.items = .error a.notIterable := by
  constructor
  · intro hStray
    cases hStray with
    | true => exact ⟨rfl, rfl⟩
    | int h => exact ⟨by simpa [truthy] using h, rfl⟩
    | float h => exact ⟨by simpa [truthy] using h, rfl⟩
    | other className shown => exact ⟨rfl, rfl⟩
  · rintro ⟨hTruthy, hItems⟩
    cases a with
    | null => cases hTruthy
    | bool b =>
        obtain rfl : b = Bool.true := hTruthy
        exact .true
    | int n => exact .int (by simpa [truthy] using hTruthy)
    | float x => exact .float (by simpa [truthy] using hTruthy)
    | text s => cases hItems
    | bytes b => cases hItems
    | other className shown => exact .other className shown

end Atom

namespace Datum

/-- In the place of a list it stops the reading. -/
def IsStray (v : Datum) : Prop := ∃ a : Atom, v = .atom a ∧ a.IsStray

mutual

/-- The fields of rules take a value that JSON has as it is. -/
theorem toJson_ofJson : ∀ v : Json, (ofJson v).toJson = v
  | .null => rfl
  | .bool _ => rfl
  | .int _ => rfl
  | .float _ => rfl
  | .str _ => rfl
  | .arr items => by rw [ofJson, toJson, itemsToJson_ofItems items]
  | .obj fields => by rw [ofJson, toJson, fieldsToJson_ofFields fields]

theorem itemsToJson_ofItems : ∀ items : List Json, itemsToJson (ofItems items) = items
  | [] => rfl
  | v :: rest => by rw [ofItems, itemsToJson, toJson_ofJson v, itemsToJson_ofItems rest]

theorem fieldsToJson_ofFields : ∀ fields : List (String × Json),
    fieldsToJson (ofFields fields) = fields
  | [] => rfl
  | (key, v) :: rest => by rw [ofFields, fieldsToJson, toJson_ofJson v, fieldsToJson_ofFields rest]

end

end Datum

end ScenarioRunner
