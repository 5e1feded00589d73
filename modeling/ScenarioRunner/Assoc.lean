/-! Tables that remember the order in which their keys first arrived. Writing to a key that is
present replaces its value in place; a new key goes to the end. -/
namespace ScenarioRunner

abbrev Assoc (α : Type) := List (String × α)

namespace Assoc

variable {α β : Type}

def get? (m : Assoc α) (key : String) : Option α := List.lookup key m

def hasKey (m : Assoc α) (key : String) : Bool := (m.get? key).isSome

def keys (m : Assoc α) : List String := m.map (·.1)

/-- Writes one entry. -/
def put : Assoc α → String → α → Assoc α
  | [], key, value => [(key, value)]
  | (k, v) :: rest, key, value =>
    if k == key then (k, value) :: rest else (k, v) :: put rest key value

/-- Writes the entries of `extra` one after another. -/
def override (m extra : Assoc α) : Assoc α :=
  extra.foldl (fun table entry => put table entry.1 entry.2) m

/-- The table that a list of entries leaves behind: of equal keys the first fixes the place and the
last the value. -/
def ofPairs (pairs : List (String × α)) : Assoc α := override [] pairs

def mapValues (f : α → β) (m : Assoc α) : Assoc β := m.map fun entry => (entry.1, f entry.2)

/-- Removes the entry of a key. -/
def remove (m : Assoc α) (key : String) : Assoc α := m.filter (·.1 != key)

@[simp] theorem get?_nil (key : String) : get? ([] : Assoc α) key = none := rfl

theorem get?_cons (k key : String) (v : α) (m : Assoc α) :
    get? ((k, v) :: m) key = if key == k then some v else get? m key := by
  rw [get?, List.lookup_cons]
  cases key == k <;> rfl

/-- A write is seen at its own key and nowhere else. -/
theorem get?_put (m : Assoc α) (k key : String) (v : α) :
    (m.put k v).get? key = if key = k then some v else m.get? key := by
  induction m with
  | nil => simp [put, get?_cons]
  | cons entry rest ih =>
    obtain ⟨j, w⟩ := entry
    by_cases h : j = k <;> by_cases hk : key = k <;> by_cases hj : key = j <;>
      simp_all [put, get?_cons]

/-- A character that stands in no key stands in no name with a value. -/
theorem get?_eq_none_of_keys {m : Assoc α} {c : Char} {name : String}
    (hKeys : ∀ key ∈ m.keys, c ∉ key.toList) (hName : c ∈ name.toList) : m.get? name = none := by
  rw [get?, List.lookup_eq_none_iff]
  intro entry hEntry
  rw [bne_iff_ne]
  rintro rfl
  exact hKeys entry.1 (List.mem_map_of_mem hEntry) hName

/-- Writing what is already there changes nothing. -/
theorem get?_override_of_same {m extra : Assoc α} {key : String}
    (hSame : ∀ entry ∈ extra, entry.1 = key → m.get? key = some entry.2) :
    (m.override extra).get? key = m.get? key := by
  induction extra generalizing m with
  | nil => rfl
  | cons entry rest ih =>
    have hPut : (m.put entry.1 entry.2).get? key = m.get? key := by
      rw [get?_put]
      split
      · rename_i hKey
        exact (hSame entry List.mem_cons_self hKey.symm).symm
      · rfl
    have hRest := ih (m := m.put entry.1 entry.2) fun other hOther hKey => by
      rw [hPut]
      exact hSame other (List.mem_cons_of_mem entry hOther) hKey
    exact hRest.trans hPut

end Assoc

end ScenarioRunner
