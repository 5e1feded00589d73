import Mathlib.Data.List.Nodup
import ScenarioRunner.Assoc

/-! What tables hold after entries were written to them: an entry that is written counts for its key
until another one is, so that of several layers the last one with a key gives its value. -/
namespace ScenarioRunner.Assoc

variable {α : Type}

/-- A new key goes to the end. -/
theorem put_eq_append {m : Assoc α} {key : String} (hNew : key ∉ m.keys) (value : α) :
    m.put key value = m ++ [(key, value)] := by
  induction m with
  | nil => rfl
  | cons entry rest ih =>
      obtain ⟨hHead, hTail⟩ : key ≠ entry.1 ∧ key ∉ keys rest := by
        simpa [keys] using hNew
      have hOther : ¬ (entry.1 == key) = true := fun hSame => hHead (eq_of_beq hSame).symm
      rw [put, if_neg hOther, ih hTail, List.cons_append]

/-- A table without equal names is what its own entries leave behind. -/
theorem ofPairs_eq_self {m : Assoc α} (hNames : m.keys.Nodup) :
    ofPairs m = m := by
  have hOverride (extra : Assoc α) : ∀ m : Assoc α, (m ++ extra).keys.Nodup →
      m.override extra = m ++ extra := by
    induction extra with
    | nil => exact fun m _ => (List.append_nil m).symm
    | cons entry rest ih =>
        intro m hNodup
        have hNew : entry.1 ∉ m.keys := by
          rw [keys, List.map_append, List.map_cons, List.nodup_append] at hNodup
          exact fun hMem => hNodup.2.2 _ hMem _ List.mem_cons_self rfl
        rw [List.append_cons] at hNodup ⊢
        rw [← ih _ hNodup, ← put_eq_append hNew]
        rfl
  exact hOverride m [] hNames

/-- In a table without equal names each entry is found under its name. -/
theorem get?_eq_some_of_mem {m : Assoc α} {name : String} {value : α} (hNames : m.keys.Nodup)
    (hMem : (name, value) ∈ m) : m.get? name = some value := by
  induction m with
  | nil => cases hMem
  | cons entry rest ih =>
      obtain ⟨hNew, hRest⟩ := List.nodup_cons.mp hNames
      rw [get?, List.lookup_cons]
      rcases List.mem_cons.mp hMem with rfl | hMem
      · rw [beq_self_eq_true]
      · have hOther : (name == entry.1) = false := by
          rw [beq_eq_false_iff_ne]
          rintro rfl
          exact hNew (List.mem_map_of_mem (f := (·.1)) hMem)
        rw [hOther]
        exact ih hRest hMem

/-- The value that is found under a name stands beside it in the list. -/
theorem mem_of_get? {m : Assoc α} {name : String} {value : α} (hValue : m.get? name = some value) :
    (name, value) ∈ m := by
  obtain ⟨before, after, rfl, -⟩ := List.lookup_eq_some_iff.mp hValue
  exact List.mem_append_right before List.mem_cons_self

/-- Nothing is found exactly under the names that are not listed. -/
theorem get?_eq_none_iff {m : Assoc α} {key : String} : m.get? key = none ↔ key ∉ m.keys := by
  rw [get?, List.lookup_eq_none_iff, keys, List.mem_map]
  constructor
  · rintro hNone ⟨entry, hEntry, rfl⟩
    simpa using hNone entry hEntry
  · exact fun hKey entry hEntry => bne_iff_ne.mpr fun hSame => hKey ⟨entry, hEntry, hSame.symm⟩

/-- Turning a list round changes which value is found, not whether one is. -/
theorem get?_reverse_eq_none_iff {m : Assoc α} {key : String} :
    get? m.reverse key = none ↔ key ∉ m.keys := by
  rw [get?_eq_none_iff, keys, List.map_reverse, List.mem_reverse, keys]

/-- Of the entries that are written with one key the last one counts. -/
theorem get?_override (m extra : Assoc α) (key : String) :
    (m.override extra).get? key = (get? extra.reverse key).or (m.get? key) := by
  induction extra generalizing m with
  | nil => rfl
  | cons entry rest ih =>
      have hPut : (m.put entry.1 entry.2).get? key = (get? [entry] key).or (m.get? key) := by
        rw [get?_put, get?_cons, get?_nil]
        by_cases hKey : key = entry.1 <;> simp [hKey]
      calc (m.override (entry :: rest)).get? key
          = (get? rest.reverse key).or ((m.put entry.1 entry.2).get? key) := ih _
        _ = ((get? rest.reverse key).or (get? [entry] key)).or (m.get? key) := by
          rw [hPut, Option.or_assoc]
        _ = (get? (entry :: rest).reverse key).or (m.get? key) := by
          have hAppend : get? (rest.reverse ++ [entry]) key =
              (get? rest.reverse key).or (get? [entry] key) := List.lookup_append
          rw [List.reverse_cons, hAppend]

/-- Of several values for one name the last one given counts. -/
theorem get?_ofPairs (pairs : List (String × α)) (key : String) :
    (ofPairs pairs).get? key = get? pairs.reverse key := by
  rw [ofPairs, get?_override, get?_nil, Option.or_none]

/-- A value that is put adds its own name and keeps all others. -/
theorem mem_keys_put {m : Assoc α} {k key : String} {value : α} :
    k ∈ (m.put key value).keys ↔ k = key ∨ k ∈ m.keys := by
  induction m with
  | nil => simp [put, keys]
  | cons entry rest ih =>
      rw [put]
      split
      · rename_i hSame
        simp [keys, eq_of_beq hSame]
      · simp only [keys, List.map_cons, List.mem_cons] at ih ⊢
        rw [ih]
        exact or_left_comm

/-- Names stay distinct, since a value that is put takes the place of one that was there. -/
theorem nodup_keys_put {m : Assoc α} (hNames : m.keys.Nodup) (key : String) (value : α) :
    (m.put key value).keys.Nodup := by
  induction m with
  | nil => simp [put, keys]
  | cons entry rest ih =>
      obtain ⟨hNew, hRest⟩ := List.nodup_cons.mp hNames
      rw [put]
      split
      · exact hNames
      · rename_i hOther
        refine List.nodup_cons.mpr ⟨fun hMem => ?_, ih hRest⟩
        rcases mem_keys_put.mp hMem with hSame | hMem
        · exact hOther (beq_iff_eq.mpr hSame)
        · exact hNew hMem

theorem nodup_keys_ofPairs (pairs : List (String × α)) : (ofPairs pairs).keys.Nodup := by
  have hOverride (m : Assoc α) (hNames : m.keys.Nodup) : (m.override pairs).keys.Nodup := by
    induction pairs generalizing m with
    | nil => exact hNames
    | cons entry rest ih => exact ih _ (nodup_keys_put hNames entry.1 entry.2)
  exact hOverride [] List.nodup_nil

/-- A table has no entries but those that were written to it. -/
theorem mem_of_mem_ofPairs {pairs : List (String × α)} {entry : String × α}
    (hMem : entry ∈ ofPairs pairs) : entry ∈ pairs := by
  have hValue : (ofPairs pairs).get? entry.1 = some entry.2 :=
    get?_eq_some_of_mem (nodup_keys_ofPairs pairs) hMem
  rw [get?_ofPairs] at hValue
  exact List.mem_reverse.mp (mem_of_get? hValue)

theorem mem_keys_ofPairs {pairs : List (String × α)} {key : String} :
    key ∈ (ofPairs pairs).keys ↔ key ∈ keys pairs := by
  rw [← not_iff_not, ← get?_eq_none_iff, get?_ofPairs, get?_reverse_eq_none_iff]

/-- An entry of a table is the one that was written last, or was there before. -/
theorem mem_of_mem_put {m : Assoc α} (hNames : m.keys.Nodup) {key : String} {value : α}
    {entry : String × α} (hMem : entry ∈ m.put key value) :
    entry = (key, value) ∨ entry.1 ≠ key ∧ entry ∈ m := by
  have hValue : (m.put key value).get? entry.1 = some entry.2 :=
    get?_eq_some_of_mem (nodup_keys_put hNames key value) hMem
  rw [get?_put] at hValue
  split_ifs at hValue with hKey
  · exact .inl (Prod.ext hKey (Option.some.inj hValue).symm)
  · exact .inr ⟨hKey, mem_of_get? hValue⟩

/-- In a table without equal names the order of the entries does not matter. -/
theorem get?_reverse {m : Assoc α} (hNames : m.keys.Nodup) (key : String) :
    get? m.reverse key = m.get? key := by
  have hReverse : (keys m.reverse).Nodup := by
    rw [keys, List.map_reverse]
    exact List.nodup_reverse.mpr hNames
  cases hValue : m.get? key with
  | none => exact get?_reverse_eq_none_iff.mpr (get?_eq_none_iff.mp hValue)
  | some value =>
      have hMem : (key, value) ∈ m.reverse := List.mem_reverse.mpr (mem_of_get? hValue)
      exact get?_eq_some_of_mem hReverse hMem

/-- What is written over a table stands before what the table has. -/
theorem get?_override_of_nodup {extra : Assoc α} (hNames : extra.keys.Nodup) (m : Assoc α)
    (key : String) : (m.override extra).get? key = (extra.get? key).or (m.get? key) := by
  rw [get?_override, get?_reverse hNames]

end ScenarioRunner.Assoc
