import ScenarioRunner.Placeholder
import ScenarioRunner.Proofs.Slot
import ScenarioRunner.Proofs.Text.Blank

/-! The placeholders of a text. They are those of the trimmed text, and resolving them asks for the
values of their names and for nothing else. -/
namespace ScenarioRunner.Placeholder

open Text

theorem closesNames_mark : mark.ClosesNames := by
  show isWord '%' = false
  decide

theorem apart_of_isBlank {c : Char} (h : isBlank c = true) : mark.Apart c := by
  have hSign : c ≠ '%' := by
    rintro rfl
    exact absurd h (by decide)
  exact ⟨by simpa [mark] using hSign, hSign, isWord_eq_false_of_isBlank h⟩

/-- Trimming a text keeps its placeholders. -/
theorem names_trimmed (text : String) : names (trimmed text) = names text := by
  obtain ⟨before, after, hEnds, hBefore, hAfter⟩ := exists_trim text.toList
  refine (SlotMark.names_of_apart_ends closesNames_mark ?_
    (fun c hc => apart_of_isBlank (hBefore c hc)) fun c hc => apart_of_isBlank (hAfter c hc)).symm
  rw [trimmed, String.toList_ofList, ← hEnds]

/-- Resolving asks for the values of the names, and for those that are not empty. -/
theorem resolve_congr_value? {first second : Assoc String} {text : String}
    (hValue : ∀ name ∈ names text, value? first name = value? second name) :
    resolve text first = resolve text second := by
  have hText : mark.fill (value? first) text = mark.fill (value? second) text :=
    SlotMark.fill_congr hValue
  have hCaptured : (names text).filterMap (fun name => (value? first name).map fun v => (name, v)) =
      (names text).filterMap fun name => (value? second name).map fun v => (name, v) :=
    List.filterMap_congr fun name hName => by rw [hValue name hName]
  have hUnresolved : (names text).filter (fun name => (value? first name).isNone) =
      (names text).filter fun name => (value? second name).isNone :=
    List.filter_congr fun name hName => by rw [hValue name hName]
  rw [resolve, resolve, hText, hCaptured, hUnresolved]

/-- The placeholders of a text are resolved alike from tables with the same values for their
names. -/
theorem resolve_congr {first second : Assoc String} {text : String}
    (h : ∀ name ∈ names text, first.get? name = second.get? name) :
    resolve text first = resolve text second := by
  apply resolve_congr_value?
  intro name hName
  rw [value?, value?, h name hName]

/-- A text without placeholders stays as it is. -/
theorem resolve_of_names_eq_nil {text : String} (hNames : names text = []) (values : Assoc String) :
    resolve text values = ⟨text, [], []⟩ := by
  have hNone : mark.fill (fun _ => none) text = text := by
    have hWhole := (SlotMark.scans_piecesFrom closesNames_mark text.toList).flatMap_source
    calc mark.fill (fun _ => none) text
      _ = String.ofList ((mark.pieces text).flatMap mark.source) := by
          rw [SlotMark.fill]
          congr 2
          funext piece
          cases piece <;> rfl
      _ = text := by rw [SlotMark.pieces, hWhole, String.ofList_toList]
  have hMark : mark.names text = [] := hNames
  have hFill : mark.fill (value? values) text = mark.fill (fun _ => none) text :=
    SlotMark.fill_congr (by simp [hMark])
  simp [resolve, hFill, hNone, hNames]

/-! What comes of a text. -/

/-- A name has a value just when one is listed that is not empty. -/
theorem value?_eq_some_iff {values : Assoc String} {name value : String} :
    value? values name = some value ↔ values.get? name = some value ∧ value ≠ "" := by
  simp [value?, Option.filter_eq_some_iff]

/-- The values that were used are those of the names that appear. -/
theorem get?_captured (text : String) (values : Assoc String) (name : String) :
    (resolve text values).captured.get? name =
      if name ∈ names text then value? values name else none := by
  have hLookup (l : List String) :
      Assoc.get? (l.filterMap fun n => (value? values n).map fun v => (n, v)) name =
        if name ∈ l then value? values name else none := by
    induction l with
    | nil => rfl
    | cons n l ih =>
        by_cases hName : name = n
        · subst hName
          cases hValue : value? values name <;> simp [hValue, Assoc.get?_cons, ih]
        · cases hValue : value? values n <;> simp [hValue, Assoc.get?_cons, ih, hName]
  exact hLookup (names text)

/-- A name is captured if it stands in the text and has a value, and only then. -/
theorem mem_keys_captured_iff {text : String} {values : Assoc String} {name : String} :
    name ∈ (resolve text values).captured.keys ↔
      name ∈ names text ∧ (value? values name).isSome = true := by
  simp only [resolve, Assoc.keys, List.mem_map, List.mem_filterMap, Option.map_eq_some_iff,
    Option.isSome_iff_exists]
  constructor
  · rintro ⟨entry, ⟨other, hName, value, hValue, rfl⟩, rfl⟩
    exact ⟨hName, value, hValue⟩
  · rintro ⟨hName, value, hValue⟩
    exact ⟨(name, value), ⟨name, hName, value, hValue, rfl⟩, rfl⟩

/-- The names that are captured are in the order in which they stand in the text. -/
theorem keys_captured (text : String) (values : Assoc String) :
    (resolve text values).captured.keys =
      (names text).filter fun name => (value? values name).isSome := by
  have hKeys (l : List String) :
      Assoc.keys (l.filterMap fun name => (value? values name).map fun v => (name, v)) =
        l.filter fun name => (value? values name).isSome := by
    induction l with
    | nil => rfl
    | cons name l ih =>
        rw [Assoc.keys] at ih ⊢
        cases hValue : value? values name <;> simp [hValue, ih]
  exact hKeys (names text)

/-- Names stand in the order in which they first appear. -/
theorem pairwise_names (text : String) : (names text).Pairwise fun a b =>
    (mark.pieces text).idxOf (.slot a) < (mark.pieces text).idxOf (.slot b) := by
  have hAll := SlotMark.pairwise_eraseDups_slotNames (mark.pieces text) fun _ => true
  rwa [List.filter_true, ← SlotMark.names_eq] at hAll

/-- No name is listed twice. -/
theorem nodup_names (text : String) : (names text).Nodup := by
  apply (pairwise_names text).imp
  rintro a b hLt rfl
  exact absurd hLt (lt_irrefl _)

/-- A name is unresolved if it stands in the text and has no value, and only then. -/
theorem mem_unresolved_iff {text : String} {values : Assoc String} {name : String} :
    name ∈ (resolve text values).unresolved ↔
      name ∈ names text ∧ (value? values name).isSome = false := by
  simp [resolve, List.mem_filter]

/-- A name is left just when it appears and its value is missing or empty. -/
theorem mem_unresolved_iff_slot {text : String} {values : Assoc String} {name : String} :
    name ∈ (resolve text values).unresolved ↔ .slot name ∈ mark.pieces text ∧
      (values.get? name = none ∨ values.get? name = some "") := by
  rw [mem_unresolved_iff, names, SlotMark.mem_names_iff, value?]
  cases values.get? name <;> simp [Option.filter]

/-- Between two marks there is always a name. -/
theorem ne_empty_of_mem_names {text name : String} (h : name ∈ names text) : name ≠ "" := by
  have hScans := SlotMark.scans_piecesFrom closesNames_mark text.toList
  have hName := hScans.isName (SlotMark.mem_names_iff.mp h)
  rintro rfl
  exact hName.nonempty rfl

/-- The values that were used are those of the table. -/
theorem get?_override_captured (text : String) (values : Assoc String) (name : String) :
    (values.override (resolve text values).captured).get? name = values.get? name := by
  apply Assoc.get?_override_of_same
  intro entry hEntry hName
  simp only [resolve, List.mem_filterMap, Option.map_eq_some_iff] at hEntry
  obtain ⟨other, -, value, hValue, rfl⟩ := hEntry
  exact hName ▸ (value?_eq_some_iff.mp hValue).1

/-- Resolving a text again with the values that were used gives the same. -/
theorem resolve_captured (text : String) (values : Assoc String) :
    resolve text (resolve text values).captured = resolve text values := by
  apply resolve_congr_value?
  intro name hName
  rw [value?, get?_captured, if_pos hName, value?, Option.filter_filter]
  simp

/-- What a text of these pieces becomes with these values. -/
structure Resolves (values : Assoc String) (pieces : List Piece) (r : Resolution) : Prop where
  /-- A placeholder gives way to the value of its name, unless that is missing or empty; all else is
  copied. -/
  text : r.text.toList = pieces.flatMap fun
    | .plain c => [c]
    | .slot name =>
      match values.get? name with
      | some value => if value = "" then mark.written name.toList else value.toList
      | none => mark.written name.toList
  captured : ∀ name value, r.captured.get? name = some value ↔
    .slot name ∈ pieces ∧ values.get? name = some value ∧ value ≠ ""
  /-- The names are those that were captured and those that stay unresolved. -/
  covered : ∀ name, name ∈ r.captured.keys ∨ name ∈ r.unresolved ↔ .slot name ∈ pieces
  disjoint : r.captured.keys.Disjoint r.unresolved
  nodup : r.unresolved.Nodup
  /-- Unresolved names stand in the order in which they first appear. -/
  ordered : r.unresolved.Pairwise fun a b => pieces.idxOf (.slot a) < pieces.idxOf (.slot b)

/-- Resolving goes piece by piece: text stays, and each name gives way to its value if it has one.
-/
theorem resolves_resolve (text : String) (values : Assoc String) :
    Resolves values (mark.pieces text) (resolve text values) := by
  have hNames (name : String) : name ∈ names text ↔ .slot name ∈ mark.pieces text :=
    SlotMark.mem_names_iff
  have hOrdered : (resolve text values).unresolved.Pairwise fun a b =>
      (mark.pieces text).idxOf (.slot a) < (mark.pieces text).idxOf (.slot b) :=
    (pairwise_names text).filter _
  constructor
  · show (mark.fill (value? values) text).toList = _
    rw [SlotMark.toList_fill, SlotMark.filled, SlotMark.pieces]
    congr 1
    funext piece
    cases piece with
    | plain c => rfl
    | slot name =>
        cases hGet : values.get? name with
        | none => simp [SlotMark.expand, SlotMark.source, SlotMark.written, value?, hGet]
        | some value =>
            by_cases hEmpty : value = "" <;>
              simp [SlotMark.expand, SlotMark.source, SlotMark.written, value?, hGet, hEmpty,
                Option.filter]
  · intro name value
    rw [get?_captured, ← hNames]
    by_cases hName : name ∈ names text <;> simp [hName, value?_eq_some_iff]
  · intro name
    rw [mem_keys_captured_iff, mem_unresolved_iff, ← hNames]
    cases (value? values name).isSome <;> simp
  · intro name hCaptured hUnresolved
    rw [mem_keys_captured_iff] at hCaptured
    rw [mem_unresolved_iff] at hUnresolved
    simp [hCaptured.2] at hUnresolved
  · exact (nodup_names text).filter _
  · exact hOrdered

/-- A name is captured or left, and not both, and it is there once. -/
theorem nodup_captured_append_unresolved (text : String) (values : Assoc String) :
    ((resolve text values).captured.keys ++ (resolve text values).unresolved).Nodup := by
  have hResolves : Resolves values (mark.pieces text) (resolve text values) :=
    resolves_resolve text values
  have hCaptured : (resolve text values).captured.keys.Nodup := by
    rw [keys_captured]
    exact (nodup_names text).filter _
  exact List.nodup_append.mpr ⟨hCaptured, hResolves.nodup, fun name hName other hOther hSame =>
    hResolves.disjoint hName (hSame ▸ hOther)⟩

/-- A text has one reading from left to right. What is found in it is resolved once: values that are
put in are not read again, and the values that were used resolve the text in the same way. -/
theorem resolve_scanned (text : String) (values : Assoc String) :
    ∃ pieces, (∀ others, mark.Scans text.toList others ↔ others = pieces) ∧
      pieces.flatMap mark.source = text.toList ∧
      Resolves values pieces (resolve text values) ∧
      resolve text (resolve text values).captured = resolve text values := by
  have hScans : mark.Scans text.toList (mark.pieces text) :=
    SlotMark.scans_piecesFrom closesNames_mark text.toList
  exact ⟨mark.pieces text, fun others => SlotMark.scans_iff closesNames_mark, hScans.flatMap_source,
    resolves_resolve text values, resolve_captured text values⟩

/-- Signs that stand together, a name that comes twice, a value with a placeholder in it and an
empty value. -/
example : resolve "%%A%% %A%B% %C%%A%%E%" [("A", "%C%"), ("B", "b"), ("E", "")] =
    ⟨"%%C%% %C%B% %C%%C%%E%", [("A", "%C%")], ["C", "E"]⟩ := by decide +kernel

end ScenarioRunner.Placeholder
