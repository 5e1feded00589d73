import ScenarioRunner.Proofs.Assoc
import ScenarioRunner.Proofs.Navigation

/-! The form of descriptors. Whoever carries out a descriptor looks up its parameters and relies on
what they are, and can do so: whatever rules there are and whatever a step says, parameters are named
by groups of the rule and none of them is blank, each placeholder of the step is either captured or
unresolved, and a script is there just where the rule has one. -/
namespace ScenarioRunner

open Text

/-! Texts without blanks around them. -/

/-- The text is not empty, and there are no blanks at its ends. -/
structure Stripped (s : String) : Prop where
  nonempty : s ≠ ""
  trimmed : trimmed s = s

theorem stripped_trimmed {s : String} (hFilled : trimmed s ≠ "") : Stripped (trimmed s) := by
  refine ⟨hFilled, ?_⟩
  rw [trimmed, trimmed, String.toList_ofList, trim_trim]

/-- A plain address has no blanks in it. -/
theorem Url.Plain.stripped {url : String} (h : Plain url.toList) : Stripped url := by
  have hBlank : ∀ c ∈ url.toList, isBlank c = false := fun c hc => (h.spelled.2 c hc).1
  refine ⟨fun hEmpty => h.ne_nil (by simp [hEmpty]), ?_⟩
  have hTrim : trim url.toList = url.toList :=
    trim_eq_self_iff.mpr ⟨fun c hc => hBlank c (List.mem_of_mem_head? hc),
      fun c hc => hBlank c (List.mem_of_getLast? hc)⟩
  rw [trimmed, hTrim, String.ofList_toList]

/-- An address that is recovered from a text is plain, and else the text is left as it is. -/
theorem Stripped.sanitized {s : String} (h : Stripped s) : Stripped (sanitizeUrl s) := by
  rcases Url.recover_cases s.toList with hSame | ⟨hFirst, -⟩
  · have hUrl : sanitizeUrl s = s := by rw [← String.toList_inj, toList_sanitizeUrl, hSame]
    rwa [hUrl]
  · rw [← toList_sanitizeUrl] at hFirst
    exact hFirst.plain.stripped

/-! The first rule. -/

/-- Of the rules of a registry this one is the first whose expression is found in a text. -/
def Registry.Finds (registry : Registry) (text : String) (rule : Rule) (m : Regex.Match) : Prop :=
  rule.pattern.search text.toList = some m ∧
    ∃ earlier later, registry.rules = earlier ++ rule :: later ∧
      ∀ other ∈ earlier, other.pattern.search text.toList = none

namespace Interpretation

variable {registry : Registry} {text : String} {rule : Rule} {m : Regex.Match}

/-- The first match of a text is by the rule that is found for it. -/
theorem firstMatch?_eq_some_iff :
    firstMatch? registry text = some (rule, m) ↔ registry.Finds text rule m := by
  rw [firstMatch?, List.findSome?_eq_some_iff]
  constructor
  · rintro ⟨earlier, other, later, hRules, hFound, hNone⟩
    obtain ⟨held, hSearch, hPair⟩ := Option.map_eq_some_iff.mp hFound
    obtain ⟨rfl, rfl⟩ := Prod.mk.inj hPair
    exact ⟨hSearch, earlier, later, hRules, fun other hOther =>
      Option.map_eq_none_iff.mp (hNone other hOther)⟩
  · rintro ⟨hSearch, earlier, later, hRules, hNone⟩
    exact ⟨earlier, rule, later, hRules, by simp [hSearch], fun other hOther => by
      simp [hNone other hOther]⟩

/-- There is no match just when no rule of the registry matches. -/
theorem firstMatch?_eq_none_iff_search : firstMatch? registry text = none ↔
    ∀ rule ∈ registry.rules, rule.pattern.search text.toList = none := by
  simp [firstMatch?, List.findSome?_eq_none_iff]

/-! Parameters. -/

/-- A group of the rule with this name has taken part in the match, and this is its text without the
blanks at the ends. -/
def Holds (rule : Rule) (m : Regex.Match) (name value : String) : Prop :=
  ∃ i held, rule.groups[i]? = some name ∧ i < rule.pattern.groups ∧ m.group? (i + 1) = some held ∧
    value = String.ofList (trim held)

/-- A value that is held belongs to a group of its rule. -/
theorem Holds.mem_groups {name value : String} (h : Holds rule m name value) :
    name ∈ rule.groups := by
  obtain ⟨i, held, hName, -⟩ := h
  exact List.mem_of_getElem? hName

theorem Holds.stripped {name value : String} (h : Holds rule m name value) (hFilled : value ≠ "") :
    Stripped value := by
  obtain ⟨i, held, -, -, -, rfl⟩ := h
  have hTrimmed : String.ofList (trim held) = trimmed (String.ofList held) := by
    rw [trimmed, String.toList_ofList]
  rw [hTrimmed] at hFilled ⊢
  exact stripped_trimmed hFilled

/-- The names and texts of groups, of which parameters are made. -/
theorem mem_named_iff {entry : String × String} :
    entry ∈ ((rule.groups.take rule.pattern.groups).mapIdx fun i name =>
        (name, String.ofList (trim ((m.group? (i + 1)).getD [])))).filter (fun entry => entry.2 != "") ↔
      Holds rule m entry.1 entry.2 ∧ entry.2 ≠ "" := by
  obtain ⟨name, value⟩ := entry
  rw [List.mem_filter, List.mem_iff_getElem?]
  simp only [bne_iff_ne, List.getElem?_mapIdx, Option.map_eq_some_iff, List.getElem?_take,
    Option.ite_none_right_eq_some, Prod.mk.injEq]
  refine and_congr_left fun hFilled => exists_congr fun i => ?_
  constructor
  · rintro ⟨_, ⟨hIndex, hName⟩, rfl, rfl⟩
    cases hHeld : m.group? (i + 1) with
    | none => exact absurd (by simp [hHeld, trim]) hFilled
    | some held => exact ⟨held, hName, hIndex, rfl, rfl⟩
  · rintro ⟨held, hName, hIndex, hHeld, rfl⟩
    exact ⟨name, ⟨hIndex, hName⟩, rfl, by rw [hHeld, Option.getD_some]⟩

/-- A parameter is the text of its group, and never an empty one. -/
theorem mem_paramsOf {entry : String × String} (hMem : entry ∈ paramsOf rule m) :
    Holds rule m entry.1 entry.2 ∧ entry.2 ≠ "" :=
  mem_named_iff.mp (Assoc.mem_of_mem_ofPairs hMem)

/-- Every group with a text gives a parameter. -/
theorem mem_keys_paramsOf {name value : String} (hHolds : Holds rule m name value)
    (hFilled : value ≠ "") : name ∈ (paramsOf rule m).keys :=
  Assoc.mem_keys_ofPairs.mpr
    (List.mem_map.mpr ⟨(name, value), mem_named_iff.mpr ⟨hHolds, hFilled⟩, rfl⟩)

/-- What becomes of the text of a group: the address of a step that opens one is cleaned. -/
def cleaned (rule : Rule) (name value : String) : String :=
  if rule.kind = "goto" ∧ name = "url" then sanitizeUrl value else value

/-- Cleaning a value does not bring blanks to its ends. -/
theorem stripped_cleaned {name value : String} (h : Stripped value) :
    Stripped (cleaned rule name value) := by
  rw [cleaned]
  split_ifs
  · exact h.sanitized
  · exact h

/-- Parameters are made of what groups hold, as far as that is not blank. -/
structure Gathers (rule : Rule) (m : Regex.Match) (params : Assoc String) : Prop where
  distinct : params.keys.Nodup
  all : ∀ name value, Holds rule m name value → value ≠ "" → name ∈ params.keys
  only : ∀ name value, (name, value) ∈ params →
    ∃ text, Holds rule m name text ∧ text ≠ "" ∧ value = cleaned rule name text

/-- The parameters of a match are gathered from its groups, each one cleaned. -/
theorem gathers_cleanParams : Gathers rule m (cleanParams rule (paramsOf rule m)) := by
  have hDistinct : (paramsOf rule m).keys.Nodup := Assoc.nodup_keys_ofPairs _
  rw [cleanParams]
  split
  · rename_i url hKind hUrl
    -- the clean address takes the place of the captured one, and all else stays
    obtain ⟨hHolds, hFilled⟩ := mem_paramsOf (Assoc.mem_of_get? hUrl)
    refine ⟨Assoc.nodup_keys_put hDistinct _ _, fun name value hHolds hFilled => ?_,
      fun name value hMem => ?_⟩
    · exact Assoc.mem_keys_put.mpr (.inr (mem_keys_paramsOf hHolds hFilled))
    · rcases Assoc.mem_of_mem_put hDistinct hMem with hEntry | ⟨hOther, hMem⟩
      · obtain ⟨rfl, rfl⟩ := Prod.mk.inj hEntry
        exact ⟨url, hHolds, hFilled, (if_pos ⟨beq_iff_eq.mp hKind, rfl⟩).symm⟩
      · obtain ⟨hHolds, hFilled⟩ := mem_paramsOf hMem
        exact ⟨value, hHolds, hFilled, (if_neg fun hUrl => hOther hUrl.2).symm⟩
  · rename_i hElse
    refine ⟨hDistinct, fun name value => mem_keys_paramsOf, fun name value hMem => ?_⟩
    obtain ⟨hHolds, hFilled⟩ := mem_paramsOf hMem
    refine ⟨value, hHolds, hFilled, (if_neg ?_).symm⟩
    rintro ⟨hKind, rfl⟩
    exact hElse value (beq_iff_eq.mpr hKind) (Assoc.get?_eq_some_of_mem hDistinct hMem)

/-- A script is written just when the rule has an engine for it and a template with something in it.
-/
theorem isSome_scriptOf_iff {params captured : Assoc String} {wording resolved : String} :
    (scriptOf rule params captured wording resolved).isSome = true ↔
      rule.engine = .rules ∧ ∃ template, rule.template = some template ∧ template ≠ "" := by
  rw [scriptOf]
  split
  · rename_i template hEngine hTemplate
    by_cases hEmpty : template = "" <;> simp [hEngine, hTemplate, hEmpty]
  · rename_i hElse
    simp only [Option.isSome_none, Bool.false_eq_true, false_iff]
    rintro ⟨hEngine, template, hTemplate, -⟩
    exact hElse template hEngine hTemplate

/-! Descriptors. -/

/-- The descriptor is one that a rule gives for its match. -/
structure Shaped (rule : Rule) (m : Regex.Match) (d : Descriptor) : Prop where
  params : Gathers rule m d.params
  named : ∀ name ∈ d.params.keys, name ∈ rule.groups
  stripped : ∀ name value, (name, value) ∈ d.params → Stripped value
  script : d.script.isSome = true ↔
    rule.engine = .rules ∧ ∃ template, rule.template = some template ∧ template ≠ ""

/-- What is made of a match has the shape that its rule gives it. -/
theorem shaped_ofMatch (wording : String) (r : Placeholder.Resolution) :
    Shaped rule m (ofMatch wording r rule m) := by
  have hGathers : Gathers rule m (ofMatch wording r rule m).params := gathers_cleanParams
  refine ⟨hGathers, fun name hName => ?_, fun name value hMem => ?_, isSome_scriptOf_iff⟩
  · obtain ⟨entry, hMem, rfl⟩ := List.mem_map.mp hName
    obtain ⟨text, hHolds, -⟩ := hGathers.only entry.1 entry.2 hMem
    exact hHolds.mem_groups
  · obtain ⟨text, hHolds, hFilled, rfl⟩ := hGathers.only name value hMem
    exact stripped_cleaned (hHolds.stripped hFilled)

/-- What can be told of the descriptor of a step. -/
structure Normal (registry : Registry) (step : String) (values : Assoc String) (d : Descriptor) :
    Prop where
  invalid : d.invalid = true ↔ trimmed step = ""
  /-- The names in placeholders are those that are captured and those that are unresolved. -/
  resolves : ∃ pieces, Placeholder.mark.Scans (trimmed step).toList pieces ∧
    Placeholder.Resolves values pieces (resolutionOf d)
  /-- Each of them is one of these, and once. -/
  distinct : (d.captured.keys ++ d.unresolved).Nodup
  found : trimmed step ≠ "" → ∀ rule m, registry.Finds d.resolved rule m → Shaped rule m d
  /-- No rule takes the step. -/
  unfound : trimmed step ≠ "" →
    (∀ rule ∈ registry.rules, rule.pattern.search d.resolved.toList = none) →
      d.params = [("raw", d.resolved)] ∧ d.engine = .direct ∧ d.script = none

/-- Every step has a descriptor in normal form, whatever the rules and the variables are. -/
theorem interpret_normal (registry : Registry) (step : String) (values : Assoc String) :
    Normal registry step values (interpret registry step values) := by
  have hResolution : resolutionOf (interpret registry step values) =
      Placeholder.resolve (trimmed step) values := resolution_interpret registry step values
  have hResolved : (interpret registry step values).resolved =
      (Placeholder.resolve (trimmed step) values).text := congrArg (·.text) hResolution
  have hCaptured : (interpret registry step values).captured =
      (Placeholder.resolve (trimmed step) values).captured := congrArg (·.captured) hResolution
  have hUnresolved : (interpret registry step values).unresolved =
      (Placeholder.resolve (trimmed step) values).unresolved := congrArg (·.unresolved) hResolution
  constructor
  · by_cases hStep : trimmed step = ""
    · simp [interpret, hStep, fallback]
    · refine iff_of_false ?_ hStep
      cases hFirst : firstMatch? registry (Placeholder.resolve (trimmed step) values).text with
      | none => simp [interpret_of_none hStep hFirst, fallback]
      | some found => simp [interpret_of_some hStep hFirst, ofMatch]
  · rw [hResolution]
    exact ⟨_, SlotMark.scans_piecesFrom Placeholder.closesNames_mark _,
      Placeholder.resolves_resolve (trimmed step) values⟩
  · rw [hCaptured, hUnresolved]
    exact Placeholder.nodup_captured_append_unresolved (trimmed step) values
  · intro hStep rule m hFinds
    rw [hResolved] at hFinds
    rw [interpret_of_some hStep (firstMatch?_eq_some_iff.mpr hFinds)]
    exact shaped_ofMatch _ _
  · intro hStep hNone
    rw [hResolved] at hNone
    rw [interpret_of_none hStep (firstMatch?_eq_none_iff_search.mpr hNone)]
    exact ⟨rfl, rfl, rfl⟩

end Interpretation

end ScenarioRunner
