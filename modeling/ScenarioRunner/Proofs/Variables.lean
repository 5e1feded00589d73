import ScenarioRunner.CommandLine
import ScenarioRunner.Proofs.Assoc
import ScenarioRunner.Proofs.Navigation

/-! The values of variables. They come from three layers: the environment, the configuration, and
what a command is given as `NAME=VALUE`. A name has the value of the last layer that has the name; a
value that is empty counts as none then, and no layer below is asked again. -/
namespace ScenarioRunner

namespace Text

/-- A text is cut at the first place of a character. -/
theorem cutAt?_char_eq_some_iff {c : Char} {s before after : List Char} :
    cutAt? [c] s = some (before, after) ↔ s = before ++ c :: after ∧ c ∉ before := by
  induction s generalizing before with
  | nil => simp [cutAt?]
  | cons d rest ih =>
      rw [cutAt?]
      by_cases hHere : c = d
      · subst hHere
        cases before with
        | nil => simp [eq_comm]
        | cons b before => simp +contextual
      · have hPrefix : [c].isPrefixOf (d :: rest) = false := by simp [List.isPrefixOf, hHere]
        rw [hPrefix, if_neg (by decide), Option.map_eq_some_iff]
        cases before with
        | nil => simp [Ne.symm hHere]
        | cons b before =>
            constructor
            · rintro ⟨⟨front, back⟩, hCut, hPair⟩
              obtain ⟨hFront, rfl⟩ := Prod.mk.inj hPair
              obtain ⟨rfl, rfl⟩ := List.cons.inj hFront
              obtain ⟨rfl, hFirst⟩ := ih.mp hCut
              exact ⟨rfl, by simp [hHere, hFirst]⟩
            · rintro ⟨hText, hFirst⟩
              obtain ⟨rfl, hRest⟩ := List.cons.inj hText
              have hBefore : c ∉ before := fun hMem => hFirst (List.mem_cons_of_mem d hMem)
              exact ⟨(before, after), ih.mpr ⟨hRest, hBefore⟩, rfl⟩

end Text

namespace CommandLine

/-- A text that gives a name a value. -/
structure Gives (text : String) (entry : String × String) : Prop where
  named : entry.1 ≠ ""
  written : text.toList = entry.1.toList ++ '=' :: entry.2.toList
  /-- The name ends at the first equals sign. -/
  first : '=' ∉ entry.1.toList

theorem gives_iff {text : String} {entry : String × String} :
    Gives text entry ↔ ∃ c name, entry.1 = String.ofList (c :: name) ∧
      Text.cutAt? ['='] text.toList = some (c :: name, entry.2.toList) := by
  constructor
  · rintro ⟨hNamed, hWritten, hFirst⟩
    cases hName : entry.1.toList with
    | nil => exact absurd (String.toList_eq_nil_iff.mp hName) hNamed
    | cons c name =>
        refine ⟨c, name, ?_, Text.cutAt?_char_eq_some_iff.mpr ?_⟩
        · rw [← hName, String.ofList_toList]
        · rw [← hName]
          exact ⟨hWritten, hFirst⟩
  · rintro ⟨c, name, hName, hCut⟩
    obtain ⟨hWritten, hFirst⟩ := Text.cutAt?_char_eq_some_iff.mp hCut
    have hList : entry.1.toList = c :: name := by rw [hName, String.toList_ofList]
    refine ⟨fun hEmpty => ?_, ?_, ?_⟩
    · rw [hEmpty] at hList
      cases hList
    · rw [hList]
      exact hWritten
    · rw [hList]
      exact hFirst

/-- Just texts that give names values are read. -/
theorem readVariables_eq_ok_iff {given : List String} {pairs : Assoc String} :
    readVariables given = .ok pairs ↔ List.Forall₂ Gives given pairs := by
  induction given generalizing pairs with
  | nil =>
      rw [readVariables, List.forall₂_nil_left_iff]
      exact ⟨fun h => (Except.ok.inj h).symm, fun h => h ▸ rfl⟩
  | cons text rest ih =>
      rw [readVariables]
      split
      · rename_i c name value hCut
        have hEntry (entry : String × String) :
            Gives text entry ↔ entry = (String.ofList (c :: name), String.ofList value) := by
          rw [gives_iff, hCut]
          constructor
          · rintro ⟨d, front, hName, hSame⟩
            obtain ⟨hFront, hValue⟩ := Prod.mk.inj (Option.some.inj hSame)
            rw [← hFront] at hName
            exact Prod.ext hName (by rw [hValue, String.ofList_toList])
          · rintro rfl
            exact ⟨c, name, rfl, by rw [String.toList_ofList]⟩
        rw [bind_eq_ok_iff, List.forall₂_cons_left_iff]
        constructor
        · rintro ⟨more, hRest, hPairs⟩
          obtain rfl := pure_eq_ok_iff.mp hPairs
          exact ⟨_, more, (hEntry _).mpr rfl, ih.mp hRest, rfl⟩
        · rintro ⟨entry, more, hHead, hTail, rfl⟩
          rw [(hEntry entry).mp hHead]
          exact ⟨more, ih.mpr hTail, rfl⟩
      · rename_i hNone
        refine ⟨nofun, fun hAll => ?_⟩
        obtain ⟨entry, more, hHead, -, rfl⟩ := List.forall₂_cons_left_iff.mp hAll
        obtain ⟨c, name, -, hCut⟩ := gives_iff.mp hHead
        exact absurd hCut (hNone c name entry.2.toList)

end CommandLine

namespace Interpretation

/-- A step is read from left to right in one way, and resolved once from the values it is read
with. -/
theorem resolves_interpret (registry : Registry) (step : String) (values : Assoc String) :
    let d := interpret registry step values
    ∃ pieces, (∀ others, Placeholder.mark.Scans (trimmed step).toList others ↔ others = pieces) ∧
      Placeholder.Resolves values pieces (resolutionOf d) ∧
      ∀ name, name ∈ d.unresolved ↔ .slot name ∈ pieces ∧
        (values.get? name = none ∨ values.get? name = some "") := by
  have hResolution := resolution_interpret registry step values
  refine ⟨Placeholder.mark.pieces (trimmed step),
    fun others => SlotMark.scans_iff Placeholder.closesNames_mark, ?_, fun name => ?_⟩
  · rw [hResolution]
    exact Placeholder.resolves_resolve (trimmed step) values
  · rw [← Placeholder.mem_unresolved_iff_slot, ← hResolution]
    rfl

end Interpretation

namespace Context

/-- The value that a name has, if any, when these variables are given. -/
inductive Chosen (environ : Assoc String) (config : Config) (given : Assoc String) (name : String) :
    Option String → Prop
  /-- It was given, and the last time with this value. -/
  | given {before after : Assoc String} {value : String}
      (hGiven : given = before ++ (name, value) :: after) (hLast : name ∉ after.keys) :
      Chosen environ config given name (some value)
  | config {value : String} (hGiven : name ∉ given.keys)
      (hConfig : config.values.get? name = some value) :
      Chosen environ config given name (some value)
  | environ (hGiven : name ∉ given.keys) (hConfig : name ∉ config.values.keys) :
      Chosen environ config given name (environ.get? name)

variable {environ given : Assoc String} {config : Config} {name : String}

/-- Every name has one value, which the tables of the three layers give one after another. -/
theorem chosen_iff {value : Option String} : Chosen environ config given name value ↔
    ((Assoc.get? given.reverse name).or (config.values.get? name)).or (environ.get? name) =
      value := by
  constructor
  · rintro (⟨rfl, hLast⟩ | ⟨hGiven, hConfig⟩ | ⟨hGiven, hConfig⟩)
    · rename_i before after value
      have hValue : Assoc.get? (before ++ (name, value) :: after).reverse name = some value := by
        refine List.lookup_eq_some_iff.mpr ⟨after.reverse, before.reverse, by simp, ?_⟩
        rintro entry hEntry
        refine bne_iff_ne.mpr fun hSame => hLast ?_
        exact List.mem_map.mpr ⟨entry, List.mem_reverse.mp hEntry, hSame.symm⟩
      rw [hValue]
      rfl
    · rw [Assoc.get?_reverse_eq_none_iff.mpr hGiven, hConfig]
      rfl
    · rw [Assoc.get?_reverse_eq_none_iff.mpr hGiven, Assoc.get?_eq_none_iff.mpr hConfig]
      rfl
  · rintro rfl
    cases hValue : Assoc.get? given.reverse name with
    | some value =>
        obtain ⟨after, before, hGiven, hLast⟩ := List.lookup_eq_some_iff.mp hValue
        have hSplit : given = before.reverse ++ (name, value) :: after.reverse := by
          rw [← List.reverse_reverse given, hGiven]
          simp
        refine .given hSplit fun hMem => ?_
        obtain ⟨entry, hEntry, hSame⟩ := List.mem_map.mp hMem
        exact bne_iff_ne.mp (hLast entry (List.mem_reverse.mp hEntry)) hSame.symm
    | none =>
        have hGiven : name ∉ given.keys := Assoc.get?_reverse_eq_none_iff.mp hValue
        cases hConfig : config.values.get? name with
        | some value => exact .config hGiven hConfig
        | none => exact .environ hGiven (Assoc.get?_eq_none_iff.mp hConfig)

/-- What is written over the configuration and the environment is chosen first. -/
theorem chosen_iff_get? (hConfig : config.values.keys.Nodup)
    (provider : Option Provider) (pairs : Assoc String) (name : String) {value : Option String} :
    Chosen environ config pairs name value ↔
      ((ofEnvironment config environ provider).values.override (Assoc.ofPairs pairs)).get? name =
        value := by
  rw [chosen_iff, Assoc.get?_override_of_nodup (Assoc.nodup_keys_ofPairs pairs), Assoc.get?_ofPairs,
    ofEnvironment, Assoc.get?_override_of_nodup hConfig, Option.or_assoc]

/-- A name `self` cannot be given. Any other variables can, and every name then has the value that
was given for it last, else that of the configuration, else that of the environment. The address to
fall back on, the sessions and the context that was there before stay as they are. A step is read
with just these values: a placeholder stays, and its name is unresolved, if the value chosen for it
is missing or empty, whatever the layers below have. -/
theorem withVariables_layered {given : List String} {pairs : Assoc String}
    (hRead : CommandLine.readVariables given = .ok pairs) (hConfig : config.values.keys.Nodup)
    (environ : Assoc String) (provider : Option Provider) :
    let first := ofEnvironment config environ provider
    List.Forall₂ CommandLine.Gives given pairs ∧
    (first.withVariables (Assoc.ofPairs pairs) =
        .error (.wrongType "more than one value for 'self'") ↔ "self" ∈ pairs.keys) ∧
    ("self" ∉ pairs.keys → ∃ c, first.withVariables (Assoc.ofPairs pairs) = .ok c ∧
      c.baseUrl = first.baseUrl ∧ c.provider = provider ∧
      (∀ name value, Chosen environ config pairs name value ↔ c.values.get? name = value) ∧
      (∀ name value, Chosen environ config [] name value ↔ first.values.get? name = value) ∧
      ∀ (registry : Registry) (step : String),
        let d := Interpretation.interpret registry step c.values
        ∃ pieces, (∀ others, Placeholder.mark.Scans (trimmed step).toList others ↔
            others = pieces) ∧
          Placeholder.Resolves c.values pieces (Interpretation.resolutionOf d) ∧
          ∀ name, name ∈ d.unresolved ↔ .slot name ∈ pieces ∧
            (Chosen environ config pairs name none ∨
              Chosen environ config pairs name (some ""))) := by
  have hSelf : (Assoc.ofPairs pairs).hasKey "self" = true ↔ "self" ∈ pairs.keys := by
    rw [Assoc.hasKey, Assoc.get?_ofPairs, ← Option.ne_none_iff_isSome, Ne,
      Assoc.get?_reverse_eq_none_iff, not_not]
  refine ⟨CommandLine.readVariables_eq_ok_iff.mp hRead, ?_, fun hNames => ?_⟩
  · rw [withVariables, ← hSelf]
    split <;> simp_all
  have hOk : (ofEnvironment config environ provider).withVariables (Assoc.ofPairs pairs) =
      .ok { ofEnvironment config environ provider with
        values := (ofEnvironment config environ provider).values.override (Assoc.ofPairs pairs) } :=
    if_neg fun hKey => hNames (hSelf.mp hKey)
  have hChosen (name : String) (value : Option String) : Chosen environ config pairs name value ↔
      ((ofEnvironment config environ provider).values.override (Assoc.ofPairs pairs)).get? name =
        value :=
    chosen_iff_get? hConfig provider pairs name
  refine ⟨_, hOk, rfl, rfl, hChosen,
    fun name value => chosen_iff_get? hConfig provider [] name, fun registry step => ?_⟩
  obtain ⟨pieces, hScans, hResolves, hLeft⟩ := Interpretation.resolves_interpret registry step
    ((ofEnvironment config environ provider).values.override (Assoc.ofPairs pairs))
  refine ⟨pieces, hScans, hResolves, fun name => ?_⟩
  rw [hChosen, hChosen]
  exact hLeft name

def layeredConfig : Config where
  values := [("USER", "cora"), ("MODE", "")]

def layeredEnviron : Assoc String := [("USER", "eve"), ("MODE", "fast"), ("HOME", "/")]

/-- A name that is given twice, one that the configuration leaves empty, and one of the environment.
-/
theorem withVariables_layered_say :
    CommandLine.readVariables ["USER=ann", "USER=b=b"] = .ok [("USER", "ann"), ("USER", "b=b")] ∧
    layeredConfig.values.keys.Nodup ∧
    ∃ c, (ofEnvironment layeredConfig layeredEnviron none).withVariables
        (Assoc.ofPairs [("USER", "ann"), ("USER", "b=b")]) = .ok c ∧
      c.values.get? "USER" = some "b=b" ∧ c.values.get? "HOME" = some "/" ∧
      "MODE" ∈ (Interpretation.interpret ⟨[]⟩ "say %MODE%" c.values).unresolved := by
  have hRead : CommandLine.readVariables ["USER=ann", "USER=b=b"] =
      .ok [("USER", "ann"), ("USER", "b=b")] := by decide +kernel
  have hConfig : layeredConfig.values.keys.Nodup := by decide
  obtain ⟨-, -, hGiven⟩ := withVariables_layered hRead hConfig layeredEnviron none
  obtain ⟨c, hOk, -, -, hChosen, -, hSteps⟩ := hGiven (by decide)
  refine ⟨hRead, hConfig, c, hOk, ?_, ?_, ?_⟩
  · have hLast : [("USER", "ann"), ("USER", "b=b")] =
        [("USER", "ann")] ++ ("USER", "b=b") :: [] := rfl
    exact (hChosen "USER" _).mp (.given hLast (by decide))
  · exact (hChosen "HOME" _).mp (.environ (by decide) (by decide))
  · obtain ⟨pieces, hScans, -, hLeft⟩ := hSteps ⟨[]⟩ "say %MODE%"
    have hPieces := (hScans _).mp (SlotMark.scans_piecesFrom Placeholder.closesNames_mark _)
    have hSlot : .slot "MODE" ∈ Placeholder.mark.piecesFrom 0 (trimmed "say %MODE%").toList := by
      decide +kernel
    rw [hPieces] at hSlot
    exact (hLeft "MODE").mpr ⟨hSlot, .inr (.config (by decide) rfl)⟩

end Context

end ScenarioRunner
