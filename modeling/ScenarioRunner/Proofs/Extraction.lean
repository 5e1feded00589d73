import ScenarioRunner.Proofs.Dispatch
import ScenarioRunner.Proofs.File.Path

/-! Extracted data. A step keeps what its session took from the page before it writes the file, so a
file without a path fails the step and the data stays. In all other cases a failed step leaves the
data of the history as it was. -/
namespace ScenarioRunner

open FileTree

/-- A file is put into a folder. It fails for want of a path if the folder has none, or else, once
the folder is there, if the file has none. -/
theorem Outside.pathless_writeInto_iff (s : Surroundings) (w : World) (folder file : Path)
    (text : String) :
    Pathless (runIn s w (writeInto folder file text)).1 ↔
      folder.IsBad ∨ (∃ made, w.files.makeFolders folder = .ok made) ∧ file.IsBad := by
  have hFolder : Pathless (w.files.makeFolders folder) ↔ folder.IsBad := pathless_makeFolders_iff
  rw [writeInto, runIn_bind, runIn_changeFiles]
  cases hMade : w.files.makeFolders folder with
  | error trouble =>
      rw [hMade, pathless_error_iff] at hFolder
      simp [pathless_error_iff, hFolder]
  | ok made =>
      have hPath : ¬ folder.IsBad := by
        rw [← hFolder, hMade]
        exact not_pathless_ok
      have hFile : Pathless (made.write file text) ↔ file.IsBad := pathless_write_iff
      dsimp only
      rw [runIn_changeFiles, ← hFile]
      cases made.write file text with
      | error trouble => simp [pathless_error_iff, hPath]
      | ok written => simp [not_pathless_ok, hPath]

namespace History

variable (s : Surroundings) (w : World) (h : History) (key : String) (data : Json)

/-- The file of data under a key can have no path: its folder has none, or it is there and the key
is no name. -/
def LacksPath (h : History) (files : FileTree) (key : String) : Prop :=
  h.persist = true ∧ (h.resultsDir.IsBad ∨
    (∃ made, files.makeFolders h.resultsDir = .ok made) ∧ '\x00' ∈ key.toList)

/-- The file of extracted data has no path just when its folder has none or, with the folder there,
the key holds a null character. -/
theorem pathless_writeInto_artifactPath_iff (text : String) :
    Pathless (Outside.runIn s w (Outside.writeInto h.resultsDir (h.artifactPath key) text)).1 ↔
      h.resultsDir.IsBad ∨
        (∃ made, w.files.makeFolders h.resultsDir = .ok made) ∧ '\x00' ∈ key.toList := by
  rw [Outside.pathless_writeInto_iff]
  by_cases hFolder : h.resultsDir.IsBad
  · simp [hFolder]
  · have hName : '\x00' ∈ (key ++ ".json").toList ↔ '\x00' ∈ key.toList := by
      rw [String.toList_append, List.mem_append, or_iff_left (by decide)]
    rw [artifactPath, Path.isBad_child_iff hFolder, hName]

/-- Whatever else goes wrong with a file, there is just no file. -/
theorem isOk_writeArtifact_iff :
    (Attempt.runIn s w (h.writeArtifact key data)).1.isOk = true ↔
      ¬ Pathless (Outside.runIn s w (Outside.writeInto h.resultsDir (h.artifactPath key)
        (artifactJson key data w.clock).indented)).1 := by
  rw [writeArtifact, Attempt.runIn_bind, Attempt.runIn_lift, Outside.runIn_now]
  dsimp only
  rw [Attempt.runIn_bind, Attempt.runIn_reported]
  dsimp only
  generalize Outside.runIn s w (Outside.writeInto h.resultsDir (h.artifactPath key)
    (artifactJson key data w.clock).indented) = written
  obtain ⟨trouble | _, after⟩ := written
  · cases hBad : trouble.isBadText <;> simp [hBad, pathless_error_iff, Except.isOk, Except.toBool]
  · simp [not_pathless_ok, Except.isOk, Except.toBool]

/-- Data that is to be kept in a file is kept unless there is no path for it. -/
theorem isOk_persistArtifact_iff :
    (Attempt.runIn s w (h.persistArtifact key data)).1.isOk = true ↔ ¬ h.LacksPath w.files key := by
  rw [persistArtifact, LacksPath]
  cases h.persist with
  | false => simp [Except.isOk, Except.toBool]
  | true =>
      rw [if_pos rfl, isOk_writeArtifact_iff, pathless_writeInto_artifactPath_iff]
      simp

end History

namespace Dispatch

variable {s : Surroundings} {w : World} {config : Config} {h : History} {d : Descriptor}
  {session : Session} {workflow : String} {context : Context}

/-- A valid step takes data for a target, which its session gives, leaving this world; the data goes
to the key that the step names, or to a fresh one. -/
structure Extracts (s : Surroundings) (w : World) (d : Descriptor) (session : Session)
    (target key : String) (data : Json) (asked : World) : Prop where
  isValid : d.isValid = true
  kind : d.kind = .extract
  param : d.param? "target" = some target
  returned : Attempt.runIn s { w with ids := w.ids + 1 }
    (session.extract target (.ofText (shapeOf target))) = (.ok data, asked)
  stored : (Outside.runIn s asked (storageKey d target)).1 = key

/-- Choosing a key may take an identifier, but it leaves the files alone. -/
theorem files_storageKey (target : String) :
    (Outside.runIn s w (storageKey d target)).2.files = w.files := by
  rw [storageKey]
  cases d.filled? "variable" <;> rfl

/-- Where the session fails, nothing is taken from the page and the history stays as it is. -/
theorem runIn_extract_of_error {target : String} {fault : Fault} {asked : World}
    (hAsked : Attempt.runIn s w (session.extract target (.ofText (shapeOf target))) =
      (.error fault, asked)) :
    Outside.runIn s w (handle (extract h d target session)) = ((.error (.fault fault), h), asked) := by
  have hRun : Outside.runIn s w (session.extract target (.ofText (shapeOf target))).run =
      (.error fault, asked) := hAsked
  rw [handle, Outside.runIn_bind, extract, Outside.runIn_bind, hRun]
  rfl

/-- The data is kept first, and then its file is written. -/
theorem runIn_extract_of_persisted {target : String} {data : Json} {asked after : World}
    {written : Except Fault (Option Path)}
    (hAsked : Attempt.runIn s w (session.extract target (.ofText (shapeOf target))) =
      (.ok data, asked)) :
    let key := (Outside.runIn s asked (storageKey d target)).1
    Attempt.runIn s (Outside.runIn s asked (storageKey d target)).2
      ((h.keep key data).persistArtifact key data) = (written, after) →
    Outside.runIn s w (handle (extract h d target session)) =
      (((written.map fun _ => StepResult.extracted target (shapeOf target) key data
        (History.dataSize data)).mapError .fault, h.keep key data), after) := by
  intro key hWritten
  have hRun : Outside.runIn s w (session.extract target (.ofText (shapeOf target))).run =
      (.ok data, asked) := hAsked
  have hOutside : Outside.runIn s (Outside.runIn s asked (storageKey d target)).2
      ((h.keep key data).persistArtifact key data).run = (written, after) := hWritten
  rw [handle, Outside.runIn_bind, extract, Outside.runIn_bind, hRun]
  simp only [Outside.runIn_bind, Outside.runIn_pure]
  rw [hOutside]

/-- The data is kept in any case. The step succeeds if the file of it has a path. -/
theorem runIn_extract_of_ok {target : String} {data : Json} {asked : World}
    (hAsked : Attempt.runIn s w (session.extract target (.ofText (shapeOf target))) =
      (.ok data, asked)) :
    let key := (Outside.runIn s asked (storageKey d target)).1
    ∃ outcome after, Outside.runIn s w (handle (extract h d target session)) =
        ((outcome, h.keep key data), after) ∧
      (outcome.isOk = true ↔ ¬ h.LacksPath asked.files key) ∧
      ∀ result, outcome = .ok result →
        result = .extracted target (shapeOf target) key data (History.dataSize data) := by
  intro key
  obtain ⟨⟨written, after⟩, hWritten⟩ : ∃ ended, Attempt.runIn s
    (Outside.runIn s asked (storageKey d target)).2
      ((h.keep key data).persistArtifact key data) = ended := ⟨_, rfl⟩
  have hPersist : written.isOk = true ↔ ¬ h.LacksPath asked.files key := by
    rw [← files_storageKey (s := s) (w := asked) (d := d) target]
    refine Iff.trans ?_ (History.isOk_persistArtifact_iff s _ (h.keep key data) key data)
    rw [hWritten]
  refine ⟨(written.map fun _ => StepResult.extracted target (shapeOf target) key data
    (History.dataSize data)).mapError .fault, after,
    runIn_extract_of_persisted hAsked hWritten, ?_, ?_⟩
  · rw [← hPersist]
    cases written <;> rfl
  · intro result hResult
    cases written with
    | error fault => cases hResult
    | ok path => exact (Except.ok.inj hResult).symm

/-- What a dispatch does to the data of a history. -/
inductive Keeps (s : Surroundings) (w : World) (h : History) (d : Descriptor) (session : Session)
    (record : Record) (after : History) : Prop
  /-- Nothing is taken from the page. -/
  | same (hNone : ∀ target key data asked, ¬ Extracts s w d session target key data asked)
      (hArtifacts : after.artifacts = h.artifacts)
      (hSuccess : record.success = true → d.kind ≠ .extract)
  | taken {target key : String} {data : Json} {asked : World}
      (hExtracts : Extracts s w d session target key data asked)
      (hArtifacts : after.artifacts = h.artifacts.put key data)
      (hSuccess : record.success = true ↔ ¬ h.LacksPath asked.files key)
      (hResult : record.success = true →
        record.result = .extracted target (shapeOf target) key data (History.dataSize data))

/-- A valid step that takes data finds its target. -/
theorem exists_target (config : Config) (h : History) (session : Session) (context : Context)
    (hValid : d.isValid = true) (hKind : d.kind = .extract) :
    ∃ target, d.param? "target" = some target ∧
      perform config h d session context = handle (extract h d target session) := by
  have hName : d.kind.parameter? = some "target" := by rw [hKind]; rfl
  obtain ⟨target, hTarget⟩ :=
    Option.isSome_iff_exists.mp (Descriptor.param?_isSome_of_isValid hValid hName)
  refine ⟨target, hTarget, ?_⟩
  rw [perform, hKind]
  dsimp only
  rw [withParam, hTarget]

/-- A valid extraction keeps what its session gave, whether or not its file can be written. -/
theorem keeps_execute_of_extract (hValid : d.isValid = true) (hKind : d.kind = .extract) :
    let ended := (Outside.runIn s w (execute config h d session workflow context)).1
    Keeps s w h d session ended.1 ended.2 := by
  obtain ⟨target, hTarget, hPerform⟩ := exists_target config h session context hValid hKind
  rcases hAsked : Attempt.runIn s { w with ids := w.ids + 1 }
    (session.extract target (.ofText (shapeOf target))) with ⟨fault | data, asked⟩
  · have hRun := runIn_extract_of_error (h := h) (d := d) hAsked
    rw [← hPerform] at hRun
    rw [runIn_execute_of_isValid s w config h d session workflow context hValid hRun]
    refine .same (fun other key data after hExtracts => ?_) rfl fun hSuccess => by cases hSuccess
    obtain rfl : other = target := Option.some.inj (hExtracts.param.symm.trans hTarget)
    cases hAsked.symm.trans hExtracts.returned
  · obtain ⟨outcome, after, hRun, hOk, hResult⟩ := runIn_extract_of_ok (h := h) (d := d) hAsked
    rw [← hPerform] at hRun
    rw [runIn_execute_of_isValid s w config h d session workflow context hValid hRun]
    refine .taken ⟨hValid, hKind, hTarget, hAsked, rfl⟩ rfl ?_ ?_
    · rw [← hOk]
      cases outcome <;> rfl
    · cases outcome with
      | error obstacle => rintro ⟨⟩
      | ok result => exact fun _ => hResult result rfl

/-- Every step either leaves the data as it was or adds what was taken, under the key in its record.
-/
theorem keeps_execute :
    let ended := (Outside.runIn s w (execute config h d session workflow context)).1
    Keeps s w h d session ended.1 ended.2 := by
  cases hValid : d.isValid with
  | false =>
      rw [runIn_execute_of_not_isValid s w config h d session workflow context hValid]
      refine .same (fun target key data asked hExtracts => ?_) rfl fun hSuccess => by cases hSuccess
      rw [hExtracts.isValid] at hValid
      cases hValid
  | true =>
      by_cases hKind : d.kind = .extract
      · exact keeps_execute_of_extract hValid hKind
      · obtain ⟨⟨⟨outcome, kept⟩, after⟩, hPerform⟩ : ∃ ended, Outside.runIn s
          { w with ids := w.ids + 1 } (perform config h d session context) = ended := ⟨_, rfl⟩
        obtain rfl : kept = h := by
          have hLeaves := leaves_perform (h := h) s { w with ids := w.ids + 1 } config session context
            hKind
          rwa [hPerform] at hLeaves
        rw [runIn_execute_of_isValid s w config kept d session workflow context hValid hPerform]
        exact .same (fun _ _ _ _ hExtracts => hKind hExtracts.kind) rfl fun _ => hKind

/-- What is taken from the page is settled by the step and its session. -/
theorem Extracts.unique {target target' key key' : String} {data data' : Json}
    {asked asked' : World} (hFirst : Extracts s w d session target key data asked)
    (hSecond : Extracts s w d session target' key' data' asked') :
    target = target' ∧ key = key' ∧ data = data' ∧ asked = asked' := by
  obtain rfl : target = target' := Option.some.inj (hFirst.param.symm.trans hSecond.param)
  obtain ⟨hData, rfl⟩ := Prod.mk.inj (hFirst.returned.symm.trans hSecond.returned)
  exact ⟨rfl, hFirst.stored.symm.trans hSecond.stored, Except.ok.inj hData, rfl⟩

/-- A failed step leaves the data of a history as it was, unless there is no path for the file of
the data that it took; in that case it fails and the data stays. A successful step changes the data
only if it takes some from the page, and then at the key in its record, where the data is now that
its session gave.

Writing and measuring data as JSON is taken never to fail here. It may for integers of more than
4300 digits and for values that are nested too deeply, with or without files, and for a file also
where the data holds half of a surrogate pair. Then too the step fails and the data stays. -/
theorem execute_keeps_data (s : Surroundings) (w : World) (config : Config) (h : History)
    (d : Descriptor) (session : Session) (workflow : String) (context : Context) :
    let ended := (Outside.runIn s w (execute config h d session workflow context)).1
    (ended.1.success = false →
      (∀ target key data asked, Extracts s w d session target key data asked →
        ¬ h.LacksPath asked.files key) →
      ended.2.artifacts = h.artifacts) ∧
    (ended.1.success = true → d.kind ≠ .extract → ended.2.artifacts = h.artifacts) ∧
    (ended.1.success = true → d.kind = .extract → ∃ target key data asked,
      Extracts s w d session target key data asked ∧
      ended.1.result = .extracted target (shapeOf target) key data (History.dataSize data) ∧
      ∀ other, ended.2.artifacts.get? other =
        if other = key then some data else h.artifacts.get? other) ∧
    ∀ target key data asked, Extracts s w d session target key data asked →
      h.LacksPath asked.files key →
      ended.1.success = false ∧ ended.2.artifacts = h.artifacts.put key data := by
  intro ended
  have hKeeps : Keeps s w h d session ended.1 ended.2 := keeps_execute
  cases hKeeps with
  | same hNone hArtifacts hSuccess =>
      exact ⟨fun _ _ => hArtifacts, fun _ _ => hArtifacts,
        fun hOk hKind => absurd hKind (hSuccess hOk),
        fun target key data asked hExtracts => absurd hExtracts (hNone target key data asked)⟩
  | @taken target key data asked hExtracts hArtifacts hSuccess hResult =>
      refine ⟨fun hFailed hPaths => ?_, fun _ hKind => absurd hExtracts.kind hKind,
        fun hOk _ => ⟨target, key, data, asked, hExtracts, hResult hOk, fun other => ?_⟩,
        fun target' key' data' asked' hOther hLacks => ?_⟩
      · have hOk := hSuccess.mpr (hPaths target key data asked hExtracts)
        rw [hFailed] at hOk
        cases hOk
      · rw [hArtifacts, Assoc.get?_put]
      · obtain ⟨-, rfl, rfl, rfl⟩ := hExtracts.unique hOther
        exact ⟨Bool.eq_false_iff.mpr fun hOk => hSuccess.mp hOk hLacks, hArtifacts⟩

/-- A key with a null character in it: the step fails, and its data is there nevertheless. -/
theorem execute_keeps_data_null :
    let s : Surroundings := { respond := fun _ _ => { outcome := .ok (.arr [.str "row 1"]) } }
    let h : History := History.start "out" true
    let d : Descriptor :=
      { kind := .extract, wording := "", resolved := ""
        params := [("target", "rows"), ("variable", "a\x00b")] }
    let ended := (Outside.runIn s {} (execute {} h d .given "flow" {})).1
    ended.1.success = false ∧ h.artifacts = [] ∧
      ended.2.artifacts = [("a\x00b", .arr [.str "row 1"])] := by
  intro s h d
  have hExtracts : Extracts s {} d .given "rows" "a\x00b" (.arr [.str "row 1"]) _ :=
    ⟨by decide, rfl, by decide, rfl, by rfl⟩
  have hLacks : h.LacksPath {} "a\x00b" := by
    refine ⟨rfl, .inr ⟨⟨⟨[["out"]], [], [], {}⟩, ?_⟩, by decide⟩⟩
    exact toOption_eq_some_iff.mp (by decide +kernel)
  have hTaken := (execute_keeps_data s {} {} h d .given "flow" {}).2.2.2 _ _ _ _ hExtracts hLacks
  exact ⟨hTaken.1, rfl, hTaken.2⟩

end Dispatch

end ScenarioRunner
