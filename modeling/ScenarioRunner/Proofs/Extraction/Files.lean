import ScenarioRunner.Proofs.Extraction
import ScenarioRunner.Proofs.File.Tree
import ScenarioRunner.Proofs.Page.Course

/-! The files of extracted data. A key without a slash has a file of its own in the folder of the
results, and a key that was made up has none. So as long as the keys that steps name have none either,
the data that was last taken under a key is in the file of that key. -/
namespace ScenarioRunner

open FileTree

/-! Texts without a slash. -/

namespace Text

theorem eq_toNat_of_ofNat_eq {n : Nat} {c : Char} (h : Char.ofNat n = c) (hc : c.toNat ≠ 0) :
    n = c.toNat := by
  by_cases hValid : n.isValidChar
  · rw [← h, Char.ofNat, dif_pos hValid]
    exact UInt32.toNat_ofNatLT.symm
  · rw [Char.ofNat, dif_neg hValid] at h
    exact absurd (congrArg Char.toNat h).symm hc

/-- Lower case does not bring a slash into a text. -/
theorem toLower_ne_slash {n : Nat} (hSmall : n < 128) (hc : Char.ofNat n ≠ '/') :
    (Char.ofNat n).toLower ≠ '/' := by
  revert hc
  revert n
  decide

/-- Lower-casing makes no slash. -/
theorem lowerChar_ne_slash {c : Char} (hc : c ≠ '/') : lowerChar c ≠ '/' := by
  rw [lowerChar]
  split_ifs with hSmall hDotted
  · have h := toLower_ne_slash hSmall (by rwa [Char.ofNat_toNat])
    rwa [Char.ofNat_toNat] at h
  · decide
  · split
    · rename_i run hRun
      -- no capital is that far above its small letter
      have hAbove : caseRuns.all (fun run => 48 ≤ run.first + run.shift) = true := by decide
      have hLeast : 48 ≤ run.first + run.shift := by
        have := List.all_eq_true.mp hAbove run (List.mem_of_find?_eq_some hRun)
        simpa using this
      have hFirst : run.first ≤ c.toNat := by
        have := List.find?_some hRun
        simp only [CaseRun.covers, Bool.and_eq_true, decide_eq_true_eq] at this
        exact this.1.1
      intro hSlash
      have hCode := eq_toNat_of_ofNat_eq hSlash (by decide)
      have hValue : '/'.toNat = 47 := rfl
      omega
    · exact hc

/-- Lower case keeps a text free of slashes, wherever it stands. -/
theorem slash_not_mem_lowerFrom (before : List Char) {s : List Char} (hs : '/' ∉ s) :
    '/' ∉ lowerFrom before s := by
  induction s generalizing before with
  | nil => exact List.not_mem_nil
  | cons c rest ih =>
      obtain ⟨hc, hRest⟩ := not_or.mp (mt List.mem_cons.mpr hs)
      rw [lowerFrom, List.mem_append]
      apply not_or.mpr ⟨?_, ih (c :: before) hRest⟩
      split_ifs
      · decide
      · decide
      · decide
      · rw [List.mem_singleton]
        exact (lowerChar_ne_slash (Ne.symm hc)).symm

/-- Trimming keeps a text free of slashes. -/
theorem slash_not_mem_trimWhere (p : Char → Bool) {s : List Char} (hs : '/' ∉ s) :
    '/' ∉ trimWhere p s := by
  intro hMem
  have hInner := List.dropWhile_sublist _ |>.subset (List.mem_reverse.mp hMem)
  exact hs (List.dropWhile_sublist _ |>.subset (List.mem_reverse.mp hInner))

end Text

/-- A name is flat just when its parts are. -/
theorem isFlatName_append {name more : String} :
    IsFlatName (name ++ more) ↔ IsFlatName name ∧ IsFlatName more := by
  rw [IsFlatName, String.toList_append, List.mem_append, not_or]
  rfl

theorem isFlatName_ofList {s : List Char} : IsFlatName (String.ofList s) ↔ '/' ∉ s := by
  rw [IsFlatName, String.toList_ofList]

/-- Identifiers are flat, being hexadecimal digits. -/
theorem isFlatName_idText (width n : Nat) : IsFlatName (idText width n) := by
  rw [idText, isFlatName_ofList]
  intro hMem
  rcases List.mem_append.mp (List.mem_of_mem_take hMem) with hMem | hMem
  · exact Text.not_mem_hex (by decide) 6 n hMem
  · cases List.eq_of_mem_replicate hMem

/-- Numbers are flat, being decimal digits. -/
theorem isFlatName_toString (n : Nat) : IsFlatName (toString n) := by
  rw [Nat.toString_eq_ofList_toDigits, isFlatName_ofList]
  intro hMem
  exact absurd (Nat.isDigit_of_mem_toDigits (by decide) (by decide) hMem) (by decide)

namespace History

/-- A cleaned word is free of slashes, since runs of all such characters become one underscore. -/
theorem slash_not_mem_cleanWord (inGap : Bool) (s : List Char) : '/' ∉ cleanWord inGap s := by
  induction s generalizing inGap with
  | nil => exact List.not_mem_nil
  | cons c rest ih =>
      rw [cleanWord]
      split_ifs with hWord hGap
      · rw [List.mem_cons, not_or]
        refine ⟨?_, ih false⟩
        rintro rfl
        exact absurd hWord (by decide)
      · exact ih true
      · rw [List.mem_cons, not_or]
        exact ⟨by decide, ih true⟩

/-- What a key tells of its target has no slash, whatever the target is. -/
theorem isFlatName_keyWord (target : String) : IsFlatName (keyWord target) := by
  rw [keyWord]
  split_ifs
  · decide
  · apply isFlatName_ofList.mpr
    exact Text.slash_not_mem_lowerFrom [] (Text.slash_not_mem_trimWhere _
      (slash_not_mem_cleanWord false target.toList))

/-- A fresh key is flat, whatever target it is made of. -/
theorem isFlatName_freshKey (s : Surroundings) (w : World) (target : String) :
    IsFlatName (Outside.runIn s w (freshKey target)).1 := by
  show IsFlatName s!"extracted_{keyWord target}_{w.clock}_{idText 6 (w.ids + 1)}"
  have hStart : IsFlatName "extracted_" := by decide
  have hJoint : IsFlatName "_" := by decide
  simp only [isFlatName_append]
  exact ⟨⟨⟨⟨⟨hStart, isFlatName_keyWord target⟩, hJoint⟩, isFlatName_toString w.clock⟩, hJoint⟩,
    isFlatName_idText 6 (w.ids + 1)⟩

theorem isEnding_json : Path.IsEnding ".json" := ⟨by decide, by decide⟩

/-- The file of a flat key is in the folder of the results itself, and has the key as its name. -/
theorem artifactPath_eq_file (h : History) {key : String} (hFlat : IsFlatName key) :
    h.artifactPath key = h.resultsDir.file (key ++ ".json") :=
  Path.child_eq_file isEnding_json hFlat h.resultsDir

/-- Flat keys have files of their own. -/
theorem apart_artifactPath (h : History) {key other : String} (hFlat : IsFlatName key)
    (hOther : IsFlatName other) (hNe : key ≠ other) (t : FileTree) (spot : Spot)
    (hLocate : t.locate (h.artifactPath key) = .ok spot) :
    t.locate (h.artifactPath other) ≠ .ok spot := by
  have hName (key : String) : key ++ ".json" ≠ ".." := by
    intro hEq
    have hLast := congrArg (fun name : String => name.toList.getLast?) hEq
    simp at hLast
  rw [artifactPath_eq_file h hFlat] at hLocate
  rw [artifactPath_eq_file h hOther]
  apply locate_file_ne (hName key) (hName other) ?_ hLocate
  intro hEq
  exact hNe (String.append_left_inj ".json" |>.mp hEq)

/-- Any other key leads out of the folder of the results, or to the file of another key. -/
theorem strays_of_not_isFlatName (h : History) {key : String} (hSlash : ¬ IsFlatName key) :
    (h.artifactPath key).parent ≠ h.resultsDir ∨
      ∃ other, IsFlatName other ∧ other ≠ key ∧ h.artifactPath other = h.artifactPath key := by
  obtain ⟨above, name, hName, hPath⟩ := Path.exists_child_eq_file isEnding_json h.resultsDir key
  have hFile : h.artifactPath key = above.file (name ++ ".json") := hPath
  by_cases hAbove : above = h.resultsDir
  · refine .inr ⟨name, hName, ?_, ?_⟩
    · rintro rfl
      exact hSlash hName
    · rw [artifactPath_eq_file h hName, hFile, hAbove]
  · rw [hFile, Path.parent_file]
    exact .inl hAbove

end History

/-! What keeps a file. -/

namespace Outside

variable {α β : Type} {path : Path} {text : String}

/-- Wherever the computation runs, the text stays in the file at the end of the path. -/
def Spares (path : Path) (text : String) (x : Outside α) : Prop :=
  ∀ s w, w.files.Stores path text → (runIn s w x).2.files.Stores path text

/-- What leaves the files alone spares every file. -/
theorem spares_of_files {x : Outside α} (h : ∀ s w, (runIn s w x).2.files = w.files) :
    Spares path text x := by
  intro s w hStores
  rwa [h]

/-- A file is spared by a sequence if both of its parts spare it. -/
theorem spares_bind {x : Outside α} {f : α → Outside β} (hFirst : Spares path text x)
    (hRest : ∀ a, Spares path text (f a)) : Spares path text (x >>= f) :=
  fun s w hStores => hRest _ s _ (hFirst s w hStores)

/-- Writing to a place of its own spares a file, also when it fails. -/
theorem spares_writeInto {folder file : Path} {more : String}
    (hApart : ∀ t : FileTree, ∀ spot, t.locate path = .ok spot → t.locate file ≠ .ok spot) :
    Spares path text (writeInto folder file more) := by
  intro s w hStores
  rw [writeInto, runIn_bind, runIn_changeFiles]
  cases hMade : w.files.makeFolders folder with
  | error trouble => exact hStores
  | ok made =>
      have hKept : made.Stores path text := (widens_of_makeFoldersWithin hMade).stores hStores
      dsimp only
      rw [runIn_changeFiles]
      cases hWrite : made.write file more with
      | error trouble => exact hKept
      | ok written => exact hKept.write hWrite (hApart made)

end Outside

namespace Attempt

variable {α β : Type} {path : Path} {text : String}

def Spares (path : Path) (text : String) (x : Attempt α) : Prop := Outside.Spares path text x.run

theorem spares_of_files {x : Attempt α} (h : ∀ s w, (runIn s w x).2.files = w.files) :
    Spares path text x :=
  Outside.spares_of_files h

theorem spares_pure (a : α) : Spares path text (pure a) := spares_of_files fun _ _ => rfl

theorem spares_throw (fault : Fault) : Spares path text (throw fault : Attempt α) :=
  spares_of_files fun _ _ => rfl

theorem spares_ofExcept (e : Except Fault α) : Spares path text (ofExcept e) :=
  spares_of_files fun _ _ => rfl

theorem spares_call (c : Call) : Spares path text (call c) := spares_of_files fun _ _ => rfl

theorem spares_lift {x : Outside α} (h : Outside.Spares path text x) :
    Spares path text (liftM x : Attempt α) := h

theorem spares_outcome {x : Attempt α} (h : Spares path text x) : Spares path text x.outcome := h

theorem spares_bind {x : Attempt α} {f : α → Attempt β} (hFirst : Spares path text x)
    (hRest : ∀ a, Spares path text (f a)) : Spares path text (x >>= f) := by
  show Outside.Spares path text (x >>= f).run
  rw [ExceptT.run_bind]
  refine Outside.spares_bind hFirst fun outcome => ?_
  cases outcome with
  | error fault => exact Outside.spares_of_files fun _ _ => rfl
  | ok a => exact hRest a

end Attempt

open Attempt

/-! Sessions. The only file that taking data from a page leaves is the log of the exchange. -/

section Session

variable {folder : Path} {name text : String}

theorem ModelClient.isEnding_log : Path.IsEnding ".log" := ⟨by decide, by decide⟩

/-- A log is in no file of extracted data. -/
theorem ModelClient.spares_saveExchange (number : Nat) (system message reply error : String) :
    Outside.Spares (folder.file (name ++ ".json")) text
      (saveExchange number system message reply error) := by
  refine Outside.spares_bind (Outside.spares_of_files fun _ _ => rfl) fun clock =>
    Outside.spares_bind (Outside.spares_of_files fun _ _ => rfl) fun w => ?_
  refine Outside.spares_bind (Outside.spares_writeInto fun t spot hLocate => ?_) fun _ =>
    Outside.spares_of_files fun _ _ => rfl
  obtain ⟨above, log, -, hLog⟩ := Path.exists_child_eq_file isEnding_log
    (w.debugDir.getD Outside.standardDebugDir)
    (s!"ai_call_{Timestamp.inFileName clock}_{Timestamp.padded 3 number}")
  have hPoints (name ending : String) (c : Char) (hEnding : ending.toList.getLast? = some c)
      (hc : c ≠ '.') : name ++ ending ≠ ".." := by
    intro hEq
    have hLast := congrArg (fun name : String => name.toList.getLast?) hEq
    simp [List.getLast?_append, hEnding, hc] at hLast
  have hNe : name ++ ".json" ≠ log ++ ".log" := by
    intro hEq
    have hLast := congrArg (fun name : String => name.toList.getLast?) hEq
    simp at hLast
  change t.locate ((w.debugDir.getD Outside.standardDebugDir).child
    (s!"ai_call_{Timestamp.inFileName clock}_{Timestamp.padded 3 number}" ++ ".log")) ≠ .ok spot
  rw [hLog]
  exact locate_file_ne (hPoints name _ 'n' rfl (by decide)) (hPoints log _ 'g' rfl (by decide)) hNe
    hLocate

/-- The exchanges with the model go to files of another ending, so they spare all files of data. -/
theorem ModelClient.spares_completeJson (c : ModelClient) (system message : String)
    (maxTokens : Option Int) (temperature : Json) :
    Spares (folder.file (name ++ ".json")) text
      (c.completeJson system message maxTokens temperature) := by
  refine spares_bind ?_ fun _ => spares_ofExcept _
  refine spares_bind (spares_of_files fun _ _ => rfl) fun asked =>
    spares_bind (spares_outcome (spares_call _)) fun outcome => ?_
  cases outcome with
  | ok v =>
      exact spares_bind (spares_lift (spares_saveExchange _ _ _ _ _)) fun _ => spares_pure _
  | error fault =>
      dsimp only
      split
      · exact spares_bind (spares_lift (spares_saveExchange _ _ _ _ _)) fun _ => spares_throw _
      · exact spares_throw _

/-- A decision spares the files of data, as it writes no more than its exchange. -/
theorem PageSession.spares_decide (p : PageSession) (instruction question : String) :
    Spares (folder.file (name ++ ".json")) text (p.decide instruction question) := by
  refine spares_bind (spares_ofExcept _) fun client =>
    spares_bind (spares_outcome (client.spares_completeJson _ _ _ _)) fun outcome => ?_
  cases outcome with
  | ok decision => exact spares_pure _
  | error fault =>
      dsimp only
      split <;> exact spares_throw _

/-- Taking data from a page writes none of the files of data itself. -/
theorem Session.spares_extract (session : Session) (target : String) (shape : Reply) :
    Spares (folder.file (name ++ ".json")) text (session.extract target shape) := by
  cases session with
  | given => exact spares_call _
  | page p =>
      exact spares_bind (spares_ofExcept _) fun _ => spares_bind (spares_call _) fun _ =>
        spares_bind (spares_of_files fun _ _ => rfl) fun _ => spares_bind (spares_ofExcept _) fun _ =>
          spares_bind (p.spares_decide _ _) fun _ => spares_ofExcept _

end Session

namespace History

variable {s : Surroundings} {w : World} {h : History} {key : String} {data : Json} {files : FileTree}

/-- Where the file of data can be written, it is. -/
theorem runIn_persistArtifact_of_wrote (hPersist : h.persist = true)
    (hWrote : w.files.Wrote h.resultsDir (h.artifactPath key)
      (artifactJson key data w.clock).indented files) :
    Attempt.runIn s w (h.persistArtifact key data) =
      (.ok (some (h.artifactPath key)), { w with files }) := by
  obtain ⟨made, hMade, hWrite⟩ := hWrote
  have hInto : Outside.runIn s w (Outside.writeInto h.resultsDir (h.artifactPath key)
      (artifactJson key data w.clock).indented) = (.ok (), { w with files }) := by
    rw [Outside.writeInto, Outside.runIn_bind, Outside.runIn_changeFiles, hMade]
    dsimp only
    rw [Outside.runIn_changeFiles, hWrite]
  rw [persistArtifact, if_pos hPersist, writeArtifact, Attempt.runIn_bind, Attempt.runIn_lift,
    Outside.runIn_now]
  dsimp only
  rw [Attempt.runIn_bind, Attempt.runIn_reported, hInto]
  rfl

end History

namespace Dispatch

variable {s : Surroundings} {w asked : World} {h : History} {d : Descriptor} {session : Session}
  {target key : String} {data : Json} {files : FileTree} (config : Config) (workflow : String)
  (context : Context)

/-- Choosing a key takes no time. -/
theorem clock_storageKey (d : Descriptor) (target : String) (w : World) :
    (Outside.runIn s w (storageKey d target)).2.clock = w.clock := by
  rw [storageKey]
  cases d.filled? "variable" <;> rfl

/-- A step that takes data, the file of which can be written, keeps the data and writes the file. -/
theorem Extracts.runIn_execute (hExtracts : Extracts s w d session target key data asked)
    (hPersist : h.persist = true)
    (hWrote : asked.files.Wrote h.resultsDir (h.artifactPath key)
      (History.artifactJson key data asked.clock).indented files) :
    let ended := Outside.runIn s w (execute config h d session workflow context)
    ended.2.files = files ∧ ended.1.2.artifacts = h.artifacts.put key data ∧
      ended.1.2.resultsDir = h.resultsDir ∧ ended.1.2.persist = true := by
  obtain ⟨other, hTarget, hPerform⟩ :=
    exists_target config h session context hExtracts.isValid hExtracts.kind
  obtain rfl : other = target := Option.some.inj (hTarget.symm.trans hExtracts.param)
  obtain rfl := hExtracts.stored
  have hRun := runIn_extract_of_persisted (h := h) (d := d) hExtracts.returned
    (@History.runIn_persistArtifact_of_wrote _ _ _ _ _ files hPersist (by
      rw [files_storageKey, clock_storageKey]
      exact hWrote))
  rw [← hPerform] at hRun
  rw [runIn_execute_of_isValid s w config h d session workflow context hExtracts.isValid hRun]
  exact ⟨rfl, rfl, rfl, hPersist⟩

/-- Data is taken by one step after another, and each time its file is written. A key that a step
names has no slash. -/
inductive Taken (s : Surroundings) (dir : String) : World → History → Prop
  | start (w : World) : Taken s dir w (History.start dir true)
  | step {w asked : World} {h : History} {d : Descriptor} {session : Session}
      {target key : String} {data : Json} {files : FileTree} (config : Config) (workflow : String)
      (context : Context) (hTaken : Taken s dir w h)
      (hNamed : ∀ name, d.filled? "variable" = some name → IsFlatName name)
      (hExtracts : Extracts s w d session target key data asked)
      (hWrote : asked.files.Wrote h.resultsDir (h.artifactPath key)
        (History.artifactJson key data asked.clock).indented files) :
      Taken s dir (Outside.runIn s w (execute config h d session workflow context)).2
        (Outside.runIn s w (execute config h d session workflow context)).1.2

/-- A key has no slash if the one that the step may name has none. -/
theorem Extracts.isFlatName (hExtracts : Extracts s w d session target key data asked)
    (hNamed : ∀ name, d.filled? "variable" = some name → IsFlatName name) : IsFlatName key := by
  have hKey := hExtracts.stored
  rw [storageKey] at hKey
  cases hVariable : d.filled? "variable" with
  | some name =>
      rw [hVariable] at hKey
      exact hKey ▸ hNamed name hVariable
  | none =>
      rw [hVariable] at hKey
      exact hKey ▸ History.isFlatName_freshKey s asked target

/-- What holds after every step: files are wanted, all keys are flat, and each key with data has it
in its file. -/
structure Filed (w : World) (h : History) : Prop where
  persist : h.persist = true
  flat : ∀ key data, h.artifacts.get? key = some data → IsFlatName key
  stored : ∀ key data, h.artifacts.get? key = some data →
    ∃ clock, w.files.Stores (h.artifactPath key) (History.artifactJson key data clock).indented

/-- One more extraction keeps every file in step: its own file holds what was taken, and keys at
other places are spared. -/
theorem Filed.step (hFiled : Filed w h)
    (hNamed : ∀ name, d.filled? "variable" = some name → IsFlatName name)
    (hExtracts : Extracts s w d session target key data asked)
    (hWrote : asked.files.Wrote h.resultsDir (h.artifactPath key)
      (History.artifactJson key data asked.clock).indented files) :
    let ended := Outside.runIn s w (execute config h d session workflow context)
    Filed ended.2 ended.1.2 := by
  intro ended
  have hKey : IsFlatName key := hExtracts.isFlatName hNamed
  obtain ⟨hFiles, hArtifacts, hDir, hPersist⟩ : ended.2.files = files ∧
      ended.1.2.artifacts = h.artifacts.put key data ∧ ended.1.2.resultsDir = h.resultsDir ∧
        ended.1.2.persist = true :=
    hExtracts.runIn_execute config workflow context hFiled.persist hWrote
  have hPath (key : String) : ended.1.2.artifactPath key = h.artifactPath key := by
    rw [History.artifactPath, hDir]
    rfl
  refine ⟨hPersist, fun other found hFound => ?_, fun other found hFound => ?_⟩
  · rw [hArtifacts, Assoc.get?_put] at hFound
    split_ifs at hFound with hSame
    · rwa [hSame]
    · exact hFiled.flat other found hFound
  · rw [hArtifacts, Assoc.get?_put] at hFound
    rw [hPath, hFiles]
    split_ifs at hFound with hSame
    · obtain rfl := hSame
      obtain rfl := Option.some.inj hFound
      exact ⟨asked.clock, hWrote.stores⟩
    · -- the file of another key is spared by the session and by the new file
      obtain ⟨clock, hStores⟩ := hFiled.stored other found hFound
      have hOther : IsFlatName other := hFiled.flat other found hFound
      have hAsked : asked.files.Stores (h.artifactPath other)
          (History.artifactJson other found clock).indented := by
        have hSpared : Spares (h.artifactPath other)
            (History.artifactJson other found clock).indented
            (session.extract target (.ofText (shapeOf target))) := by
          rw [History.artifactPath_eq_file h hOther]
          exact session.spares_extract target (.ofText (shapeOf target))
        replace hSpared := hSpared s { w with ids := w.ids + 1 }
        have hRun := hExtracts.returned
        rw [Attempt.runIn] at hRun
        rw [hRun] at hSpared
        exact hSpared hStores
      exact ⟨clock, hAsked.wrote hWrote (History.apart_artifactPath h hOther hKey hSame)⟩

/-- After any number of extractions every key has a file with the data that was last taken under it.
-/
theorem Taken.filed {dir : String} (hTaken : Taken s dir w h) : Filed w h := by
  induction hTaken with
  | start w => exact ⟨rfl, fun _ _ hFound => (by cases hFound), fun _ _ hFound => by cases hFound⟩
  | step config workflow context hTaken hNamed hExtracts hWrote ih =>
      exact ih.step config workflow context hNamed hExtracts hWrote

/-- As long as no step names a key with a slash in it, each file of extracted data is in the folder
of the results itself, no two keys share one, and after any number of steps the file of every key
holds that key and the data that was last taken under it. Keys that are made up have no slash, whatever
the target is; a key with a slash leads out of the folder or to the file of another key. -/
theorem Taken.own_files {dir : String} (hTaken : Taken s dir w h) :
    (∀ key data, h.artifacts.get? key = some data →
      (h.artifactPath key).parent = h.resultsDir ∧
        ∃ clock, w.files.Stores (h.artifactPath key)
          (History.artifactJson key data clock).indented) ∧
    (∀ key other, IsFlatName key → IsFlatName other → key ≠ other → ∀ (t : FileTree) spot,
      t.locate (h.artifactPath key) = .ok spot → t.locate (h.artifactPath other) ≠ .ok spot) ∧
    (∀ s w target, IsFlatName (Outside.runIn s w (History.freshKey target)).1) ∧
    ∀ key, ¬ IsFlatName key → (h.artifactPath key).parent ≠ h.resultsDir ∨
      ∃ other, IsFlatName other ∧ other ≠ key ∧ h.artifactPath other = h.artifactPath key := by
  refine ⟨fun key data hFound => ?_, fun key other => History.apart_artifactPath h,
    History.isFlatName_freshKey, fun key => History.strays_of_not_isFlatName h⟩
  have hFiled := hTaken.filed
  refine ⟨?_, hFiled.stored key data hFound⟩
  rw [History.artifactPath_eq_file h (hFiled.flat key data hFound), Path.parent_file]

def counting : Surroundings where
  respond calls _ := { outcome := .ok (.ofNat calls.length) }

def rowsUnder (key : String) : Descriptor :=
  { kind := .extract, wording := "", resolved := ""
    params := [("target", "rows"), ("variable", key)] }

def afterRows (key : String) (before : World × History) : World × History :=
  let ended :=
    Outside.runIn counting before.1 (execute {} before.2 (rowsUnder key) .given "flow" {})
  (ended.2, ended.1.2)

/-- Taking rows under a flat key, where the file can be written, is one more extraction. -/
theorem taken_afterRows (key : String) (before : World × History)
    (hValid : (rowsUnder key).isValid = true)
    (hKey : (rowsUnder key).filled? "variable" = some key) (hFlat : IsFlatName key)
    (hTaken : Taken counting "out" before.1 before.2)
    (hWrites : (before.1.files.makeFolders before.2.resultsDir >>= fun made =>
      made.write (before.2.artifactPath key) (History.artifactJson key
        (.ofNat before.1.calls.length) before.1.clock).indented).toOption.isSome = true) :
    Taken counting "out" (afterRows key before).1 (afterRows key before).2 ∧
      (afterRows key before).2.artifacts =
        before.2.artifacts.put key (.ofNat before.1.calls.length) := by
  obtain ⟨files, hMade⟩ := isSome_toOption_iff.mp hWrites
  obtain ⟨asked, hReturned, hFiles, hClock⟩ : ∃ asked, Attempt.runIn counting
      { before.1 with ids := before.1.ids + 1 } (Session.given.extract "rows" (.ofText
        (shapeOf "rows"))) = (.ok (.ofNat before.1.calls.length), asked) ∧
      asked.files = before.1.files ∧ asked.clock = before.1.clock := ⟨_, rfl, rfl, rfl⟩
  have hWrote : asked.files.Wrote before.2.resultsDir (before.2.artifactPath key)
      (History.artifactJson key (.ofNat before.1.calls.length) asked.clock).indented files := by
    rw [hFiles, hClock]
    exact bind_eq_ok_iff.mp hMade
  have hNamed (name : String) (hName : (rowsUnder key).filled? "variable" = some name) :
      IsFlatName name := Option.some.inj (hKey.symm.trans hName) ▸ hFlat
  have hExtracts : Extracts counting before.1 (rowsUnder key) .given "rows" key
      (.ofNat before.1.calls.length) asked :=
    ⟨hValid, rfl, rfl, hReturned, by rw [storageKey, hKey]; rfl⟩
  have hStep := Taken.step {} "flow" {} hTaken hNamed hExtracts hWrote
  obtain ⟨-, hKept, -⟩ := hExtracts.runIn_execute {} "flow" {} hTaken.filed.persist hWrote
  simp only [afterRows]
  exact ⟨hStep, hKept⟩

/-- Rows are taken under a key, under another one, and under the first one once more. The file of the
first key has what was taken last, and that of the other one has its own rows. -/
theorem own_files_rows :
    let ended := afterRows "a" (afterRows "b" (afterRows "a" ({}, History.start "out" true)))
    (∃ clock, ended.1.files.Stores (ended.2.artifactPath "a")
      (History.artifactJson "a" (.ofNat 2) clock).indented) ∧
    ∃ clock, ended.1.files.Stores (ended.2.artifactPath "b")
      (History.artifactJson "b" (.ofNat 1) clock).indented := by
  have hNone : Taken counting "out" ({} : World) (History.start "out" true) := .start {}
  obtain ⟨hTaken, hFirst⟩ := taken_afterRows "a" ({}, History.start "out" true) (by decide)
    (by decide) (by decide) hNone (by decide +kernel)
  obtain ⟨hTaken, hSecond⟩ := taken_afterRows "b" _ (by decide) (by decide) (by decide) hTaken
    (by decide +kernel)
  obtain ⟨hTaken, hThird⟩ := taken_afterRows "a" _ (by decide) (by decide) (by decide) hTaken
    (by decide +kernel)
  have hOne : (afterRows "a" ({}, History.start "out" true)).1.calls.length = 1 := by
    decide +kernel
  have hTwo : (afterRows "b" (afterRows "a" ({}, History.start "out" true))).1.calls.length = 2 := by
    decide +kernel
  rw [hSecond, hFirst, hOne, hTwo] at hThird
  have hHeld := hTaken.own_files.1
  exact ⟨(hHeld "a" (.ofNat 2) (hThird ▸ rfl)).2, (hHeld "b" (.ofNat 1) (hThird ▸ rfl)).2⟩

end Dispatch

end ScenarioRunner
