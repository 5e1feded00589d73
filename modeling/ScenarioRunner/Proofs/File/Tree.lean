import Mathlib.Tactic.SplitIfs
import ScenarioRunner.Proofs.File.Path

/-! Files after they were written. Writing a file makes no folder and removes none, so a path leads
to the same place afterwards, and the text is there. Folders are only added, and never where a file
is, so a file stays what it is until something is written to its own place. -/
namespace ScenarioRunner.FileTree

variable {t t' : FileTree} {path : Path} {text : String}

/-- The text is in the file at the end of the path, if that is below the working folder. -/
def Holds (t : FileTree) (path : Path) (text : String) : Prop :=
  ∀ place, t.locate path = .ok (.inside place) → t.file? place = some (.text text)

/-- A path that leaves the working folder leads outside. -/
theorem eq_outside_of_leave {spot : Spot} (hLeave : t.leave path = .ok spot) :
    spot = .outside path := by
  rw [leave] at hLeave
  split_ifs at hLeave
  exact (Except.ok.inj hLeave).symm

/-- A walk that ends somewhere ends there also when there are more folders. -/
theorem walk_eq_ok_of_folders (hFolders : t.folders ⊆ t'.folders) (hBars : t'.bars = t.bars)
    {full : Path} {here names : List String} {spot : Spot}
    (hWalk : t.walk full here names = .ok spot) : t'.walk full here names = .ok spot := by
  induction names generalizing here with
  | nil => exact hWalk
  | cons name rest ih =>
      have hMore (place : List String) (hFolder : t.isFolder place = true) :
          t'.isFolder place = true := by
        simp only [isFolder, Bool.or_eq_true, List.contains_iff_mem] at hFolder ⊢
        exact hFolder.imp_right fun hMem => hFolders hMem
      rw [walk] at hWalk ⊢
      rw [hBars]
      split_ifs at hWalk with hBarred hUp hTop hLong hLast hFolder
      all_goals rw [if_neg hBarred]
      · rwa [if_pos hUp, if_pos hTop, leave, hBars]
      · rw [if_pos hUp, if_neg hTop]
        exact ih hWalk
      · rwa [if_neg hUp, if_neg hLong, if_pos hLast]
      · rw [if_neg hUp, if_neg hLong, if_neg hLast, if_pos (hMore _ hFolder)]
        exact ih hWalk

/-- More folders do not change the place that a path leads to. -/
theorem locate_eq_ok_of_folders (hFolders : t.folders ⊆ t'.folders) (hBars : t'.bars = t.bars)
    {spot : Spot} (hLocate : t.locate path = .ok spot) : t'.locate path = .ok spot := by
  rw [locate] at hLocate ⊢
  split_ifs at hLocate with hNull hLong hRelative
  · rw [if_neg hNull, if_neg hLong, if_pos hRelative]
    exact walk_eq_ok_of_folders hFolders hBars hLocate
  · rwa [if_neg hNull, if_neg hLong, if_neg hRelative, leave, hBars]

/-- What is put at a place is there. -/
theorem lookup_put {κ : Type} [BEq κ] [LawfulBEq κ] (place : κ) (content : Content)
    (files : List (κ × Content)) : (put place content files).lookup place = some content := by
  induction files with
  | nil => simp [put]
  | cons entry rest ih =>
      rw [put]
      split
      · simp
      · rename_i hOther
        have hNot : (place == entry.1) = false := by
          rw [beq_eq_false_iff_ne]
          rintro rfl
          simp at hOther
        rw [List.lookup_cons, hNot, ih]

/-- Nothing else has changed. -/
theorem lookup_put_of_ne {κ : Type} [BEq κ] [LawfulBEq κ] {place other : κ} (hOther : other ≠ place)
    (content : Content) (files : List (κ × Content)) :
    (put place content files).lookup other = files.lookup other := by
  have hNot : (other == place) = false := beq_eq_false_iff_ne.mpr hOther
  induction files with
  | nil => simp [put, List.lookup_cons, hNot]
  | cons entry rest ih =>
      rw [put]
      split
      · rename_i hSame
        rw [List.lookup_cons, List.lookup_cons, eq_of_beq hSame, hNot]
      · rw [List.lookup_cons, List.lookup_cons, ih]

/-- How a text file is written: at the end of the path, which is no folder. -/
theorem write_eq_ok_iff : t.write path text = .ok t' ↔
    (∃ place, t.locate path = .ok (.outside place) ∧
      t' = { t with elsewhere := put place (.text text) t.elsewhere }) ∨
    ∃ place, t.locate path = .ok (.inside place) ∧ t.isFolder place = false ∧
      t' = { t with files := put place (.text text) t.files } := by
  rw [write, bind_eq_ok_iff]
  constructor
  · rintro ⟨spot, hLocate, hWrite⟩
    cases spot with
    | outside place => exact .inl ⟨place, hLocate, (Except.ok.inj hWrite).symm⟩
    | inside place =>
        dsimp only at hWrite
        split_ifs at hWrite with hFolder
        exact .inr ⟨place, hLocate, Bool.eq_false_iff.mpr hFolder, (Except.ok.inj hWrite).symm⟩
  · rintro (⟨place, hLocate, rfl⟩ | ⟨place, hLocate, hFile, rfl⟩)
    · exact ⟨_, hLocate, rfl⟩
    · refine ⟨_, hLocate, ?_⟩
      dsimp only
      rw [hFile]
      rfl

/-- A path leads to the same place before and after. -/
theorem locate_eq_ok_iff_of_write (hWrite : t.write path text = .ok t') {other : Path} {spot : Spot} :
    t'.locate other = .ok spot ↔ t.locate other = .ok spot := by
  have hSame : t'.folders = t.folders ∧ t'.bars = t.bars := by
    rcases write_eq_ok_iff.mp hWrite with ⟨_, -, rfl⟩ | ⟨_, -, -, rfl⟩ <;> exact ⟨rfl, rfl⟩
  obtain ⟨hFolders, hBars⟩ := hSame
  constructor
  · exact locate_eq_ok_of_folders (hFolders ▸ List.Subset.refl _) hBars.symm
  · exact locate_eq_ok_of_folders (hFolders ▸ List.Subset.refl _) hBars

/-- A file that was written holds its text. -/
theorem holds_of_write (hWrite : t.write path text = .ok t') : t'.Holds path text := by
  intro place hPlace
  have hBefore : t.locate path = .ok (.inside place) :=
    (locate_eq_ok_iff_of_write hWrite).mp hPlace
  rcases write_eq_ok_iff.mp hWrite with ⟨found, hLocate, -⟩ | ⟨found, hLocate, -, rfl⟩
  · cases hLocate.symm.trans hBefore
  · cases hLocate.symm.trans hBefore
    exact lookup_put place (.text text) t.files

/-- The only thing done to the files is that a text is written, once its folder has been made. -/
def Wrote (t : FileTree) (folder path : Path) (text : String) (t' : FileTree) : Prop :=
  ∃ made, t.makeFolders folder = .ok made ∧ made.write path text = .ok t'

/-- So does one whose folder was made for it. -/
theorem Wrote.holds {folder : Path} (hWrote : t.Wrote folder path text t') :
    t'.Holds path text := by
  obtain ⟨made, -, hWrite⟩ := hWrote
  exact holds_of_write hWrite

/-! What stays. -/

/-- The text is in the file that is found at the end of the path, wherever that is. -/
def Stores (t : FileTree) (path : Path) (text : String) : Prop :=
  t.look path = .ok (.file (.text text))

def at? (t : FileTree) : Spot → Option Content
  | .outside place => t.elsewhere.lookup place
  | .inside place => if t.isFolder place then none else t.file? place

/-- A file is stored at a path just when the path leads to a place with its text. -/
theorem stores_iff : t.Stores path text ↔
    ∃ spot, t.locate path = .ok spot ∧ t.at? spot = some (.text text) := by
  rw [Stores, look, bind_eq_ok_iff]
  refine exists_congr fun spot => and_congr_right fun _ => ?_
  cases spot with
  | outside place =>
      dsimp only [at?]
      cases t.elsewhere.lookup place <;> simp
  | inside place =>
      dsimp only [at?]
      cases t.isFolder place with
      | true => simp
      | false => cases t.file? place <;> simp

/-- There are more folders, and nothing else is different; no folder is where a file is. -/
structure Widens (t t' : FileTree) : Prop where
  folders : t.folders ⊆ t'.folders
  files : t'.files = t.files
  elsewhere : t'.elsewhere = t.elsewhere
  bars : t'.bars = t.bars
  apart : ∀ place, t.isFolder place = false → (t.file? place).isSome = true →
    t'.isFolder place = false

/-- A tree widens itself. -/
theorem Widens.refl (t : FileTree) : t.Widens t :=
  ⟨List.Subset.refl _, rfl, rfl, rfl, fun _ hFolder _ => hFolder⟩

/-- Trees that widen one another do so together. -/
theorem Widens.trans {t₁ t₂ t₃ : FileTree} (h : t₁.Widens t₂) (h' : t₂.Widens t₃) :
    t₁.Widens t₃ where
  folders := List.Subset.trans h.folders h'.folders
  files := h'.files.trans h.files
  elsewhere := h'.elsewhere.trans h.elsewhere
  bars := h'.bars.trans h.bars
  apart place hFolder hFile := by
    apply h'.apart place (h.apart place hFolder hFile)
    rwa [file?, h.files]

/-- Widening a tree keeps the files that are stored in it. -/
theorem Widens.stores (hWidens : t.Widens t') (hStores : t.Stores path text) :
    t'.Stores path text := by
  obtain ⟨spot, hLocate, hAt⟩ := stores_iff.mp hStores
  refine stores_iff.mpr ⟨spot, locate_eq_ok_of_folders hWidens.folders hWidens.bars hLocate, ?_⟩
  cases spot with
  | outside place => rwa [at?, hWidens.elsewhere]
  | inside place =>
      dsimp only [at?] at hAt ⊢
      split_ifs at hAt with hFolder
      have hFile : (t.file? place).isSome = true := by rw [hAt]; rfl
      rw [hWidens.apart place (Bool.eq_false_iff.mpr hFolder) hFile, file?, hWidens.files]
      exact hAt

/-- A new folder widens a tree, as it stands where nothing was. -/
theorem widens_of_makeFolder (hMade : t.makeFolder path = .ok t') : t.Widens t' := by
  obtain ⟨spot, -, hMade⟩ := bind_eq_ok_iff.mp hMade
  cases spot with
  | outside place =>
      cases hMade
      exact Widens.refl t
  | inside place =>
      dsimp only at hMade
      split_ifs at hMade with hTaken
      obtain rfl := Except.ok.inj hMade
      refine ⟨List.subset_append_left _ _, rfl, rfl, rfl, fun other hFolder hFile => ?_⟩
      -- a folder is refused where a file is
      have hOther : other ≠ place := by
        rintro rfl
        rw [hFile, Bool.or_true] at hTaken
        exact hTaken rfl
      simpa [isFolder, hOther] using hFolder

/-- Making sure of a folder widens a tree, if it changes it at all. -/
theorem widens_of_ensureFolder (hMade : t.ensureFolder path = .ok t') : t.Widens t' := by
  rw [ensureFolder] at hMade
  split at hMade
  · rename_i hFirst
    obtain rfl := Except.ok.inj hMade
    exact widens_of_makeFolder hFirst
  · obtain rfl := Except.ok.inj hMade
    exact Widens.refl t
  · cases hMade

/-- Folders that are made one inside of the other widen a tree, by induction on how many. -/
theorem widens_of_makeFoldersWithin {fuel : Nat} (hMade : makeFoldersWithin fuel t path = .ok t') :
    t.Widens t' := by
  induction fuel generalizing t path t' with
  | zero =>
      obtain rfl := Except.ok.inj hMade
      exact Widens.refl t
  | succ fuel ih =>
      rw [makeFoldersWithin] at hMade
      split at hMade
      · split_ifs at hMade with hTop
        obtain ⟨above, hAbove, hHere⟩ := bind_eq_ok_iff.mp hMade
        exact (ih hAbove).trans (widens_of_ensureFolder hHere)
      · exact widens_of_ensureFolder hMade

/-- Writing to another place keeps what is stored. -/
theorem Stores.write {other : Path} {more : String} (hStores : t.Stores path text)
    (hWrite : t.write other more = .ok t')
    (hApart : ∀ spot, t.locate path = .ok spot → t.locate other ≠ .ok spot) :
    t'.Stores path text := by
  obtain ⟨spot, hLocate, hAt⟩ := stores_iff.mp hStores
  refine stores_iff.mpr ⟨spot, (locate_eq_ok_iff_of_write hWrite).mpr hLocate, ?_⟩
  rcases write_eq_ok_iff.mp hWrite with ⟨place, hPlace, rfl⟩ | ⟨place, hPlace, -, rfl⟩
  · cases spot with
    | inside found => exact hAt
    | outside found =>
        have hOther : found ≠ place := by
          rintro rfl
          exact hApart _ hLocate hPlace
        rwa [at?, lookup_put_of_ne hOther]
  · cases spot with
    | outside found => exact hAt
    | inside found =>
        have hOther : found ≠ place := by
          rintro rfl
          exact hApart _ hLocate hPlace
        rwa [at?, file?, lookup_put_of_ne hOther]

/-- What was written is stored. -/
theorem stores_of_write (hWrite : t.write path text = .ok t') : t'.Stores path text := by
  rw [stores_iff]
  rcases write_eq_ok_iff.mp hWrite with ⟨place, hPlace, hEnd⟩ | ⟨place, hPlace, hFolder, hEnd⟩
  · refine ⟨_, (locate_eq_ok_iff_of_write hWrite).mpr hPlace, ?_⟩
    rw [at?, hEnd, lookup_put]
  · refine ⟨_, (locate_eq_ok_iff_of_write hWrite).mpr hPlace, ?_⟩
    have hNone : t'.isFolder place = false := by rwa [hEnd]
    rw [at?, hNone, hEnd, file?, lookup_put]
    rfl

/-- A walk to a file ends at that name, or leaves the working folder. -/
theorem spot_of_walk {full : Path} {here names : List String} {name : String} {spot : Spot}
    (hName : name ≠ "..") (hWalk : t.walk full here (names ++ [name]) = .ok spot) :
    spot = .outside full ∨ ∃ above, spot = .inside (above ++ [name]) := by
  have hNot : (name == "..") = false := beq_eq_false_iff_ne.mpr hName
  induction names generalizing here with
  | nil =>
      rw [List.nil_append, walk, if_neg (Bool.eq_false_iff.mp hNot)] at hWalk
      split_ifs at hWalk with hBarred hLong hLast
      · exact .inr ⟨here, (Except.ok.inj hWalk).symm⟩
      · exact absurd rfl hLast
  | cons first rest ih =>
      rw [List.cons_append, walk] at hWalk
      split_ifs at hWalk with hBarred hUp hTop hLong hLast hFolder
      · exact .inl (eq_outside_of_leave hWalk)
      · exact ih hWalk
      · simp at hLast
      · exact ih hWalk

/-- Files of different names are at different places, in whatever folders they are. -/
theorem locate_file_ne {folder folder' : Path} {name name' : String} {spot : Spot}
    (hName : name ≠ "..") (hName' : name' ≠ "..") (hNe : name ≠ name')
    (hLocate : t.locate (folder.file name) = .ok spot) :
    t.locate (folder'.file name') ≠ .ok spot := by
  have hSpot {folder : Path} {name : String} (hName : name ≠ "..")
      (hLocate : t.locate (folder.file name) = .ok spot) :
      spot = .outside (folder.file name) ∨ ∃ above, spot = .inside (above ++ [name]) := by
    rw [locate] at hLocate
    split_ifs at hLocate with hNull hLong hRelative
    · exact spot_of_walk hName hLocate
    · exact .inl (eq_outside_of_leave hLocate)
  intro hLocate'
  rcases hSpot hName hLocate with rfl | ⟨above, rfl⟩
  · rcases hSpot hName' hLocate' with hSame | ⟨above, hSame⟩
    · have hParts := congrArg Path.parts (Spot.outside.inj hSame)
      exact hNe (List.append_inj_right' hParts rfl |> List.singleton_inj.mp)
    · cases hSame
  · rcases hSpot hName' hLocate' with hSame | ⟨above', hSame⟩
    · cases hSame
    · exact hNe (List.append_inj_right' (Spot.inside.inj hSame) rfl |> List.singleton_inj.mp)

/-- A file that was written together with its folder is stored. -/
theorem Wrote.stores {folder : Path} (hWrote : t.Wrote folder path text t') :
    t'.Stores path text := by
  obtain ⟨made, -, hWrite⟩ := hWrote
  exact stores_of_write hWrite

/-- A file in another place stays when one is written and its folder made before. -/
theorem Stores.wrote {folder other : Path} {more : String} (hStores : t.Stores path text)
    (hWrote : t.Wrote folder other more t')
    (hApart : ∀ t₁ : FileTree, ∀ spot, t₁.locate path = .ok spot → t₁.locate other ≠ .ok spot) :
    t'.Stores path text := by
  obtain ⟨made, hMade, hWrite⟩ := hWrote
  exact ((widens_of_makeFoldersWithin hMade).stores hStores).write hWrite (hApart made)

end ScenarioRunner.FileTree
