import Mathlib.Logic.Basic
import Mathlib.Tactic.Push
import Mathlib.Tactic.SplitIfs
import ScenarioRunner.File.Tree
import ScenarioRunner.Proofs.Except

/-! Texts as paths. A character that no path may hold keeps a folder from being made and a file from
being written, and nothing else counts as a text that can be no path. A text without a slash names a
file in a folder; any other leads elsewhere, or names a file that has another name, too. -/
namespace ScenarioRunner

/-- What is put between texts is all that joining adds to them. -/
theorem mem_intercalate_iff {α : Type} {a between : α} (h : a ≠ between) {parts : List (List α)} :
    a ∈ [between].intercalate parts ↔ ∃ part ∈ parts, a ∈ part := by
  induction parts with
  | nil => simp
  | cons part rest ih =>
      cases rest with
      | nil => simp
      | cons next rest =>
          rw [List.intercalate_cons_cons, List.mem_append, List.mem_append, ih]
          simp [h]

namespace Path

/-- The path holds the character that no path may hold. -/
def IsBad (path : Path) : Prop := '\x00' ∈ path.text.toList

/-- A path is bad if its root or one of its parts holds a null character, and only then. -/
theorem isBad_iff {path : Path} :
    path.IsBad ↔ '\x00' ∈ path.root.toList ∨ ∃ part ∈ path.parts, '\x00' ∈ part.toList := by
  have hText : (path.root ++ "/".intercalate path.parts).toList =
      path.root.toList ++ ['/'].intercalate (path.parts.map String.toList) := by
    rw [String.toList_append, String.toList_intercalate]
    rfl
  rw [IsBad, text]
  split
  · rename_i hEmpty
    obtain ⟨hRoot, hParts⟩ : path.root = "" ∧ path.parts = [] := by simpa using hEmpty
    simp [hRoot, hParts]
  · rw [hText, List.mem_append, mem_intercalate_iff (by decide)]
    simp only [List.mem_map, exists_exists_and_eq_and]

/-- The root of a path consists of slashes. -/
theorem root_ofText (text : String) : '\x00' ∉ (ofText text).root.toList := by
  show '\x00' ∉ (rootOf text.toList).toList
  unfold rootOf
  split <;> decide

/-- What a path is read from and the path hold the same. -/
theorem isBad_ofText_iff {text : String} : (ofText text).IsBad ↔ '\x00' ∈ text.toList := by
  have hSlash : '\x00' ≠ '/' := by decide
  have hJoined : '\x00' ∈ text.toList ↔ ∃ part ∈ text.toList.splitOn '/', '\x00' ∈ part := by
    rw [← mem_intercalate_iff hSlash, List.intercalate_splitOn]
  rw [isBad_iff, hJoined, or_iff_right (root_ofText text)]
  simp only [ofText, List.mem_map, List.mem_filter]
  constructor
  · rintro ⟨_, ⟨part, ⟨hPart, -⟩, rfl⟩, hBad⟩
    exact ⟨part, hPart, by simpa using hBad⟩
  · rintro ⟨part, hPart, hBad⟩
    refine ⟨String.ofList part, ⟨part, ⟨hPart, ?_⟩, rfl⟩, by simpa using hBad⟩
    cases part with
    | nil => cases hBad
    | cons c rest =>
        -- a part that is dropped is a single point, which is another character
        have hKept : c :: rest ≠ ['.'] := by
          intro hPoint
          rw [hPoint] at hBad
          exact absurd hBad (by decide)
        simpa using hKept

/-- A path is bad if its folder is. -/
theorem IsBad.of_parent {path : Path} (h : path.parent.IsBad) : path.IsBad := by
  rw [isBad_iff] at h ⊢
  rcases h with hRoot | ⟨part, hPart, hBad⟩
  · exact .inl hRoot
  · exact .inr ⟨part, List.dropLast_subset _ hPart, hBad⟩

/-- Below a good folder a name alone decides whether a path is bad. -/
theorem isBad_child_iff {folder : Path} (hFolder : ¬ folder.IsBad) {name : String} :
    (folder.child name).IsBad ↔ '\x00' ∈ name.toList := by
  rw [← isBad_ofText_iff, child, join]
  split
  · rw [isBad_iff] at hFolder
    rw [isBad_iff, isBad_iff, or_iff_right (root_ofText name)]
    push Not at hFolder
    simp only [List.mem_append, or_and_right, exists_or]
    constructor
    · rintro (hRoot | ⟨part, hPart, hBad⟩ | hRest)
      · exact absurd hRoot hFolder.1
      · exact absurd hBad (hFolder.2 part hPart)
      · exact hRest
    · exact fun hRest => .inr (.inr hRest)
  · rfl

end Path

def IsFlatName (name : String) : Prop := '/' ∉ name.toList

instance (name : String) : Decidable (IsFlatName name) :=
  inferInstanceAs (Decidable ('/' ∉ name.toList))

def Path.file (folder : Path) (name : String) : Path := ⟨folder.root, folder.parts ++ [name]⟩

namespace Path

@[simp] theorem parent_file (folder : Path) (name : String) : (folder.file name).parent = folder := by
  simp [file, parent]

/-- Without a leading slash a path is relative. -/
theorem rootOf_of_head {s : List Char} (h : s.head? ≠ some '/') : rootOf s = "" := by
  unfold rootOf
  split <;> simp_all

/-- The ending of a file's name: it is no part of a path on its own that would be dropped. -/
structure IsEnding (ending : String) : Prop where
  flat : IsFlatName ending
  long : 2 ≤ ending.toList.length

/-- A part with an ending is kept. -/
theorem IsEnding.filter_eq {ending : String} (hEnding : IsEnding ending) (s : List Char) :
    [s ++ ending.toList].filter (fun part => !part.isEmpty && part != ['.']) =
      [s ++ ending.toList] := by
  have hLong : 2 ≤ (s ++ ending.toList).length := by
    rw [List.length_append]
    have := hEnding.long
    omega
  rw [List.filter_eq_self]
  rintro part hPart
  obtain rfl := List.mem_singleton.mp hPart
  match hWhole : s ++ ending.toList, hLong with
  | _ :: _ :: _, _ => simp

/-- A flat name with an ending is the file of that name. -/
theorem child_eq_file {ending name : String} (hEnding : IsEnding ending) (hFlat : IsFlatName name)
    (folder : Path) : folder.child (name ++ ending) = folder.file (name ++ ending) := by
  have hWhole : '/' ∉ name.toList ++ ending.toList := by
    rw [List.mem_append]
    exact not_or.mpr ⟨hFlat, hEnding.flat⟩
  have hRoot : rootOf (name.toList ++ ending.toList) = "" :=
    rootOf_of_head fun hHead => hWhole (List.mem_of_head? hHead)
  have hPath : ofText (name ++ ending) = ⟨"", [name ++ ending]⟩ := by
    rw [ofText, String.toList_append, hRoot, List.splitOn_eq_singleton hWhole, hEnding.filter_eq]
    simp
  rw [child, hPath]
  rfl

/-- A path ends in its last part, below its folder. -/
theorem eq_file_of_parts {path : Path} {parts : List String} {name : String}
    (hParts : path.parts = parts ++ [name]) : path = path.parent.file name := by
  obtain ⟨root, _⟩ := path
  obtain rfl := hParts
  simp [file, parent]

/-- Whatever is before an ending, the path leads to a file with a flat name and that ending. -/
theorem exists_child_eq_file {ending : String} (hEnding : IsEnding ending) (folder : Path)
    (text : String) : ∃ above name, IsFlatName name ∧
      folder.child (text ++ ending) = file above (name ++ ending) := by
  by_cases hFlat : IsFlatName text
  · exact ⟨folder, text, hFlat, child_eq_file hEnding hFlat folder⟩
  · -- the name is what comes after the last slash
    obtain ⟨last, before, hText, hLast⟩ :=
      List.eq_append_cons_of_mem (List.mem_reverse.mpr (not_not.mp hFlat))
    have hSplit : text.toList = before.reverse ++ '/' :: last.reverse := by
      rw [← List.reverse_reverse text.toList, hText]
      simp
    have hFlatLast : '/' ∉ last.reverse ++ ending.toList := by
      rw [List.mem_append, List.mem_reverse]
      exact not_or.mpr ⟨hLast, hEnding.flat⟩
    have hName : String.ofList (last.reverse ++ ending.toList) =
        String.ofList last.reverse ++ ending := by
      rw [String.ofList_append, String.ofList_toList]
    have hOfText : ∃ parts, (ofText (text ++ ending)).parts =
        parts ++ [String.ofList last.reverse ++ ending] := by
      refine ⟨((before.reverse.splitOn '/').filter fun part => !part.isEmpty && part != ['.']).map
        String.ofList, ?_⟩
      rw [ofText, String.toList_append, hSplit, List.append_assoc, List.cons_append,
        List.splitOn_append_cons_self, List.splitOn_eq_singleton hFlatLast, List.filter_append,
        hEnding.filter_eq, List.map_append, ← hName]
      rfl
    obtain ⟨parts, hOfText⟩ := hOfText
    have hChild : ∃ parts, (folder.child (text ++ ending)).parts =
        parts ++ [String.ofList last.reverse ++ ending] := by
      rw [child, join]
      split
      · exact ⟨folder.parts ++ parts, by rw [hOfText, List.append_assoc]⟩
      · exact ⟨parts, hOfText⟩
    obtain ⟨parts, hChild⟩ := hChild
    refine ⟨_, String.ofList last.reverse, ?_, eq_file_of_parts hChild⟩
    rw [IsFlatName, String.toList_ofList, List.mem_reverse]
    exact hLast

end Path

namespace FileTree

variable {α β : Type} {t : FileTree} {path : Path}

def Pathless (x : Except FileTrouble α) : Prop :=
  ∃ trouble, x = .error trouble ∧ trouble.isBadText = true

/-- With a result in hand there was a path. -/
theorem not_pathless_ok {a : α} : ¬ Pathless (.ok a : Except FileTrouble α) := by
  rintro ⟨trouble, hError, -⟩
  cases hError

/-- An outcome is for want of a path just when its trouble is with the text. -/
theorem pathless_error_iff {trouble : FileTrouble} :
    Pathless (.error trouble : Except FileTrouble α) ↔ trouble.isBadText = true := by
  constructor
  · rintro ⟨other, hError, hBad⟩
    rwa [Except.error.inj hError]
  · exact fun hBad => ⟨trouble, rfl, hBad⟩

/-- Other troubles are not for want of a path. -/
theorem not_pathless_error {trouble : FileTrouble} (h : trouble.isBadText = false) :
    ¬ Pathless (.error trouble : Except FileTrouble α) := by
  rw [pathless_error_iff, h]
  exact Bool.false_ne_true

/-- A sequence fails for want of a path where its first part does, or else the rest. -/
theorem pathless_bind_iff {x : Except FileTrouble α} {f : α → Except FileTrouble β} :
    Pathless (x >>= f) ↔ Pathless x ∨ ∃ a, x = .ok a ∧ Pathless (f a) := by
  cases x with
  | error trouble =>
      show Pathless (Except.error trouble) ↔ _
      simp [pathless_error_iff]
  | ok a =>
      show Pathless (f a) ↔ _
      simp [not_pathless_ok]

/-- Leaving a folder is never for want of a path. -/
theorem not_pathless_leave : ¬ Pathless (t.leave path) := by
  rw [leave]
  split_ifs
  · exact not_pathless_error rfl
  · exact not_pathless_ok

/-- A walk looks only at names that it is given. -/
theorem not_pathless_walk (full : Path) (here names : List String) :
    ¬ Pathless (t.walk full here names) := by
  induction names generalizing here with
  | nil => exact not_pathless_ok
  | cons name rest ih =>
      rw [walk]
      split_ifs
      · exact not_pathless_error rfl
      · exact not_pathless_leave
      · exact ih _
      · exact not_pathless_error rfl
      · exact not_pathless_ok
      · exact ih _
      · exact not_pathless_error rfl
      · exact not_pathless_error rfl

/-- Finding the place of a path fails for want of one just when the path is bad. -/
theorem pathless_locate_iff : Pathless (t.locate path) ↔ path.IsBad := by
  have hContains : path.text.toList.contains '\x00' = true ↔ path.IsBad := by
    rw [Path.IsBad, List.contains_iff_mem]
  rw [locate]
  split_ifs with hBad hLong hRelative
  · exact iff_of_true (pathless_error_iff.mpr rfl) (hContains.mp hBad)
  · exact iff_of_false (not_pathless_error rfl) (mt hContains.mpr hBad)
  · exact iff_of_false (not_pathless_walk _ _ _) (mt hContains.mpr hBad)
  · exact iff_of_false not_pathless_leave (mt hContains.mpr hBad)

/-- What is done at the end of a path fails for want of a path just if the path is bad. -/
theorem pathless_at_iff {f : Spot → Except FileTrouble α} (hSpot : ∀ spot, ¬ Pathless (f spot)) :
    Pathless (t.locate path >>= f) ↔ path.IsBad := by
  rw [pathless_bind_iff, pathless_locate_iff]
  exact or_iff_left fun ⟨spot, _, hPathless⟩ => hSpot spot hPathless

/-- So does looking at what is there. -/
theorem pathless_look_iff : Pathless (t.look path) ↔ path.IsBad := by
  refine pathless_at_iff fun spot => ?_
  cases spot with
  | outside path =>
      dsimp only
      split <;> exact not_pathless_ok
  | inside place =>
      dsimp only
      split
      · exact not_pathless_ok
      · split <;> exact not_pathless_ok

/-- So does making a folder. -/
theorem pathless_makeFolder_iff : Pathless (t.makeFolder path) ↔ path.IsBad := by
  refine pathless_at_iff fun spot => ?_
  cases spot with
  | outside => exact not_pathless_ok
  | inside place =>
      dsimp only
      split
      · exact not_pathless_error rfl
      · exact not_pathless_ok

/-- So does writing a file. -/
theorem pathless_write_iff {text : String} : Pathless (t.write path text) ↔ path.IsBad := by
  refine pathless_at_iff fun spot => ?_
  cases spot with
  | outside => exact not_pathless_ok
  | inside place =>
      dsimp only
      split
      · exact not_pathless_error rfl
      · exact not_pathless_ok

/-- So does making sure of a folder. -/
theorem pathless_ensureFolder_iff : Pathless (t.ensureFolder path) ↔ path.IsBad := by
  rw [← pathless_makeFolder_iff (t := t), ensureFolder]
  split
  · rename_i hMade
    rw [hMade]
  · -- a folder is found there, so the path is a path
    rename_i hFound
    have hPath : ¬ path.IsBad := by
      rw [← pathless_look_iff (t := t), hFound]
      exact not_pathless_ok
    exact iff_of_false not_pathless_ok (mt pathless_makeFolder_iff.mp hPath)
  · rename_i hTrouble _
    rw [hTrouble]

/-- A good path never lacks one while the folders above it are made. -/
theorem not_pathless_makeFoldersWithin (hPath : ¬ path.IsBad) (fuel : Nat) :
    ¬ Pathless (makeFoldersWithin fuel t path) := by
  induction fuel generalizing path with
  | zero => exact not_pathless_ok
  | succ fuel ih =>
      rw [makeFoldersWithin]
      split
      · split
        · exact not_pathless_error rfl
        · rw [pathless_bind_iff]
          rintro (hAbove | ⟨made, -, hHere⟩)
          · exact ih (fun hParent => hPath hParent.of_parent) hAbove
          · exact hPath (pathless_ensureFolder_iff.mp hHere)
      · exact mt pathless_ensureFolder_iff.mp hPath

/-- Folders are made for every path but the bad ones, as far as the text of the path is concerned.
-/
theorem pathless_makeFolders_iff : Pathless (t.makeFolders path) ↔ path.IsBad := by
  refine ⟨fun hPathless => ?_, fun hBad => ?_⟩
  · exact not_not.mp fun hPath => not_pathless_makeFoldersWithin hPath _ hPathless
  · have hHere : Pathless (t.ensureFolder path) := pathless_ensureFolder_iff.mpr hBad
    rw [makeFolders, makeFoldersWithin]
    split
    · rename_i hMissing
      rw [hMissing, pathless_error_iff] at hHere
      cases hHere
    · exact hHere

end FileTree

end ScenarioRunner
