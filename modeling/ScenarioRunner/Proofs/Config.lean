import ScenarioRunner.Config
import ScenarioRunner.Proofs.File.Tree
import ScenarioRunner.Proofs.Json.Writing

/-! Saving a configuration and loading it again. The file holds the text of one JSON object, which
reading a file leaves alone since no line of it ends in another way than by a newline; every field of
the object passes the check that it meets on loading. -/
namespace ScenarioRunner

namespace FileTree

/-- Lines that end in newlines are left alone. -/
theorem unifyNewlines_of_return_not_mem {s : List Char} (h : '\r' ∉ s) : unifyNewlines s = s := by
  induction s with
  | nil => rfl
  | cons c rest ih =>
      obtain ⟨hHead, hRest⟩ : '\r' ≠ c ∧ '\r' ∉ rest := by simpa using h
      rw [unifyNewlines, ih hRest]
      · exact fun tail hc _ => hHead hc.symm
      · exact fun hc => hHead hc.symm

variable {t : FileTree} {path : Path} {text : String}

/-- A path at which a file is stored exists. -/
theorem Stores.exists? (hStores : t.Stores path text) : t.exists? path = .ok true := by
  rw [FileTree.exists?, find?, hStores]
  rfl

/-- What is read from a file is its text with all ends of lines made one. -/
theorem Stores.read (hStores : t.Stores path text) :
    t.read path = .ok (String.ofList (unifyNewlines text.toList)) := by
  rw [FileTree.read, contentAt, hStores]
  rfl

end FileTree

namespace Checked

/-- A table of texts is read back. -/
theorem table_text_ofAssoc (m : Assoc String) : table text (.ofAssoc m) = .good m := by
  have hAll (m : Assoc String) : all ((m.mapValues Json.str).map fun entry =>
      (fun value => (entry.1, value)) <$> (text entry.2).under entry.1) = .good m := by
    induction m with
    | nil => rfl
    | cons entry rest ih =>
        rw [Assoc.mapValues, List.map_cons, List.map_cons, all]
        rw [Assoc.mapValues] at ih
        rw [ih]
        rfl
  exact hAll m

/-- A text that may be missing is read back as it was, missing or not. -/
theorem optional_text_ofOption (s : Option String) :
    optional text (.ofOption s) = .good s := by
  cases s <;> rfl

/-- A field that is there and passes its check gives its value, whatever the default. -/
theorem get_eq_good {α : Type} {fields : Assoc Json} {name : String} {v : Json}
    {read : Json → Checked α} {a : α} (hField : fields.get? name = some v) (hRead : read v = good a)
    (default : α) : get fields name read default = good a := by
  rw [get, hField]
  show (read v).under name = _
  rw [hRead]
  rfl

end Checked

namespace Config

variable {c : Config}

/-- A configuration that there can be, with integers that can be printed: at least one case runs at a
time, and no two values have one name. -/
structure Valid (c : Config) : Prop where
  cases : 1 ≤ c.maxParallelCases
  names : c.values.keys.Nodup
  printable : ∀ n ∈ [c.maxParallelCases, c.viewportWidth, c.viewportHeight, c.aiMaxTokens],
    Json.IsPrintable n

def written (c : Config) : Assoc Json :=
  match c.toJson with
  | .obj fields => fields
  | _ => []

/-- A configuration writes each of its fields once. -/
theorem nodup_written : c.written.keys.Nodup := by
  simp [written, toJson, Assoc.keys]

/-- Every field that is written passes the check that it meets on loading. -/
theorem ofFields_written (hCases : 1 ≤ c.maxParallelCases) : ofFields c.written = .good c := by
  have hField {α : Type} (read : Json → Checked α) {name : String} {v : Json} {a : α} (i : Nat)
      (hAt : c.written[i]? = some (name, v)) (hRead : read v = .good a) (default : α) :
      Checked.get c.written name read default = .good a :=
    Checked.get_eq_good (Assoc.get?_eq_some_of_mem nodup_written (List.mem_of_getElem? hAt)) hRead
      default
  -- a field is found by its place among those that are written
  have hText {name s : String} (i : Nat) (hAt : c.written[i]? = some (name, .str s)) :=
    hField .text i hAt rfl
  have hInt {name : String} {n : Int} (i : Nat) (hAt : c.written[i]? = some (name, .int n)) :=
    hField .int i hAt rfl
  have hBool {name : String} {b : Bool} (i : Nat) (hAt : c.written[i]? = some (name, .bool b)) :=
    hField .bool i hAt rfl
  have hFile := Checked.optional_text_ofOption c.patternsFile
  have hCases : (Checked.int (.int c.maxParallelCases)).ensure (1 ≤ ·) =
      .good c.maxParallelCases := if_pos (decide_eq_true hCases)
  have hValues := Checked.table_text_ofAssoc c.values
  dsimp only [ofFields]
  rw [hText 0 rfl, hField _ 1 rfl hFile, hText 2 rfl, hBool 3 rfl, hField _ 4 rfl hCases, hBool 5 rfl,
    hBool 6 rfl, hInt 7 rfl, hInt 8 rfl, hText 9 rfl, hInt 10 rfl, hText 11 rfl,
    hField _ 12 rfl hValues]
  rfl

/-- What a configuration writes is read back as the same configuration, as long as its cases may be
run at all. -/
theorem ofJson_toJson (hCases : 1 ≤ c.maxParallelCases) : ofJson c.toJson = .ok c := by
  have hGood := ofFields_written hCases
  have hObject : c.toJson = .obj c.written := rfl
  rw [hObject]
  unfold ofJson
  simp only [hGood]

/-- A valid configuration is data that can be written as text and read again. -/
theorem Valid.writable (h : c.Valid) : c.toJson.Writable := by
  have hFile : (Json.ofOption c.patternsFile).Writable := by
    cases c.patternsFile with
    | none => exact .null
    | some s => exact .str s
  have hValues : (Json.ofAssoc c.values).Writable := by
    apply Json.Writable.obj
    · simpa [Assoc.keys, Assoc.mapValues, Function.comp_def] using h.names
    · intro field hField
      obtain ⟨entry, -, rfl⟩ := List.mem_map.mp hField
      exact .str entry.2
  have hNumbers := h.printable
  simp only [List.mem_cons, List.not_mem_nil, or_false, forall_eq_or_imp, forall_eq] at hNumbers
  apply Json.Writable.obj nodup_written
  simp [written, toJson, hFile, hValues, hNumbers, Json.Writable.str, Json.Writable.bool,
    Json.Writable.int]

/-- The text of a valid configuration is a document, and reads as what was written. -/
theorem Valid.readDocument (h : c.Valid) : Config.readDocument c.toJson.indented = .ok c.toJson := by
  rw [Config.readDocument, Json.indented, String.toList_ofList, h.writable.readDocument_writeIn]

/-- Loading reads the document of the file. -/
theorem load_eq {files : FileTree} {path text : String}
    (hThere : files.exists? (.ofText path) = .ok true)
    (hRead : files.read (.ofText path) = .ok text) :
    load files path = Config.readDocument text >>= ofJson := by
  rw [load, hThere, hRead]
  rfl

/-- A configuration is saved once its folder is made, where no folder is in the way. -/
theorem save_eq_ok (c : Config) {files made : FileTree} {path : Path} {place : List String}
    (hMade : files.makeFolders path.parent = .ok made)
    (hPlace : made.locate path = .ok (.inside place)) (hFile : made.isFolder place = false) :
    ∃ saved, c.save files path = .ok saved :=
  ⟨_, bind_eq_ok_iff.mpr ⟨made, hMade,
    FileTree.write_eq_ok_iff.mpr (.inr ⟨place, hPlace, hFile, rfl⟩)⟩⟩

/-- What was saved is loaded, wherever it was saved and whatever there was before. -/
theorem Valid.load_of_save (h : c.Valid) {files saved : FileTree} {path : String}
    (hSave : c.save files (.ofText path) = .ok saved) : load saved path = .ok c := by
  obtain ⟨made, -, hWrite⟩ := bind_eq_ok_iff.mp hSave
  have hStores := FileTree.stores_of_write hWrite
  have hRead : saved.read (.ofText path) = .ok c.toJson.indented := by
    rw [hStores.read, FileTree.unifyNewlines_of_return_not_mem, String.ofList_toList]
    rw [Json.indented, String.toList_ofList]
    exact h.writable.return_not_mem _
  rw [load_eq hStores.exists? hRead, h.readDocument]
  exact ofJson_toJson h.cases

/-- Quotes, backslashes, control characters, separators of lines and of names, an empty text, a missing
document of rules and numbers of both signs, in a folder that has to be made. -/
def awkward : Config where
  baseUrl := "http://[::1]/\"a\\b\""
  patternsFile := none
  resultsDir := "ré\u2028sultats\r\n\t"
  maxParallelCases := 3
  viewportWidth := -1280
  viewportHeight := 0
  aiModel := ""
  values := [("", "\x01\x1f"), ("\"NAME\"", "\x7b\"k\": null\x7d"), ("日本", "\x7f")]

/-- The awkward configuration comes back from its file as it was. -/
theorem load_of_save_awkward : ∃ saved, awkward.save {} (.ofText "conf/itest.json") = .ok saved ∧
    load saved "conf/itest.json" = .ok awkward := by
  have hMade : FileTree.makeFolders {} (Path.ofText "conf/itest.json").parent =
      .ok { folders := [["conf"]] } := toOption_eq_some_iff.mp (by decide +kernel)
  have hPlace : FileTree.locate { folders := [["conf"]] } (.ofText "conf/itest.json") =
      .ok (.inside ["conf", "itest.json"]) := toOption_eq_some_iff.mp (by decide +kernel)
  obtain ⟨saved, hSave⟩ := save_eq_ok awkward hMade hPlace (by decide +kernel)
  have hValid : awkward.Valid := ⟨by decide, by decide +kernel, by decide +kernel⟩
  exact ⟨saved, hSave, hValid.load_of_save hSave⟩

end Config

end ScenarioRunner
