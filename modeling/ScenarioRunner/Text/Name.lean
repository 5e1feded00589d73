import ScenarioRunner.Text.Basic
import ScenarioRunner.Text.NameTable
import ScenarioRunner.Text.Ranges

/-! The character with a given name. Most names stand in a table; the names of Hangul syllables are
composed of the names of their letters, and those of ideographs end in their code. -/
namespace ScenarioRunner.Text

/-- The pieces of a text between the characters that separate them. -/
def pieces (separates : Char → Bool) : List Char → List (List Char)
  | [] => [[]]
  | c :: rest =>
    match pieces separates rest with
    | piece :: later => if separates c then [] :: piece :: later else (c :: piece) :: later
    | [] => []

/-- What stands behind the start of a text, if it has that start. -/
def behindStart? (start : String) (s : List Char) : Option (List Char) :=
  if start.toList.isPrefixOf s then some (s.drop start.length) else none

abbrev Words := List (List Char)

def words (s : List Char) : Words := if s.isEmpty then [] else pieces (· == ' ') s

/-! Names in the table. -/

/-- How many words a lower-case letter stands for. -/
def wordCount (c : Char) : Nat := c.toNat - 'a'.toNat + 1

/-- The words of a name as the table has it, given those of the name before. -/
def expandName (previous : Words) (written : List Char) : Words :=
  let (front, written) :=
    match written with
    | c :: rest => if c.isLower then (previous.take (wordCount c), rest) else ([], c :: rest)
    | [] => ([], [])
  match cutAt? ['+'] written with
  | some (middle, [c]) => front ++ words middle ++ previous.drop (previous.length - wordCount c)
  | _ => front ++ words written

/-- The code of a name in a run of names that starts with `code`. -/
def codeInRun (name : Words) : Nat → Words → List (List Char) → Option Nat
  | _, _, [] => none
  | code, previous, written :: later =>
    let current := expandName previous written
    if current == name then some code else codeInRun name (code + 1) current later

def tableCode? (name : List Char) : Option Nat :=
  nameBlocks.findSome? fun (first, names) =>
    codeInRun (words name) first [] (pieces (fun c => c == ';' || c == '\n') names.toList)

def aliasCode? (name : List Char) : Option Nat :=
  nameAliases.findSome? fun (code, names) =>
    if (pieces (· == ';') names.toList).contains name then some code else none

/-- The code of one of the 256 variation selectors, which have short names. -/
def selectorCode? (name : List Char) : Option Nat :=
  ((List.range 256).find? fun i => s!"VS{i + 1}".toList == name).map fun i =>
    if i < 16 then 0xFE00 + i else 0xE0100 + (i - 16)

/-! Names with a code at their end. -/

def codeDigits : List Char := "0123456789ABCDEF".toList

/-- The number that upper-case hexadecimal digits stand for. -/
def codeOf? (ds : List Char) : Option Nat :=
  if ds.all codeDigits.contains then some (ds.foldl (fun n c => 16 * n + codeDigits.idxOf c) 0)
  else none

/-- Ideographs whose code may be written with a leading zero. -/
def unifiedRanges : List (Nat × Nat) :=
  [(0x3400, 0x4DBF), (0x4E00, 0x9FFF), (0x20000, 0x2A6DF), (0x2A700, 0x2B738), (0x2B740, 0x2B81D),
   (0x2B820, 0x2CEA1), (0x2CEB0, 0x2EBE0), (0x30000, 0x3134A)]

def unifiedCode? (ds : List Char) : Option Nat :=
  (codeOf? ds).filter fun code => (ds.length == 4 || ds.length == 5) && inRanges unifiedRanges code

/-- Starts of names that end in a code, and the codes that they have. -/
def numberedNames : List (String × List (Nat × Nat)) :=
  [("CJK COMPATIBILITY IDEOGRAPH-", [(0xF900, 0xFA6D), (0xFA70, 0xFAD9), (0x2F800, 0x2FA1D)]),
   ("KHITAN SMALL SCRIPT CHARACTER-", [(0x18B00, 0x18CD5)]),
   ("NUSHU CHARACTER-", [(0x1B170, 0x1B2FB)])]

def numberedCode? (name : List Char) : Option Nat :=
  numberedNames.findSome? fun (start, ranges) => do
    let ds ← behindStart? start name
    (codeOf? ds).filter fun code =>
      ds.length == (if code < 0x10000 then 4 else 5) && inRanges ranges code

/-! Syllables. -/

def syllableLeads : List String :=
  ["G", "GG", "N", "D", "DD", "R", "M", "B", "BB", "S", "SS", "", "J", "JJ", "C", "K", "T", "P",
   "H"]

def syllableVowels : List String :=
  ["A", "AE", "YA", "YAE", "EO", "E", "YEO", "YE", "O", "WA", "WAE", "OE", "YO", "U", "WEO", "WE",
   "WI", "YU", "EU", "YI", "I"]

def syllableTails : List String :=
  ["", "G", "GG", "GS", "N", "NJ", "NH", "D", "L", "LG", "LM", "LB", "LS", "LT", "LP", "LH", "M",
   "B", "BS", "S", "SS", "NG", "J", "C", "K", "T", "P", "H"]

/-- The code of a syllable of three letters, of which the last one may be missing. -/
def syllableCode? (name : List Char) : Option Nat :=
  syllableLeads.zipIdx.findSome? fun (lead, i) =>
    syllableVowels.zipIdx.findSome? fun (vowel, j) => do
      let tail ← behindStart? (lead ++ vowel) name
      let k ← syllableTails.idxOf? (String.ofList tail)
      return 0xAC00 + (i * syllableVowels.length + j) * syllableTails.length + k

/-- The code of the character with a name. Names may be written in lower case, but not those of
syllables and unified ideographs. -/
def codeNamed? (name : List Char) : Option Nat :=
  if let some syllable := behindStart? "HANGUL SYLLABLE " name then syllableCode? syllable
  else if let some ds := behindStart? "CJK UNIFIED IDEOGRAPH-" name then unifiedCode? ds
  else
    let name := name.map Char.toUpper
    tableCode? name <|> aliasCode? name <|> selectorCode? name <|> numberedCode? name

end ScenarioRunner.Text
