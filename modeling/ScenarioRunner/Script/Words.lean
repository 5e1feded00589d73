import ScenarioRunner.Text.Basic

/-! The words of a line. Blanks part words; text between single quotes stands as it is; between
double quotes a backslash before a double quote, a backslash, a dollar sign or the grave accent is
dropped. A word is bare if no part of it was quoted. -/
namespace ScenarioRunner.Script

/-- A word that is being read: its characters so far, last one first. -/
structure WordDraft where
  chars : List Char := []
  bare : Bool := true
deriving DecidableEq, Repr

structure Word where
  text : String
  bare : Bool
deriving DecidableEq, Repr

namespace WordDraft

def add (c : Char) (w : WordDraft) : WordDraft := { w with chars := c :: w.chars }

def quote (w : WordDraft) : WordDraft := { w with bare := false }

def done (w : WordDraft) : Word := ⟨String.ofList w.chars.reverse, w.bare⟩

end WordDraft

/-- Where in a word the reader stands. -/
inductive Quoting
  | plain
  | single
  | double
  /-- Between double quotes, after a backslash. -/
  | escaped
deriving DecidableEq, Repr

/-- A backslash before this character is dropped between double quotes. -/
def dropsBackslash (c : Char) : Bool := c == '"' || c == '\\' || c == '$' || c == '\x60'

/-- The words of a text, of which `word` has been begun. A quotation that is not closed, or a
backslash before a line break inside one, makes the text unreadable. -/
def wordsFrom : Quoting → Option WordDraft → List Char → Option (List Word)
  | .plain, word, [] => some (word.toList.map (·.done))
  | _, _, [] => none
  | .plain, word, c :: rest =>
    let draft := word.getD {}
    if Text.isBlank c then (wordsFrom .plain none rest).map (word.toList.map (·.done) ++ ·)
    else if c == '\'' then wordsFrom .single (some draft.quote) rest
    else if c == '"' then wordsFrom .double (some draft.quote) rest
    else wordsFrom .plain (some (draft.add c)) rest
  | .single, word, c :: rest =>
    if c == '\'' then wordsFrom .plain word rest
    else wordsFrom .single (word.map (·.add c)) rest
  | .double, word, c :: rest =>
    if c == '"' then wordsFrom .plain word rest
    else if c == '\\' then wordsFrom .escaped word rest
    else wordsFrom .double (word.map (·.add c)) rest
  | .escaped, word, c :: rest =>
    if c == '\n' then none
    else if dropsBackslash c then wordsFrom .double (word.map (·.add c)) rest
    else wordsFrom .double (word.map fun w => (w.add '\\').add c) rest

theorem wordsFrom_close (word : Option WordDraft) (rest : List Char) :
    wordsFrom .single word ('\'' :: rest) = wordsFrom .plain word rest := by
  simp [wordsFrom]

/-- The words of a line, unless a quotation in it is not closed. -/
def splitWords (s : List Char) : Option (List Word) := wordsFrom .plain none s

end ScenarioRunner.Script
