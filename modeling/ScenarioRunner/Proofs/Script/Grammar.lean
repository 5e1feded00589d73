import ScenarioRunner.Proofs.Script.Words

/-! The grammar of words. A text is made of gaps and of parts of words: bare runs, texts between
single quotes and texts between double quotes. The reader of words takes just the texts of such
pieces, and each run of parts between gaps is one word. How a text falls into pieces is not unique,
since a bare run may be cut anywhere, but its words are. -/
namespace ScenarioRunner.Script

open Text

/-- What stands between double quotes: single characters, and backslashes together with the
character behind them. -/
inductive QuotedUnit
  | plain (c : Char) (hQuote : c ≠ '"') (hBackslash : c ≠ '\\')
  | pair (c : Char) (hLine : c ≠ '\n')

namespace QuotedUnit

def written : QuotedUnit → List Char
  | plain c _ _ => [c]
  | pair c _ => ['\\', c]

/-- Before which characters a backslash is dropped. -/
def marked : List Char := ['"', '\\', '$', '\x60']

def decoded : QuotedUnit → List Char
  | plain c _ _ => [c]
  | pair c _ => if c ∈ marked then [c] else ['\\', c]

end QuotedUnit

/-- A part of a word. -/
inductive Part
  | run (chars : List Char) (hNonempty : chars ≠ []) (hBare : ∀ c ∈ chars, IsBare c)
  | single (inside : List Char) (hInside : '\'' ∉ inside)
  | double (inside : List QuotedUnit)

namespace Part

def written : Part → List Char
  | run chars _ _ => chars
  | single inside _ => '\'' :: (inside ++ ['\''])
  | double inside => '"' :: (inside.flatMap (·.written) ++ ['"'])

/-- What the part adds to its word. -/
def decoded : Part → List Char
  | run chars _ _ => chars
  | single inside _ => inside
  | double inside => inside.flatMap (·.decoded)

def isRun : Part → Bool
  | run .. => true
  | single .. => false
  | double _ => false

end Part

/-- A piece of a text. -/
inductive Piece
  | gap (blanks : List Char) (hNonempty : blanks ≠ []) (hBlank : ∀ c ∈ blanks, isBlank c = true)
  | part (p : Part)

namespace Piece

def written : Piece → List Char
  | gap blanks _ _ => blanks
  | part p => p.written

def textOf (pieces : List Piece) : List Char := pieces.flatMap (·.written)

/-- The parts before the first gap, between gaps that follow on one another, and behind the last
gap. -/
def runs : List Piece → List (List Part)
  | [] => [[]]
  | gap .. :: rest => [] :: runs rest
  | part p :: rest => (runs rest).modifyHead (p :: ·)

def wordOf (parts : List Part) : Word :=
  ⟨String.ofList (parts.flatMap (·.decoded)), parts.all (·.isRun)⟩

/-- One word for each run of adjacent parts. -/
def wordsOf (pieces : List Piece) : List Word :=
  ((runs pieces).filter fun parts => !parts.isEmpty).map wordOf

end Piece

/-! Reading pieces, one after another. -/

namespace WordDraft

def join (w : WordDraft) (p : Part) : WordDraft where
  chars := p.decoded.reverse ++ w.chars
  bare := w.bare && p.isRun

theorem done_foldl_join (w : WordDraft) (parts : List Part) :
    (parts.foldl join w).done =
      ⟨String.ofList (w.chars.reverse ++ parts.flatMap (·.decoded)),
        w.bare && parts.all (·.isRun)⟩ := by
  induction parts generalizing w with
  | nil => simp [done]
  | cons p parts ih => simp [ih, join, Bool.and_assoc]

end WordDraft

theorem wordsFrom_single {inside : List Char} (hInside : '\'' ∉ inside) (draft : WordDraft)
    (rest : List Char) :
    wordsFrom .single (some draft) (inside ++ '\'' :: rest) =
      wordsFrom .plain (some (draft.append inside)) rest := by
  induction inside generalizing draft with
  | nil => exact wordsFrom_close (some draft) rest
  | cons c inside ih =>
      have hc : c ≠ '\'' := fun h => hInside (h ▸ List.mem_cons_self ..)
      have hRest := ih (fun h => hInside (List.mem_cons_of_mem _ h)) (draft.add c)
      rw [WordDraft.append_cons, ← hRest, List.cons_append, wordsFrom, if_neg (by simpa using hc)]
      rfl

theorem dropsBackslash_iff {c : Char} : dropsBackslash c = true ↔ c ∈ QuotedUnit.marked := by
  simp [dropsBackslash, QuotedUnit.marked, or_assoc]

theorem wordsFrom_unit (u : QuotedUnit) (draft : WordDraft) (rest : List Char) :
    wordsFrom .double (some draft) (u.written ++ rest) =
      wordsFrom .double (some (draft.append u.decoded)) rest := by
  cases u with
  | plain c hQuote hBackslash =>
      simp [QuotedUnit.written, QuotedUnit.decoded, wordsFrom, hQuote, hBackslash]
  | pair c hLine =>
      by_cases hMarked : c ∈ QuotedUnit.marked
      · simp [QuotedUnit.written, QuotedUnit.decoded, wordsFrom, hLine, hMarked,
          dropsBackslash_iff.mpr hMarked]
      · have hKept : dropsBackslash c = false := by
          simpa using mt dropsBackslash_iff.mp hMarked
        simp [QuotedUnit.written, QuotedUnit.decoded, wordsFrom, hLine, hMarked, hKept]

theorem wordsFrom_double (inside : List QuotedUnit) (draft : WordDraft) (rest : List Char) :
    wordsFrom .double (some draft) (inside.flatMap (·.written) ++ '"' :: rest) =
      wordsFrom .plain (some (draft.append (inside.flatMap (·.decoded)))) rest := by
  induction inside generalizing draft with
  | nil => simp [wordsFrom]
  | cons u inside ih =>
      rw [List.flatMap_cons, List.append_assoc, wordsFrom_unit, ih]
      simp [WordDraft.append]

/-- A part goes into the word that has been begun, or begins one. -/
theorem wordsFrom_part (p : Part) (word : Option WordDraft) (rest : List Char) :
    wordsFrom .plain word (p.written ++ rest) =
      wordsFrom .plain (some ((word.getD {}).join p)) rest := by
  cases p with
  | run chars hNonempty hBare =>
      rw [Part.written, wordsFrom_bare hBare hNonempty]
      simp [WordDraft.join, WordDraft.append, Part.decoded, Part.isRun]
  | single inside hInside =>
      rw [Part.written, List.cons_append, List.append_assoc, wordsFrom_open,
        List.singleton_append, wordsFrom_single hInside]
      simp [WordDraft.join, WordDraft.append, WordDraft.quote, Part.decoded, Part.isRun]
  | double inside =>
      have hOpen : wordsFrom .plain word ('"' :: (inside.flatMap (·.written) ++ '"' :: rest)) =
          wordsFrom .double (some (word.getD {}).quote)
            (inside.flatMap (·.written) ++ '"' :: rest) := by
        simp [wordsFrom]
      rw [Part.written, List.cons_append, List.append_assoc, List.singleton_append, hOpen,
        wordsFrom_double]
      simp [WordDraft.join, WordDraft.append, WordDraft.quote, Part.decoded, Part.isRun]

/-- A gap ends the word that has been begun. -/
theorem wordsFrom_gap {blanks : List Char} (hNonempty : blanks ≠ [])
    (hBlank : ∀ c ∈ blanks, isBlank c = true) (word : Option WordDraft) (rest : List Char) :
    wordsFrom .plain word (blanks ++ rest) =
      (wordsFrom .plain none rest).map (word.toList.map (·.done) ++ ·) := by
  obtain ⟨c, blanks, rfl⟩ := List.exists_cons_of_ne_nil hNonempty
  obtain ⟨hFirst, hOthers⟩ := List.forall_mem_cons.mp hBlank
  rw [List.cons_append, wordsFrom, if_pos hFirst, wordsFrom_blank_append hOthers]

namespace Piece

/-- The words of runs of parts, the first of which goes on with the word that has been begun. -/
def wordsAfter (word : Option WordDraft) : List (List Part) → List Word
  | [] => word.toList.map (·.done)
  | parts :: rest =>
    ((parts.foldl (fun w p => some ((w.getD {}).join p)) word).toList.map (·.done)) ++
      (rest.filter fun parts => !parts.isEmpty).map wordOf

theorem foldl_join_some (draft : WordDraft) (parts : List Part) :
    parts.foldl (fun w p => some ((w.getD {}).join p)) (some draft) =
      some (parts.foldl WordDraft.join draft) := by
  induction parts generalizing draft with
  | nil => rfl
  | cons p parts ih => exact ih (draft.join p)

/-- Where no word has been begun, the first run is a word of its own. -/
theorem wordsAfter_none (groups : List (List Part)) :
    wordsAfter none groups = (groups.filter fun parts => !parts.isEmpty).map wordOf := by
  cases groups with
  | nil => rfl
  | cons parts rest =>
      cases parts with
      | nil => rfl
      | cons p parts =>
          have hDone : ((parts.foldl WordDraft.join (WordDraft.join {} p))).done =
              wordOf (p :: parts) := by
            rw [WordDraft.done_foldl_join]
            simp [wordOf, WordDraft.join]
          simp only [wordsAfter, List.foldl_cons, foldl_join_some, Option.getD_none,
            Option.toList_some, List.map_cons, hDone]
          simp

theorem runs_ne_nil (pieces : List Piece) : runs pieces ≠ [] := by
  cases pieces with
  | nil => simp [runs]
  | cons piece rest =>
      cases piece with
      | gap => simp [runs]
      | part p =>
          have hRest := runs_ne_nil rest
          simp [runs, hRest]

/-- The text of pieces is read as its words, behind a word that has been begun. -/
theorem wordsFrom_textOf (pieces : List Piece) (word : Option WordDraft) :
    wordsFrom .plain word (textOf pieces) = some (wordsAfter word (runs pieces)) := by
  induction pieces generalizing word with
  | nil => simp [textOf, wordsFrom, runs, wordsAfter]
  | cons piece rest ih =>
      rw [textOf, List.flatMap_cons, ← textOf]
      cases piece with
      | gap blanks hNonempty hBlank =>
          rw [written, wordsFrom_gap hNonempty hBlank, ih, wordsAfter_none]
          rfl
      | part p =>
          rw [written, wordsFrom_part, ih, runs]
          obtain ⟨parts, others, hRuns⟩ := List.exists_cons_of_ne_nil (runs_ne_nil rest)
          rw [hRuns]
          rfl

end Piece

/-! What can be read consists of pieces. -/

/-- The text closes the double quotes, and what follows consists of pieces. -/
def ClosesDouble (s : List Char) : Prop :=
  ∃ (inside : List QuotedUnit) (pieces : List Piece),
    inside.flatMap (·.written) ++ '"' :: Piece.textOf pieces = s

/-- What is left of a text can be read, from where the reader stands. -/
def Continues : Quoting → List Char → Prop
  | .plain, s => ∃ pieces, Piece.textOf pieces = s
  | .single, s => ∃ inside pieces, '\'' ∉ inside ∧ inside ++ '\'' :: Piece.textOf pieces = s
  | .double, s => ClosesDouble s
  | .escaped, s => ClosesDouble ('\\' :: s)

theorem closesDouble_cons (u : QuotedUnit) {s : List Char} (h : ClosesDouble s) :
    ClosesDouble (u.written ++ s) := by
  obtain ⟨inside, pieces, rfl⟩ := h
  exact ⟨u :: inside, pieces, by simp⟩

theorem continues_piece (piece : Piece) {s : List Char} (h : Continues .plain s) :
    Continues .plain (piece.written ++ s) := by
  obtain ⟨pieces, rfl⟩ := h
  exact ⟨piece :: pieces, rfl⟩

theorem continues_openSingle {s : List Char} (h : Continues .single s) :
    Continues .plain ('\'' :: s) := by
  obtain ⟨inside, pieces, hInside, rfl⟩ := h
  exact ⟨.part (.single inside hInside) :: pieces, by
    simp [Piece.textOf, Piece.written, Part.written]⟩

theorem continues_openDouble {s : List Char} (h : Continues .double s) :
    Continues .plain ('"' :: s) := by
  obtain ⟨inside, pieces, rfl⟩ := h
  exact ⟨.part (.double inside) :: pieces, by simp [Piece.textOf, Piece.written, Part.written]⟩

theorem continues_closeSingle {s : List Char} (h : Continues .plain s) :
    Continues .single ('\'' :: s) := by
  obtain ⟨pieces, rfl⟩ := h
  exact ⟨[], pieces, by simp, rfl⟩

theorem continues_closeDouble {s : List Char} (h : Continues .plain s) :
    Continues .double ('"' :: s) := by
  obtain ⟨pieces, rfl⟩ := h
  exact ⟨[], pieces, rfl⟩

theorem continues_single_cons {c : Char} {s : List Char} (hc : c ≠ '\'')
    (h : Continues .single s) : Continues .single (c :: s) := by
  obtain ⟨inside, pieces, hInside, rfl⟩ := h
  exact ⟨c :: inside, pieces, List.not_mem_cons_of_ne_of_not_mem hc.symm hInside, rfl⟩

/-- The reader stops nowhere but at the end of a text that can go on from where it stands. -/
theorem continues_of_wordsFrom {quoting : Quoting} {word : Option WordDraft} {s : List Char}
    {words : List Word} (hRead : wordsFrom quoting word s = some words) : Continues quoting s := by
  -- along the text, as each character leaves the reader at one place
  induction s generalizing quoting word words with
  | nil =>
      cases quoting with
      | plain => exact ⟨[], rfl⟩
      | single | double | escaped => simp [wordsFrom] at hRead
  | cons c rest ih =>
      cases quoting with
      | plain =>
          rw [wordsFrom] at hRead
          split at hRead
          · rename_i hBlank
            obtain ⟨later, hLater, -⟩ := Option.map_eq_some_iff.mp hRead
            exact continues_piece (.gap [c] (by simp) (by simpa using hBlank)) (ih hLater)
          rename_i hBlank
          split at hRead
          · rename_i hSingle
            exact eq_of_beq hSingle ▸ continues_openSingle (ih hRead)
          rename_i hSingle
          split at hRead
          · rename_i hDouble
            exact eq_of_beq hDouble ▸ continues_openDouble (ih hRead)
          · rename_i hDouble
            have hBare : IsBare c :=
              ⟨by simpa using hBlank, by simpa using hSingle, by simpa using hDouble⟩
            exact continues_piece (.part (.run [c] (by simp) (by simpa using hBare))) (ih hRead)
      | single =>
          rw [wordsFrom] at hRead
          split at hRead
          · rename_i hClose
            exact eq_of_beq hClose ▸ continues_closeSingle (ih hRead)
          · rename_i hInside
            exact continues_single_cons (by simpa using hInside) (ih hRead)
      | double =>
          rw [wordsFrom] at hRead
          split at hRead
          · rename_i hClose
            exact eq_of_beq hClose ▸ continues_closeDouble (ih hRead)
          rename_i hQuote
          split at hRead
          · rename_i hBackslash
            obtain rfl := eq_of_beq hBackslash
            exact ih hRead
          · rename_i hBackslash
            exact closesDouble_cons (.plain c (by simpa using hQuote) (by simpa using hBackslash))
              (ih hRead)
      | escaped =>
          have hLine : c ≠ '\n' := by
            rintro rfl
            simp [wordsFrom] at hRead
          have hRest : ClosesDouble rest := by
            rw [wordsFrom, if_neg (by simpa using hLine)] at hRead
            split at hRead
            · exact ih hRead
            · exact ih hRead
          exact closesDouble_cons (.pair c hLine) hRest

/-- The reader takes just the texts of pieces, and gives one word for each run of adjacent parts:
what the parts stand for together, bare if all of them are bare runs. Every other text is refused. -/
theorem splitWords_pieces (s : List Char) :
    (∀ words, splitWords s = some words ↔
      ∃ pieces, Piece.textOf pieces = s ∧ Piece.wordsOf pieces = words) ∧
    (splitWords s = none ↔ ¬ ∃ pieces, Piece.textOf pieces = s) := by
  have hWords : ∀ pieces, Piece.textOf pieces = s → splitWords s = some (Piece.wordsOf pieces) := by
    rintro pieces rfl
    rw [splitWords, Piece.wordsFrom_textOf, Piece.wordsAfter_none, Piece.wordsOf]
  have hPieces : ∀ words, splitWords s = some words → ∃ pieces, Piece.textOf pieces = s :=
    fun words hRead => continues_of_wordsFrom hRead
  refine ⟨fun words => ⟨fun hRead => ?_, ?_⟩, fun hNone => ?_, fun hNone => ?_⟩
  · obtain ⟨pieces, hText⟩ := hPieces words hRead
    exact ⟨pieces, hText, Option.some.inj ((hWords pieces hText).symm.trans hRead)⟩
  · rintro ⟨pieces, hText, rfl⟩
    exact hWords pieces hText
  · rintro ⟨pieces, hText⟩
    rw [hWords pieces hText] at hNone
    cases hNone
  · cases hRead : splitWords s with
    | none => rfl
    | some words => exact absurd (hPieces words hRead) hNone

/-- Parts without a gap make one word. Nothing between quotes is a word too. -/
example : splitWords "a\\'b c'\"\\$\\d\"  ''".toList =
    some [⟨"a\\b c$\\d", false⟩, ⟨"", false⟩] := by decide +kernel

end ScenarioRunner.Script
