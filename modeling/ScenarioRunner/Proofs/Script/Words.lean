import Mathlib.Data.List.Forall2
import ScenarioRunner.Proofs.Text.Blank
import ScenarioRunner.Script.Words
import ScenarioRunner.Text.Shell

/-! What the reader of words makes of written words. A written word leaves the reader in the same
place whatever follows it, so a line of words is read word by word. A quoted text is one such word,
and what comes before a break inside of the quotes leaves them open. -/
namespace ScenarioRunner.Script

open Text

/-- The character stands for itself outside of quotes. -/
structure IsBare (c : Char) : Prop where
  notBlank : isBlank c = false
  notSingle : c ≠ '\''
  notDouble : c ≠ '"'

instance (c : Char) : Decidable (IsBare c) :=
  decidable_of_iff (isBlank c = false ∧ c ≠ '\'' ∧ c ≠ '"')
    ⟨fun h => ⟨h.1, h.2.1, h.2.2⟩, fun h => ⟨h.notBlank, h.notSingle, h.notDouble⟩⟩

theorem isBare_of_all {s : List Char} (h : s.all (fun c => decide (IsBare c)) = true) :
    ∀ c ∈ s, IsBare c :=
  fun c hc => of_decide_eq_true (List.all_eq_true.mp h c hc)

namespace WordDraft

def append (s : List Char) (w : WordDraft) : WordDraft := { w with chars := s.reverse ++ w.chars }

@[simp] theorem append_nil (w : WordDraft) : w.append [] = w := rfl

@[simp] theorem append_cons (c : Char) (s : List Char) (w : WordDraft) :
    w.append (c :: s) = (w.add c).append s := by
  simp [append, add]

theorem quote_of_not_bare {w : WordDraft} (h : w.bare = false) : w.quote = w := by
  cases w
  simp_all [quote]

end WordDraft

/-- Bare text goes into the word that has been begun, or begins one. -/
theorem wordsFrom_bare {run : List Char} (hRun : ∀ c ∈ run, IsBare c) (hNonempty : run ≠ [])
    (word : Option WordDraft) (rest : List Char) :
    wordsFrom .plain word (run ++ rest) =
      wordsFrom .plain (some ((word.getD {}).append run)) rest := by
  induction run generalizing word with
  | nil => exact absurd rfl hNonempty
  | cons c run ih =>
      obtain ⟨hBlank, hSingle, hDouble⟩ := hRun c List.mem_cons_self
      rw [List.cons_append, wordsFrom]
      simp only [hBlank, hSingle, hDouble, beq_iff_eq, if_false, Bool.false_eq_true]
      cases run with
      | nil => rfl
      | cons d run =>
          rw [ih (fun x hx => hRun x (List.mem_cons_of_mem _ hx)) (by simp)]
          simp

theorem wordsFrom_open (word : Option WordDraft) (rest : List Char) :
    wordsFrom .plain word ('\'' :: rest) = wordsFrom .single (some (word.getD {}).quote) rest := by
  simp [wordsFrom]

/-- A single quote that stands between double ones, outside of single ones. -/
theorem wordsFrom_doubled (draft : WordDraft) (rest : List Char) :
    wordsFrom .plain (some draft) ('"' :: '\'' :: '"' :: rest) =
      wordsFrom .plain (some (draft.quote.add '\'')) rest := by
  simp [wordsFrom]

/-- The inside of a quoted text stands for the text. A single quote in it leaves the quotes, passes
through double ones and comes back. -/
theorem wordsFrom_shellInner (v : List Char) (draft : WordDraft) (h : draft.bare = false)
    (rest : List Char) :
    wordsFrom .single (some draft) (shellInner v ++ rest) =
      wordsFrom .single (some (draft.append v)) rest := by
  induction v generalizing draft with
  | nil => rfl
  | cons c v ih =>
      have hNext := ih (draft.add c) h
      rw [WordDraft.append_cons, ← hNext, shellInner, List.append_assoc]
      by_cases hQuote : c = '\''
      · subst hQuote
        have hAdd : (draft.add '\'').quote = draft.add '\'' := WordDraft.quote_of_not_bare h
        -- the draft is quoted already, so leaving and entering quotes changes nothing but the place
        calc
          _ = wordsFrom .plain (some draft)
                ('"' :: '\'' :: '"' :: '\'' :: (shellInner v ++ rest)) :=
            wordsFrom_close _ _
          _ = wordsFrom .plain (some (draft.add '\'')) ('\'' :: (shellInner v ++ rest)) := by
            rw [wordsFrom_doubled, WordDraft.quote_of_not_bare h]
          _ = wordsFrom .single (some (draft.add '\'')) (shellInner v ++ rest) := by
            rw [wordsFrom_open, Option.getD_some, hAdd]
      · simp [wordsFrom, hQuote]

theorem isBare_of_isShellSafe {c : Char} (h : isShellSafe c = true) : IsBare c where
  notBlank := isBlank_eq_false_of (by decide) h
  notSingle := by rintro rfl; exact absurd h (by decide)
  notDouble := by rintro rfl; exact absurd h (by decide)

def IsPlain (v : List Char) : Prop := v ≠ [] ∧ ∀ c ∈ v, isShellSafe c = true

theorem shellQuote_of_isPlain {v : List Char} (h : IsPlain v) : shellQuote v = v := by
  have hAll : v.all isShellSafe = true := List.all_eq_true.mpr h.2
  rw [shellQuote, if_neg (by simpa using h.1), if_pos hAll]

theorem shellQuote_of_not_isPlain {v : List Char} (h : ¬ IsPlain v) :
    shellQuote v = '\'' :: (shellInner v ++ ['\'']) := by
  rw [shellQuote]
  split
  · rename_i hEmpty
    rw [List.isEmpty_iff.mp hEmpty]
    rfl
  · rename_i hFilled
    rw [if_neg fun hAll => h ⟨by simpa using hFilled, List.all_eq_true.mp hAll⟩]
    rfl

/-- A word as it is written, with what it is read as, whatever follows. -/
def ReadsAs (written : List Char) (word : Word) : Prop :=
  ∃ draft : WordDraft, draft.done = word ∧
    ∀ rest, wordsFrom .plain none (written ++ rest) = wordsFrom .plain (some draft) rest

theorem readsAs_bare {run : List Char} (hRun : ∀ c ∈ run, IsBare c) (hNonempty : run ≠ []) :
    ReadsAs run ⟨String.ofList run, true⟩ := by
  refine ⟨WordDraft.append run {}, by simp [WordDraft.append, WordDraft.done], fun rest => ?_⟩
  exact wordsFrom_bare hRun hNonempty none rest

/-- Any text is read back from its quoted form, as one word, which is bare only if nothing in the
text had to be quoted. -/
theorem readsAs_shellQuote (v : List Char) :
    ∃ bare, ReadsAs (shellQuote v) ⟨String.ofList v, bare⟩ ∧ (bare = true → IsPlain v) := by
  by_cases hPlain : IsPlain v
  · rw [shellQuote_of_isPlain hPlain]
    have hBare : ∀ c ∈ v, IsBare c := fun c hc => isBare_of_isShellSafe (hPlain.2 c hc)
    exact ⟨true, readsAs_bare hBare hPlain.1, fun _ => hPlain⟩
  · rw [shellQuote_of_not_isPlain hPlain]
    let draft := WordDraft.append v (WordDraft.quote {})
    have hDone : draft.done = ⟨String.ofList v, false⟩ := by
      simp [draft, WordDraft.append, WordDraft.done, WordDraft.quote]
    refine ⟨false, ⟨draft, hDone, fun rest => ?_⟩, by simp⟩
    rw [List.cons_append, List.append_assoc, wordsFrom_open, Option.getD_none,
      wordsFrom_shellInner v _ rfl, List.singleton_append, wordsFrom_close]

/-- Words with a space between neighbours are read one by one. -/
theorem splitWords_joinWith {written : List (List Char)} {words : List Word}
    (h : List.Forall₂ ReadsAs written words) :
    splitWords (joinWith [' '] written) = some words := by
  induction h with
  | nil => rfl
  | @cons first word rest words hFirst hRest ih =>
      obtain ⟨draft, rfl, hDraft⟩ := hFirst
      cases hRest with
      | nil =>
          have hEnd := hDraft []
          rw [List.append_nil] at hEnd
          simp [splitWords, joinWith, hEnd, wordsFrom]
      | cons hSecond hRest =>
          rw [splitWords] at ih
          rw [splitWords, joinWith, List.append_assoc, hDraft]
          · simp [wordsFrom, ih]
          · simp

/-- A last word that leaves a quotation open makes the whole line unreadable. -/
theorem splitWords_joinWith_open {written : List (List Char)} {words : List Word}
    (h : List.Forall₂ ReadsAs written words) {last : List Char} (hLast : splitWords last = none) :
    splitWords (joinWith [' '] (written ++ [last])) = none := by
  induction h with
  | nil => exact hLast
  | @cons first word rest words hFirst hRest ih =>
      obtain ⟨draft, rfl, hDraft⟩ := hFirst
      rw [splitWords] at ih
      rw [List.cons_append, splitWords, joinWith, List.append_assoc, hDraft]
      · simp [wordsFrom, ih]
      · simp

/-- Where quotes have been opened and are not closed, the text cannot be read. -/
theorem splitWords_open (v : List Char) : splitWords ('\'' :: shellInner v) = none := by
  have hInner := wordsFrom_shellInner v (WordDraft.quote {}) rfl []
  rw [List.append_nil] at hInner
  rw [splitWords, wordsFrom_open, Option.getD_none, hInner]
  rfl

/-- Blanks alone end the word that has been begun. -/
theorem wordsFrom_blank {blank : List Char} (h : ∀ c ∈ blank, isBlank c = true)
    (word : Option WordDraft) : wordsFrom .plain word blank = some (word.toList.map (·.done)) := by
  induction blank generalizing word with
  | nil => rfl
  | cons c blank ih =>
      have hRest := ih (fun x hx => h x (List.mem_cons_of_mem _ hx)) none
      simp [wordsFrom, h c List.mem_cons_self, hRest]

/-- Blanks alone do not close a quotation. -/
theorem wordsFrom_blank_open {blank : List Char} (h : ∀ c ∈ blank, isBlank c = true)
    {quoting : Quoting} (hOpen : quoting ≠ .plain) (word : Option WordDraft) :
    wordsFrom quoting word blank = none := by
  induction blank generalizing quoting word with
  | nil => cases quoting <;> simp_all [wordsFrom]
  | cons c blank ih =>
      have hc := h c List.mem_cons_self
      have hRest := @ih fun x hx => h x (List.mem_cons_of_mem _ hx)
      have hNotSingle : c ≠ '\'' := by rintro rfl; simp at hc
      have hNotDouble : c ≠ '"' := by rintro rfl; simp at hc
      have hNotBackslash : c ≠ '\\' := by rintro rfl; simp at hc
      cases quoting with
      | plain => exact absurd rfl hOpen
      | single => simp [wordsFrom, hNotSingle, hRest]
      | double => simp [wordsFrom, hNotDouble, hNotBackslash, hRest]
      | escaped => simp [wordsFrom, hRest]

/-- Blanks behind a text neither end nor begin anything. -/
theorem wordsFrom_append_blank {blank : List Char} (h : ∀ c ∈ blank, isBlank c = true)
    (quoting : Quoting) (word : Option WordDraft) (s : List Char) :
    wordsFrom quoting word (s ++ blank) = wordsFrom quoting word s := by
  induction s generalizing quoting word with
  | nil =>
      cases quoting with
      | plain => rw [List.nil_append, wordsFrom_blank h, wordsFrom]
      | _ => rw [List.nil_append, wordsFrom_blank_open h (by simp), wordsFrom]; simp
  | cons c s ih => cases quoting <;> simp only [List.cons_append, wordsFrom, ih]

theorem wordsFrom_blank_append {blank : List Char} (h : ∀ c ∈ blank, isBlank c = true)
    (s : List Char) : wordsFrom .plain none (blank ++ s) = wordsFrom .plain none s := by
  induction blank with
  | nil => rfl
  | cons c blank ih =>
      have hRest := ih fun x hx => h x (List.mem_cons_of_mem _ hx)
      simp [wordsFrom, h c List.mem_cons_self, hRest]

/-- The words of a text are those of its trimmed form. -/
theorem splitWords_trim (s : List Char) : splitWords (trim s) = splitWords s := by
  obtain ⟨before, after, hForm, hBefore, hAfter⟩ := exists_trim s
  rw [splitWords, splitWords]
  conv_rhs => rw [hForm, wordsFrom_append_blank hAfter, wordsFrom_blank_append hBefore]

end ScenarioRunner.Script
