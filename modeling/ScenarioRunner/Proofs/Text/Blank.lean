import Mathlib.Data.List.DropRight
import Mathlib.Data.List.TakeWhile
import ScenarioRunner.Text.Basic
import ScenarioRunner.Text.Word

/-! Blank characters are few, so what holds of each of them is checked one by one. Trimming drops
blanks at the two ends and nothing else. -/
namespace ScenarioRunner.Text

/-- A hit in a table lies in one of its ranges. -/
theorem exists_range_of_inRanges {table : List (Nat × Nat)} {n : Nat}
    (h : inRanges table n = true) : ∃ r ∈ table, r.1 ≤ n ∧ n ≤ r.2 := by
  induction table with
  | nil => simp [inRanges] at h
  | cons r rest ih =>
      rw [inRanges] at h
      split at h
      · simp at h
      · rename_i hStart
        rcases Bool.or_eq_true _ _ ▸ h with hEnd | hRest
        · exact ⟨r, List.mem_cons_self, by omega, by simpa using hEnd⟩
        · obtain ⟨s, hMem, hs⟩ := ih hRest
          exact ⟨s, List.mem_cons_of_mem _ hMem, hs⟩

def blanks : List Char :=
  blankRanges.flatMap fun r => (List.range' r.1 (r.2 + 1 - r.1)).map Char.ofNat

theorem mem_blanks_of_isBlank {c : Char} (h : isBlank c = true) : c ∈ blanks := by
  obtain ⟨r, hRange, hLow, hHigh⟩ := exists_range_of_inRanges h
  rw [blanks, List.mem_flatMap]
  refine ⟨r, hRange, List.mem_map.mpr ⟨c.toNat, ?_, Char.ofNat_toNat c⟩⟩
  rw [List.mem_range'_1]
  omega

/-- What all blanks in the list pass is passed by every blank. -/
theorem eq_true_of_isBlank {p : Char → Bool} (hBlanks : blanks.all p = true) {c : Char}
    (h : isBlank c = true) : p c = true :=
  List.all_eq_true.mp hBlanks c (mem_blanks_of_isBlank h)

/-- A test that no blank passes can only be passed by other characters. -/
theorem isBlank_eq_false_of {p : Char → Bool} (hBlanks : blanks.all (fun c => !p c) = true)
    {c : Char} (hp : p c = true) : isBlank c = false := by
  cases h : isBlank c with
  | false => rfl
  | true => simpa [hp] using eq_true_of_isBlank hBlanks h

theorem isBlank_eq_false_of_isWord {c : Char} (h : isWord c = true) : isBlank c = false :=
  isBlank_eq_false_of (by decide +kernel) h

theorem isWord_eq_false_of_isBlank {c : Char} (h : isBlank c = true) : isWord c = false := by
  cases hWord : isWord c with
  | false => rfl
  | true => simp [isBlank_eq_false_of_isWord hWord] at h

@[simp] theorem isBlank_space : isBlank ' ' = true := by decide

@[simp] theorem isBlank_single : isBlank '\'' = false := by decide

@[simp] theorem isBlank_double : isBlank '"' = false := by decide

@[simp] theorem isBlank_backslash : isBlank '\\' = false := by decide

/-- What ends a line is blank. -/
theorem isBlank_of_isLineBreak {c : Char} (h : isLineBreak c = true) : isBlank c = true := by
  simp only [isLineBreak, Bool.or_eq_true, beq_iff_eq] at h
  rcases h with (((((((((h | h) | h) | h) | h) | h) | h) | h) | h) | h) <;> subst h <;> decide

theorem isLineBreak_eq_false {c : Char} (h : isBlank c = false) : isLineBreak c = false := by
  cases hBreak : isLineBreak c with
  | false => rfl
  | true => simp [isBlank_of_isLineBreak hBreak] at h

/-- A text is blanks, its trimmed form, and blanks. -/
theorem exists_trim (s : List Char) :
    ∃ before after, s = before ++ trim s ++ after ∧
      (∀ c ∈ before, isBlank c = true) ∧ ∀ c ∈ after, isBlank c = true := by
  refine ⟨s.takeWhile isBlank, ((s.dropWhile isBlank).reverse.takeWhile isBlank).reverse,
    ?_, fun c hc => List.mem_takeWhile_imp hc, fun c hc => ?_⟩
  · rw [List.append_assoc, trim, ← List.reverse_append, List.takeWhile_append_dropWhile,
      List.reverse_reverse, List.takeWhile_append_dropWhile]
  · exact List.mem_takeWhile_imp (List.mem_reverse.mp hc)

theorem trimEnd_cons {c : Char} (h : isBlank c = false) (s : List Char) :
    trimEnd (c :: s) = c :: trimEnd s := by
  rw [trimEnd, List.reverse_cons, List.dropWhile_append]
  split
  · rename_i hEmpty
    have hNone : s.reverse.dropWhile isBlank = [] := by simpa using hEmpty
    simp [trimEnd, hNone, h]
  · simp [trimEnd]

/-- A text that starts with no blank keeps its first character. -/
theorem trim_cons {c : Char} (h : isBlank c = false) (s : List Char) :
    trim (c :: s) = c :: trimEnd s := by
  rw [← trimEnd_cons h, trim, List.dropWhile_cons_of_neg (by simp [h]), trimEnd]

theorem trimEnd_trimEnd (s : List Char) : trimEnd (trimEnd s) = trimEnd s := by
  rw [trimEnd, trimEnd, List.reverse_reverse, List.dropWhile_idempotent]

/-- Trimming once is enough. -/
theorem trim_trim (s : List Char) : trim (trim s) = trim s := by
  have hTrim : trim s = trimEnd (s.dropWhile isBlank) := rfl
  rw [hTrim]
  cases hRest : s.dropWhile isBlank with
  | nil => rfl
  | cons c rest =>
      have hFirst : isBlank c = false := by
        have hHead := List.head?_dropWhile_not isBlank s
        simpa [hRest] using hHead
      rw [trimEnd_cons hFirst, trim_cons hFirst, trimEnd_trimEnd]

/-- What is dropped at the end of a text stands behind the last character that is kept. -/
theorem reverse_dropWhile_append_cons {p : Char → Bool} {c : Char} (h : p c = false)
    (before after : List Char) :
    ((before ++ c :: after).reverse.dropWhile p).reverse =
      before ++ c :: (after.reverse.dropWhile p).reverse := by
  rw [List.reverse_append, List.reverse_cons, List.append_assoc, List.singleton_append,
    List.dropWhile_append, List.dropWhile_cons_of_neg (by simp [h])]
  split
  · rename_i hEmpty
    simp [List.isEmpty_iff.mp hEmpty]
  · simp

/-- Trimming ends behind the last character that is no blank. -/
theorem trimEnd_append_cons {c : Char} (h : isBlank c = false) (before after : List Char) :
    trimEnd (before ++ c :: after) = before ++ c :: trimEnd after :=
  reverse_dropWhile_append_cons h before after

theorem trimEnd_eq_nil {s : List Char} (h : ∀ c ∈ s, isBlank c = true) : trimEnd s = [] := by
  rw [trimEnd, List.reverse_eq_nil_iff, List.dropWhile_eq_nil_iff]
  exact fun c hc => h c (List.mem_reverse.mp hc)

theorem trimEnd_isPrefix (s : List Char) : trimEnd s <+: s := by
  rw [trimEnd, ← List.reverse_suffix, List.reverse_reverse]
  exact List.dropWhile_suffix isBlank

/-- Blanks in front are dropped. -/
theorem trim_append {before : List Char} (h : ∀ c ∈ before, isBlank c = true) (s : List Char) :
    trim (before ++ s) = trim s := by
  rw [trim, List.dropWhile_append_of_pos h, trim]

/-- Trimming starts at the first character that is no blank and ends at the last one. -/
theorem trim_append_cons {c : Char} (h : isBlank c = false) (before after : List Char) :
    trim (before ++ c :: after) = trimEnd (before.dropWhile isBlank ++ c :: after) := by
  have hDrop : (before ++ c :: after).dropWhile isBlank = before.dropWhile isBlank ++ c :: after := by
    rw [List.dropWhile_append, List.dropWhile_cons_of_neg (by simp [h])]
    split
    · rename_i hEmpty
      rw [List.isEmpty_iff.mp hEmpty, List.nil_append]
    · rfl
  rw [trim, hDrop, trimEnd]

/-- A trimmed text starts with no blank. -/
theorem isBlank_head_of_trim {s : List Char} (h : trim s = s) :
    ∀ c ∈ s.head?, isBlank c = false := by
  intro c hc
  cases s with
  | nil => cases hc
  | cons d s =>
      cases hc
      by_contra hBlank
      obtain ⟨before, after, hs, -, -⟩ := exists_trim s
      have hTrim : trim ([c] ++ s) = trim s := trim_append (by simpa using hBlank) s
      have hLength := congrArg List.length hs
      rw [List.singleton_append, h] at hTrim
      simp [← hTrim] at hLength
      omega

/-- A text is trimmed if there is no blank at its ends. -/
theorem trim_eq_self_iff {s : List Char} : trim s = s ↔
    (∀ c ∈ s.head?, isBlank c = false) ∧ ∀ c ∈ s.getLast?, isBlank c = false := by
  have hDrop {s : List Char} (hHead : ∀ c ∈ s.head?, isBlank c = false) :
      s.dropWhile isBlank = s := by
    cases s with
    | nil => rfl
    | cons d s => exact List.dropWhile_cons_of_neg (by simp [hHead d rfl])
  constructor
  · intro hTrim
    refine ⟨isBlank_head_of_trim hTrim, fun c hc => ?_⟩
    rw [trim, hDrop (isBlank_head_of_trim hTrim)] at hTrim
    have hNot := List.head?_dropWhile_not isBlank s.reverse
    rw [List.reverse_eq_iff.mp hTrim, List.head?_reverse, hc] at hNot
    simpa using hNot
  · rintro ⟨hHead, hLast⟩
    rw [trim, hDrop hHead, hDrop (by rwa [List.head?_reverse]), List.reverse_reverse]

end ScenarioRunner.Text
