import Mathlib.Data.List.Basic
import ScenarioRunner.Text.Basic

/-! What the lines of a text are, told without reading it from left to right: texts without a break,
each but the last with an end behind it. -/
namespace ScenarioRunner.Text

/-- No character of the text ends a line. -/
def Unbroken (s : List Char) : Prop := ∀ c ∈ s, isLineBreak c = false

instance (s : List Char) : Decidable (Unbroken s) :=
  List.decidableBAll (isLineBreak · = false) s

/-- What ends a line before `rest`: a carriage return together with a newline, or any other single
break. -/
inductive LineEnd : List Char → List Char → Prop where
  | pair (rest : List Char) : LineEnd ['\r', '\n'] rest
  | single {c : Char} {rest : List Char} (hBreak : isLineBreak c = true)
      (hAlone : c = '\r' → rest.head? ≠ some '\n') : LineEnd [c] rest

/-- The text consists of these lines. An end behind the last line opens no further one. -/
inductive HasLines : List Char → List (List Char) → Prop where
  | nil : HasLines [] []
  | last {line : List Char} (hLine : Unbroken line) (hNonempty : line ≠ []) :
      HasLines line [line]
  | cons {line stop rest : List Char} {lines : List (List Char)} (hLine : Unbroken line)
      (hStop : LineEnd stop rest) (tail : HasLines rest lines) :
      HasLines (line ++ (stop ++ rest)) (line :: lines)

theorem unbroken_append {s t : List Char} : Unbroken (s ++ t) ↔ Unbroken s ∧ Unbroken t :=
  List.forall_mem_append

theorem linesFrom_nil (line : List Char) :
    linesFrom line [] = if line.isEmpty then [] else [line.reverse] := rfl

theorem linesFrom_cons_unbroken {c : Char} (h : isLineBreak c = false) (line rest : List Char) :
    linesFrom line (c :: rest) = linesFrom (c :: line) rest := by
  rw [linesFrom.eq_def]
  split
  · rename_i hNil
    cases hNil
  · rename_i hPair
    cases hPair
    exact absurd h (by decide)
  · rename_i hCons
    cases hCons
    rw [if_neg (by simp [h])]

theorem linesFrom_cons_break {c : Char} {rest : List Char} (h : isLineBreak c = true)
    (hAlone : c = '\r' → rest.head? ≠ some '\n') (line : List Char) :
    linesFrom line (c :: rest) = line.reverse :: linesFrom [] rest := by
  rw [linesFrom.eq_def]
  split
  · rename_i hNil
    cases hNil
  · rename_i hPair
    cases hPair
    exact absurd rfl (hAlone rfl)
  · rename_i hCons
    cases hCons
    rw [if_pos h]

@[simp] theorem lines_nil : lines [] = [] := rfl

/-- Text without a break is collected into the current line. -/
theorem linesFrom_append_unbroken {s : List Char} (h : Unbroken s) (line rest : List Char) :
    linesFrom line (s ++ rest) = linesFrom (s.reverse ++ line) rest := by
  induction s generalizing line with
  | nil => rfl
  | cons c s ih =>
      rw [List.cons_append, linesFrom_cons_unbroken (h c List.mem_cons_self),
        ih (fun x hx => h x (List.mem_cons_of_mem _ hx)), List.reverse_cons, List.append_assoc,
        List.singleton_append]

/-- An end closes the current line, whatever it has collected. -/
theorem linesFrom_append_stop {stop rest : List Char} (h : LineEnd stop rest) (line : List Char) :
    linesFrom line (stop ++ rest) = line.reverse :: lines rest := by
  cases h with
  | pair => rfl
  | single hBreak hAlone => exact linesFrom_cons_break hBreak hAlone line

/-- A text without a break is closed as a line by what ends it. -/
theorem lines_append_stop {line stop rest : List Char} (hLine : Unbroken line)
    (hStop : LineEnd stop rest) : lines (line ++ (stop ++ rest)) = line :: lines rest := by
  rw [lines, linesFrom_append_unbroken hLine, linesFrom_append_stop hStop]
  simp

theorem HasLines.lines_eq {s : List Char} {ls : List (List Char)} (h : HasLines s ls) :
    lines s = ls := by
  induction h with
  | nil => rfl
  | @last line hLine hNonempty =>
      have hRead := linesFrom_append_unbroken hLine [] []
      rw [List.append_nil, List.append_nil] at hRead
      rw [lines, hRead]
      simp [linesFrom_nil, hNonempty]
  | cons hLine hStop _ ih => rw [lines_append_stop hLine hStop, ih]

theorem HasLines.isPrefix {s line : List Char} {ls : List (List Char)}
    (h : HasLines s (line :: ls)) : line <+: s := by
  cases h with
  | last => exact List.prefix_refl _
  | cons => exact List.prefix_append _ _

/-- Reading finds lines of which the text consists, together with what was collected before. -/
theorem hasLines_linesFrom (line s : List Char) (h : Unbroken line) :
    HasLines (line.reverse ++ s) (linesFrom line s) := by
  have hReverse : ∀ {l : List Char}, Unbroken l → Unbroken l.reverse :=
    fun hl c hc => hl c (List.mem_reverse.mp hc)
  fun_induction linesFrom line s with
  | case1 line hEmpty =>
      rw [List.isEmpty_iff.mp hEmpty]
      exact .nil
  | case2 line hFilled =>
      rw [List.append_nil]
      exact .last (hReverse h) (by simpa using hFilled)
  | case3 line rest ih => exact .cons (hReverse h) (.pair rest) (ih (by simp [Unbroken]))
  | case4 line c rest hPair hBreak ih =>
      refine HasLines.cons (hReverse h) (LineEnd.single hBreak ?_) (ih (by simp [Unbroken]))
      rintro rfl hHead
      obtain ⟨tail, rfl⟩ := List.head?_eq_some_iff.mp hHead
      exact hPair tail rfl rfl
  | case5 line c rest _ hBreak ih =>
      have hNext : Unbroken (c :: line) := by
        rintro x hx
        rcases List.mem_cons.mp hx with rfl | hx
        · simpa using hBreak
        · exact h x hx
      simpa using ih hNext

theorem hasLines_lines (s : List Char) : HasLines s (lines s) :=
  hasLines_linesFrom [] s (by simp [Unbroken])

/-- A text has one list of lines, the one that is read. -/
theorem lines_eq_iff {s : List Char} {ls : List (List Char)} : lines s = ls ↔ HasLines s ls :=
  ⟨fun h => h ▸ hasLines_lines s, HasLines.lines_eq⟩

/-- Where not all items of a list pass a test, one is the first that does not. -/
theorem exists_first_not {α : Type} {p : α → Prop} {l : List α} (h : ¬ ∀ a ∈ l, p a) :
    ∃ before a after, l = before ++ a :: after ∧ (∀ b ∈ before, p b) ∧ ¬ p a := by
  classical
  cases hFind : l.find? (fun a => decide (¬ p a)) with
  | none =>
      have hAll := List.find?_eq_none.mp hFind
      exact absurd (fun a ha => by simpa using hAll a ha) h
  | some a =>
      obtain ⟨ha, before, after, rfl, hBefore⟩ := List.find?_eq_some_iff_append.mp hFind
      exact ⟨before, a, after, rfl, by simpa using hBefore, by simpa using ha⟩

/-- A text that is broken somewhere is broken a first time. -/
theorem exists_first_break {s : List Char} (h : ¬ Unbroken s) :
    ∃ before c after, s = before ++ c :: after ∧ Unbroken before ∧ isLineBreak c = true := by
  obtain ⟨before, c, after, hForm, hBefore, hc⟩ := exists_first_not h
  exact ⟨before, c, after, hForm, hBefore, by simpa using hc⟩

/-- The first break of a text closes its first line. -/
theorem exists_lines_of_break {line : List Char} (rest : List Char) {c : Char}
    (hLine : Unbroken line) (hBreak : isLineBreak c = true) :
    ∃ ls, lines (line ++ c :: rest) = line :: ls := by
  rw [lines, linesFrom_append_unbroken hLine, List.append_nil, linesFrom.eq_def]
  split
  · simp_all
  · exact ⟨_, by rw [List.reverse_reverse]⟩
  · rename_i hCons
    cases hCons
    exact ⟨linesFrom [] rest, by simp [hBreak]⟩

end ScenarioRunner.Text
