import Mathlib.Data.List.TakeWhile
import ScenarioRunner.Proofs.Scenario.Sections

/-! Scenario texts put behind one another. What a text says does not depend on the text before it,
as long as the first line in it opens a case: no remark is left over for it, and nothing in it
belongs to a case of the other. -/
namespace ScenarioRunner

namespace Text

/-- A newline between two texts ends the last line of the first one, or makes one empty line if that
line has an end already. -/
theorem lines_append_newline (s t : List Char) :
    ∃ gap, (∀ line ∈ gap, line = []) ∧ lines (s ++ '\n' :: t) = lines s ++ (gap ++ lines t) := by
  have hNewline : LineEnd ['\n'] t := .single (by decide) (by simp)
  obtain ⟨ls, hLines⟩ : ∃ ls, HasLines s ls := ⟨lines s, hasLines_lines s⟩
  rw [hLines.lines_eq]
  induction hLines with
  | nil =>
      have hEmpty : Unbroken [] := by simp [Unbroken]
      exact ⟨[[]], by simp, lines_append_stop hEmpty hNewline⟩
  | @last line hLine hNonempty => exact ⟨[], by simp, lines_append_stop hLine hNewline⟩
  | @cons line stop rest ls hLine hStop tail ih =>
      by_cases hReturn : stop = ['\r'] ∧ rest = []
      · -- the newline belongs to the carriage return before it
        obtain ⟨rfl, rfl⟩ := hReturn
        cases tail.lines_eq
        refine ⟨[], by simp, ?_⟩
        rw [List.append_assoc]
        exact lines_append_stop hLine (.pair t)
      · obtain ⟨gap, hGap, hRest⟩ := ih
        have hStop : LineEnd stop (rest ++ '\n' :: t) := by
          cases hStop with
          | pair => exact .pair _
          | @single c _ hBreak hAlone =>
              refine .single hBreak ?_
              rintro rfl
              cases rest with
              | nil => exact absurd ⟨rfl, rfl⟩ hReturn
              | cons d rest => simpa using hAlone rfl
        refine ⟨gap, hGap, ?_⟩
        rw [List.append_assoc, List.append_assoc, lines_append_stop hLine hStop, hRest,
          List.cons_append]

end Text

namespace Scenario

open Text

def firstLine? (text : String) : Option (List Char) :=
  ((lines text.toList).map trim).find? (!·.isEmpty)

/-- Empty lines at the end of a body add nothing to it. -/
theorem readBody_append_empty {workflow : String} (body : List (List Char))
    {gap : List (List Char)} (hGap : ∀ line ∈ gap, line = []) (pending : Option String) :
    readBody workflow pending (body ++ gap) = readBody workflow pending body := by
  induction body generalizing pending with
  | nil =>
      induction gap with
      | nil => rfl
      | cons line gap ih =>
          obtain ⟨rfl, hRest⟩ := List.forall_mem_cons.mp hGap
          exact ih hRest
  | cons line body ih =>
      simp only [List.cons_append, readBody, ih]

section

variable {next : List (List Char)}
  (hOpens : ∀ line ∈ next.find? (!·.isEmpty), isHeader line = true)

include hOpens

/-- Before the header of the first case nothing is said. -/
theorem eq_nil_of_mem_bodyLines : ∀ line ∈ bodyLines next, line = [] := by
  induction next with
  | nil => simp [bodyLines]
  | cons line rest ih =>
      cases line with
      | nil =>
          have hBody : bodyLines ([] :: rest) = [] :: bodyLines rest := by
            simp [bodyLines, title?]
          rw [hBody]
          exact List.forall_mem_cons.mpr ⟨rfl, ih (by simpa using hOpens)⟩
      | cons c line =>
          have hHeader : isHeader (c :: line) = true := hOpens _ (by simp)
          simp [bodyLines, title?_eq, hHeader]

/-- The last case before the next header gets nothing but empty lines from behind it. -/
theorem bodyLines_append_next (rest : List (List Char)) :
    ∃ gap, (∀ line ∈ gap, line = []) ∧ bodyLines (rest ++ next) = bodyLines rest ++ gap := by
  rw [bodyLines, List.takeWhile_append]
  split
  · rename_i hWhole
    refine ⟨bodyLines next, eq_nil_of_mem_bodyLines hOpens, ?_⟩
    rw [bodyLines, (List.takeWhile_prefix _).eq_of_length hWhole]
    rfl
  · exact ⟨[], by simp, (List.append_nil _).symm⟩

/-- Lines that start with a case are read on their own. -/
theorem readCases_append_next (workflow : String) (ls : List (List Char)) :
    readCases workflow (ls ++ next) = readCases workflow ls ++ readCases workflow next := by
  induction ls with
  | nil => rfl
  | cons line rest ih =>
      rw [List.cons_append, readCases, readCases]
      split
      · exact ih
      · obtain ⟨gap, hGap, hBody⟩ := bodyLines_append_next hOpens rest
        rw [hBody, readBody_append_empty _ hGap, ih]
        rfl

end

/-- A text that starts with a case, whatever blank lines stand before it, says behind any other text
what it says alone, and the other text says what it says without it. -/
theorem read_append (first second workflow : String)
    (hOpens : ∀ line ∈ firstLine? second, isHeader line = true) :
    read (first ++ "\n" ++ second) workflow = read first workflow ++ read second workflow := by
  obtain ⟨gap, hGap, hLines⟩ := lines_append_newline first.toList second.toList
  have hText : (first ++ "\n" ++ second).toList = first.toList ++ '\n' :: second.toList := by simp
  have hEmpty : ∀ line ∈ gap.map trim, line = [] := by
    intro line hLine
    obtain ⟨raw, hRaw, rfl⟩ := List.mem_map.mp hLine
    rw [hGap raw hRaw]
    rfl
  have hNext : ∀ line ∈ (gap.map trim ++ (lines second.toList).map trim).find? (!·.isEmpty),
      isHeader line = true := by
    have hSkip : (gap.map trim).find? (!·.isEmpty) = none := by
      simpa using fun line hLine => hEmpty _ (List.mem_map_of_mem hLine)
    rwa [List.find?_append, hSkip, Option.none_or]
  have hUntitled : ∀ line ∈ gap.map trim, title? line = none := by
    intro line hLine
    rw [hEmpty line hLine]
    rfl
  calc read (first ++ "\n" ++ second) workflow
      = readCases workflow ((lines first.toList).map trim ++
          (gap.map trim ++ (lines second.toList).map trim)) := by
        rw [read, hText, hLines, List.map_append, List.map_append]
    _ = readCases workflow ((lines first.toList).map trim) ++
          readCases workflow (gap.map trim ++ (lines second.toList).map trim) :=
        readCases_append_next hNext workflow _
    _ = read first workflow ++ read second workflow := by
        rw [readCases_append hUntitled]
        rfl

/-- A text that ends in a remark and a carriage return, before one that starts with blank lines. -/
theorem read_append_return :
    (∀ line ∈ firstLine? "\n\t\u2028 ## b\nclose", isHeader line = true) ∧
      read ("## a\nopen\n# lost\r" ++ "\n" ++ "\n\t\u2028 ## b\nclose") "w" =
        read "## a\nopen\n# lost\r" "w" ++ read "\n\t\u2028 ## b\nclose" "w" := by
  have hOpens : ∀ line ∈ firstLine? "\n\t\u2028 ## b\nclose", isHeader line = true := by
    decide +kernel
  exact ⟨hOpens, read_append _ _ _ hOpens⟩

end Scenario

end ScenarioRunner
