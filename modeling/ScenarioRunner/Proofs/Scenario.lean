import ScenarioRunner.Proofs.Except
import ScenarioRunner.Proofs.Text.Blank
import ScenarioRunner.Scenario.File

/-! What is read from scenarios: every action is kept without blanks around it. -/
namespace ScenarioRunner

/-- The actions of a case have no blanks around them. -/
def TestCase.Trimmed (case : TestCase) : Prop :=
  ∀ step ∈ case.steps, trimmed step.action = step.action

namespace Scenario

theorem trimmed_textOf (s : List Char) : trimmed (textOf s) = textOf s := by
  rw [trimmed, textOf, String.toList_ofList, Text.trim_trim]

/-- The action of a step line is trimmed. -/
theorem trimmed_of_readStepLine {line : List Char} {action : String} {comment : Option String}
    (hRead : readStepLine line = some (action, comment)) : trimmed action = action := by
  rw [readStepLine] at hRead
  split at hRead
  · simp at hRead
  · simp at hRead
  · obtain ⟨hAction, -⟩ := Prod.mk.inj (Option.some.inj hRead)
    rw [← hAction, trimmed_textOf]

/-- So is the action of every step that is read in a body. -/
theorem trimmed_of_mem_readBody {workflow : String} {pending : Option String}
    {lines : List (List Char)} {step : Step} (hStep : step ∈ (readBody workflow pending lines).2) :
    trimmed step.action = step.action := by
  induction lines generalizing pending with
  | nil => simp [readBody] at hStep
  | cons line rest ih =>
      rw [readBody] at hStep
      split at hStep
      · exact ih hStep
      · split at hStep
        · rename_i action comment hRead
          rcases List.mem_cons.mp hStep with rfl | hRest
          · exact trimmed_of_readStepLine hRead
          · exact ih hRest
        · exact ih hStep

/-- Cases are trimmed throughout. -/
theorem trimmed_of_mem_readCases {workflow : String} {lines : List (List Char)} {case : TestCase}
    (hCase : case ∈ readCases workflow lines) : case.Trimmed := by
  induction lines with
  | nil => simp [readCases] at hCase
  | cons line rest ih =>
      rw [readCases] at hCase
      split at hCase
      · exact ih hCase
      · rcases List.mem_cons.mp hCase with rfl | hRest
        · exact fun step hStep => trimmed_of_mem_readBody hStep
        · exact ih hRest

/-- The cases of scenario files have trimmed actions. -/
theorem trimmed_of_mem_ofFiles {files : FileTree} {paths : List Path} {cases : List TestCase}
    (hRead : ofFiles files paths = .ok cases) : ∀ case ∈ cases, case.Trimmed := by
  induction paths generalizing cases with
  | nil =>
      cases hRead
      simp
  | cons path rest ih =>
      obtain ⟨first, hFirst, hRead⟩ := bind_eq_ok_iff.mp hRead
      obtain ⟨others, hOthers, hRead⟩ := bind_eq_ok_iff.mp hRead
      obtain rfl : first ++ others = cases := pure_eq_ok_iff.mp hRead
      obtain ⟨text, -, hText⟩ := bind_eq_ok_iff.mp hFirst
      intro case hCase
      rcases List.mem_append.mp hCase with hHere | hThere
      · obtain rfl := pure_eq_ok_iff.mp hText
        exact trimmed_of_mem_readCases hHere
      · exact ih hOthers case hThere

end Scenario

end ScenarioRunner
