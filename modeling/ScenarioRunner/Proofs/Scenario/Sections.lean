import Mathlib.Data.List.Forall2
import Mathlib.Data.List.Infix
import ScenarioRunner.Proofs.Scenario.Writing

/-! What a scenario text says, told without reading it from the first line to the last. Its trimmed
lines are those before the first header, which say nothing, and then one section for each header:
the header and the lines up to the next one. Every section is one case, and every line of it has at
most one meaning there, by how it starts. -/
namespace ScenarioRunner

open Text

namespace Scenario

/-! How a trimmed line starts. -/

def isHeader (line : List Char) : Bool := ['#', '#', ' '].isPrefixOf line

def isRemark (line : List Char) : Bool := ['#', ' '].isPrefixOf line

/-- Holds a step: there is something on the line, and it does not start with `#`. -/
def isStep (line : List Char) : Bool := line.head?.any (· != '#')

def headerText (line : List Char) : String := textOf (line.drop 3)

def remarkText (line : List Char) : String := textOf (line.drop 2)

/-- A line has a title just when it is a header. -/
theorem title?_eq (line : List Char) :
    title? line = if isHeader line then some (headerText line) else none := by
  rw [title?.eq_def]
  split
  · simp [isHeader, headerText]
  · rename_i hOther
    rw [if_neg]
    intro hHeader
    obtain ⟨rest, rfl⟩ := List.isPrefixOf_iff_prefix.mp hHeader
    exact hOther rest rfl

/-- A line has a remark just when it is one. -/
theorem remark?_eq (line : List Char) :
    remark? line = if isRemark line then some (remarkText line) else none := by
  rw [remark?.eq_def]
  split
  · simp [isRemark, remarkText]
  · rename_i hOther
    rw [if_neg]
    intro hRemark
    obtain ⟨rest, rfl⟩ := List.isPrefixOf_iff_prefix.mp hRemark
    exact hOther rest rfl

theorem isStep_eq_false_of_isRemark {line : List Char} (h : isRemark line = true) :
    isStep line = false := by
  obtain ⟨rest, rfl⟩ := List.isPrefixOf_iff_prefix.mp h
  rfl

/-! The parts of a step line. -/

/-- A step line is all action, or it is cut at the first `#` that has blanks on both sides. -/
inductive Parts (line : List Char) : String → Option String → Prop where
  | whole (hNone : ¬ HoldsComment line) : Parts line (textOf line) none
  | cut {before rest : List Char} {b d : Char} (hLine : line = before ++ b :: '#' :: d :: rest)
      (hBefore : isBlank b = true) (hBehind : isBlank d = true)
      (hFirst : ¬ HoldsComment (before ++ [b])) :
      Parts line (textOf (before ++ [b])) (some (textOf rest))

/-- What comes right before the `#` of a comment is blank. -/
theorem exists_blank_before_cut {b : Char} {s action comment : List Char}
    (hCut : cutAtComment (isBlank b) s = (action, some comment)) :
    ∃ before c, b :: action = before ++ [c] ∧ isBlank c = true := by
  induction s generalizing b action with
  | nil => simp [cutAtComment] at hCut
  | cons c rest ih =>
      cases rest with
      | nil => simp [cutAtComment] at hCut
      | cons d rest =>
          rw [cutAtComment] at hCut
          split at hCut
          · rename_i hHere
            simp only [Bool.and_eq_true, beq_iff_eq] at hHere
            obtain ⟨rfl, -⟩ := Prod.mk.inj hCut
            exact ⟨[], b, rfl, hHere.1.1⟩
          · obtain ⟨rfl, hComment⟩ := Prod.mk.inj hCut
            obtain ⟨before, x, hForm, hx⟩ := ih (Prod.ext rfl hComment)
            exact ⟨b :: before, x, by rw [hForm, List.cons_append], hx⟩

/-- A step line is cut at its comment into its parts. -/
theorem parts_cutAtComment (line : List Char) :
    Parts line (textOf (cutAtComment false line).1) ((cutAtComment false line).2.map textOf) := by
  have hFirst : ¬ HoldsComment (cutAtComment false line).1 := fun hHolds =>
    not_holdsComment_cutAtComment '#' line (holdsComment_cons.mpr (.inr hHolds))
  rcases cutAtComment_form '#' line with hWhole | ⟨-, action, d, comment, hCut, hLine, hd⟩
  · have hWhole : cutAtComment false line = (line, none) := hWhole
    rw [hWhole] at hFirst ⊢
    exact .whole hFirst
  · obtain ⟨before, b, hForm, hb⟩ := exists_blank_before_cut hCut
    have hCut : cutAtComment false line = (action, some comment) := hCut
    rw [hCut] at hFirst ⊢
    -- the line was read as if behind a `#`, which is not the blank
    cases before with
    | nil =>
        obtain ⟨rfl, -⟩ := List.cons.inj hForm
        exact absurd hb (by decide)
    | cons c before =>
        obtain ⟨-, rfl⟩ := List.cons.inj hForm
        exact .cut (by simpa using hLine) hb hd hFirst

/-- A line is a step unless it is blank or begins with a mark. -/
theorem readStepLine_eq {line : List Char} (hTrim : trim line = line) :
    readStepLine line =
      if isStep line then
        some (textOf (cutAtComment false line).1, (cutAtComment false line).2.map textOf)
      else none := by
  rw [readStepLine, hTrim]
  split
  · rfl
  · rfl
  · rename_i hFilled hMarked
    rw [if_pos]
    cases line with
    | nil => exact absurd rfl hFilled
    | cons c rest =>
        simp only [isStep, List.head?_cons, Option.any_some, bne_iff_ne]
        rintro rfl
        exact hMarked rest rfl

/-! The remark that a step takes when it has no comment of its own. -/

/-- The last remark in these lines that no step comes after. -/
def lastRemark (earlier : List (List Char)) : Option String :=
  ((earlier.reverse.takeWhile (!isStep ·)).find? isRemark).map remarkText

theorem lastRemark_append_step {line : List Char} (h : isStep line = true)
    (earlier : List (List Char)) : lastRemark (earlier ++ [line]) = none := by
  simp [lastRemark, h]

/-- A remark is the last one so far. -/
theorem lastRemark_append_remark {line : List Char} (h : isRemark line = true)
    (earlier : List (List Char)) : lastRemark (earlier ++ [line]) = some (remarkText line) := by
  simp [lastRemark, h, isStep_eq_false_of_isRemark h]

/-- Lines that are neither steps nor remarks leave the last remark in place. -/
theorem lastRemark_append_other {line : List Char} (hStep : isStep line = false)
    (hRemark : isRemark line = false) (earlier : List (List Char)) :
    lastRemark (earlier ++ [line]) = lastRemark earlier := by
  simp [lastRemark, hStep, hRemark]

end Scenario

open Scenario

/-! Sections. -/

/-- A line `place.2` behind the lines `place.1` of its section says this step. -/
inductive Step.ReadFrom (workflow : String) (place : List (List Char) × List Char) :
    Step → Prop where
  | intro {action : String} {inline : Option String} (hParts : Parts place.2 action inline) :
      Step.ReadFrom workflow place ⟨action, inline <|> lastRemark place.1, workflow⟩

namespace Scenario

/-- The step lines among lines that come after `earlier`, each with all lines before it. -/
def stepPlaces (earlier body : List (List Char)) : List (List (List Char) × List Char) :=
  ((body.inits.map (earlier ++ ·)).zip body).filter fun place => isStep place.2

/-- The steps of a section have the lines before them in view. -/
theorem stepPlaces_cons (earlier : List (List Char)) (line : List Char)
    (rest : List (List Char)) :
    stepPlaces earlier (line :: rest) =
      (if isStep line then [(earlier, line)] else []) ++ stepPlaces (earlier ++ [line]) rest := by
  simp only [stepPlaces, List.inits_cons, List.map_cons, List.append_nil, List.zip_cons_cons,
    List.map_map, List.filter_cons]
  have hShift : ((earlier ++ ·) ∘ fun later => line :: later) = ((earlier ++ [line]) ++ ·) := by
    funext later
    simp
  rw [hShift]
  split <;> rfl

/-- From any line of a section on, the remarks are those below it, and the steps are told by their
lines and what comes before these in the whole section. -/
theorem readBody_tells (workflow : String) {body : List (List Char)}
    (hTrim : ∀ line ∈ body, trim line = line) (earlier : List (List Char)) :
    (readBody workflow (lastRemark earlier) body).1 = (body.filter isRemark).map remarkText ∧
      List.Forall₂ (Step.ReadFrom workflow) (stepPlaces earlier body)
        (readBody workflow (lastRemark earlier) body).2 := by
  -- the lines before are general: a step below looks back at all of them
  induction body generalizing earlier with
  | nil => exact ⟨rfl, .nil⟩
  | cons line rest ih =>
      obtain ⟨hLine, hRest⟩ := List.forall_mem_cons.mp hTrim
      obtain ⟨hRemarks, hSteps⟩ := ih hRest (earlier ++ [line])
      rw [stepPlaces_cons, readBody, remark?_eq, readStepLine_eq hLine]
      cases hRemark : isRemark line with
      | true =>
          rw [lastRemark_append_remark hRemark] at hRemarks hSteps
          simp [isStep_eq_false_of_isRemark hRemark, hRemark, hRemarks, hSteps]
      | false =>
          cases hStep : isStep line with
          | true =>
              have hHere : Step.ReadFrom workflow (earlier, line) _ :=
                .intro (parts_cutAtComment line)
              rw [lastRemark_append_step hStep] at hRemarks hSteps
              simpa [hRemark, hRemarks, hSteps] using hHere
          | false =>
              rw [lastRemark_append_other hStep hRemark] at hRemarks hSteps
              simp [hRemark, hRemarks, hSteps]

/-- A header with the lines up to the next one. -/
structure Section where
  header : List Char
  body : List (List Char)
  opens : isHeader header = true
  plain : ∀ line ∈ body, isHeader line = false

def Section.lines (s : Section) : List (List Char) := s.header :: s.body

end Scenario

/-- A case is all that its section says: the name in the header, the remarks, and a step for each
step line, in the order of the lines. -/
structure TestCase.ReadFrom (workflow : String) (s : Scenario.Section) (case : TestCase) :
    Prop where
  name : case.name = headerText s.header
  comments : case.comments = (s.body.filter isRemark).map remarkText
  steps : List.Forall₂ (Step.ReadFrom workflow) (stepPlaces [] s.body) case.steps

namespace Scenario

/-- Up to the first section there is no header. -/
theorem bodyLines_append {before : List (List Char)}
    (hBefore : ∀ line ∈ before, isHeader line = false) (sections : List Section) :
    bodyLines (before ++ sections.flatMap Section.lines) = before := by
  rw [bodyLines, List.takeWhile_append_of_pos fun line hLine => by
    simp [title?_eq, hBefore line hLine]]
  cases sections with
  | nil => simp
  | cons s rest => simp [Section.lines, title?_eq, s.opens]

/-- A text is parted at its headers, and each section is read on its own. -/
theorem readCases_sections {workflow : String} {ls : List (List Char)}
    (hTrim : ∀ line ∈ ls, trim line = line) :
    ∃ before sections, ls = before ++ sections.flatMap Section.lines ∧
      (∀ line ∈ before, isHeader line = false) ∧
      List.Forall₂ (TestCase.ReadFrom workflow) sections (readCases workflow ls) := by
  -- the lines below a header, up to the first section there, become the body of its own section
  induction ls with
  | nil => exact ⟨[], [], rfl, by simp, .nil⟩
  | cons line rest ih =>
      obtain ⟨hLine, hRest⟩ := List.forall_mem_cons.mp hTrim
      obtain ⟨before, sections, hForm, hBefore, hCases⟩ := ih hRest
      rw [readCases, title?_eq]
      cases hHeader : isHeader line with
      | true =>
          have hBody : bodyLines rest = before := hForm ▸ bodyLines_append hBefore sections
          have hTrimmed : ∀ line ∈ before, trim line = line := fun line hMem =>
            hRest line (hForm ▸ List.mem_append_left _ hMem)
          obtain ⟨hRemarks, hSteps⟩ := readBody_tells workflow hTrimmed []
          refine ⟨[], ⟨line, before, hHeader, hBefore⟩ :: sections, ?_, by simp, ?_⟩
          · simp [Section.lines, hForm]
          · rw [if_pos rfl, hBody]
            exact .cons ⟨rfl, hRemarks, hSteps⟩ hCases
      | false =>
          exact ⟨line :: before, sections, by rw [hForm, List.cons_append],
            List.forall_mem_cons.mpr ⟨hHeader, hBefore⟩, hCases⟩

/-- Every text is read section by section. Its trimmed lines are lines before the first header,
which no case takes anything from, and then the sections, one for each header; the cases are what
the sections say, one for each, in their order. -/
theorem read_sections (text workflow : String) :
    ∃ ls before sections, HasLines text.toList ls ∧
      ls.map trim = before ++ sections.flatMap Section.lines ∧
      (∀ line ∈ before, isHeader line = false) ∧
      List.Forall₂ (TestCase.ReadFrom workflow) sections (read text workflow) := by
  have hTrim : ∀ line ∈ (lines text.toList).map trim, trim line = line := by
    intro line hLine
    obtain ⟨raw, -, rfl⟩ := List.mem_map.mp hLine
    exact trim_trim raw
  obtain ⟨before, sections, hForm, hBefore, hCases⟩ := readCases_sections hTrim
  exact ⟨lines text.toList, before, sections, hasLines_lines text.toList, hForm, hBefore, hCases⟩

/-- A comment on the line itself goes before the remark above it, and no remark goes further than
one step. -/
example : read "lost\n##no\n## a \n# one\n#x\n## b\n# two\u2028\ngo # c#\ngo#\n" "w" =
    [⟨"a", ["one"], []⟩, ⟨"b", ["two"], [⟨"go", some "c#", "w"⟩, ⟨"go#", none, "w"⟩]⟩] := by
  decide +kernel

end Scenario

end ScenarioRunner
