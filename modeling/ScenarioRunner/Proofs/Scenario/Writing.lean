import ScenarioRunner.Proofs.Scenario
import ScenarioRunner.Proofs.Text.Lines

/-! Cases written out as a scenario text, and read again. What is read from any text can be written:
its names, actions and comments are single lines without blanks around them, and no action could be
taken for a header or a remark, or for a step with a comment behind it. Such cases come back as they
were, except that their remarks are now the comments of their steps. -/
namespace ScenarioRunner

namespace Text

/-- A text on one line, with something in it and no blanks around it. -/
structure Neat (s : List Char) : Prop where
  nonempty : s ≠ []
  trimmed : trim s = s
  unbroken : Unbroken s

theorem Unbroken.of_infix {s t : List Char} (h : Unbroken t) (hInfix : s <:+: t) : Unbroken s :=
  fun c hc => h c (hInfix.subset hc)

/-- The lines of a text have no breaks in them. -/
theorem HasLines.unbroken {s : List Char} {ls : List (List Char)} (h : HasLines s ls) :
    ∀ line ∈ ls, Unbroken line := by
  induction h with
  | nil => simp
  | last hLine _ => simpa using hLine
  | cons hLine _ _ ih => exact List.forall_mem_cons.mpr ⟨hLine, ih⟩

theorem trim_isInfix (s : List Char) : trim s <:+: s := by
  obtain ⟨before, after, hForm, -, -⟩ := exists_trim s
  exact ⟨before, after, hForm.symm⟩

/-- Only a text of blanks is trimmed to nothing. -/
theorem trim_ne_nil {s : List Char} {c : Char} (hc : c ∈ s) (hBlank : isBlank c = false) :
    trim s ≠ [] := by
  intro hNil
  obtain ⟨before, after, hForm, hBefore, hAfter⟩ := exists_trim s
  rw [hForm, hNil, List.append_nil, List.mem_append] at hc
  rcases hc with hc | hc
  · simp [hBefore c hc] at hBlank
  · simp [hAfter c hc] at hBlank

/-- What is left of a trimmed line is neat, unless nothing is left. -/
theorem neat_trim {s : List Char} (hUnbroken : Unbroken s) {c : Char} (hc : c ∈ s)
    (hBlank : isBlank c = false) : Neat (trim s) where
  nonempty := trim_ne_nil hc hBlank
  trimmed := trim_trim s
  unbroken := hUnbroken.of_infix (trim_isInfix s)

/-- Trimming an end does not go past what is not blank. -/
theorem trimEnd_append {s t : List Char} (h : trimEnd t ≠ []) :
    trimEnd (s ++ t) = s ++ trimEnd t := by
  have hFilled : ¬ (t.reverse.dropWhile isBlank).isEmpty = true := by
    simpa [trimEnd] using h
  rw [trimEnd, List.reverse_append, List.dropWhile_append, if_neg hFilled]
  simp [trimEnd]

theorem trimEnd_eq_self {s : List Char} (h : trim s = s) : trimEnd s = s := by
  rw [← h]
  exact trimEnd_trimEnd (s.dropWhile isBlank)

theorem not_blank_of_trim_eq_cons {s rest : List Char} {c : Char} (h : trim s = c :: rest) :
    isBlank c = false := by
  have hTrim : trim s = trimEnd (s.dropWhile isBlank) := rfl
  rw [hTrim] at h
  cases hStart : s.dropWhile isBlank with
  | nil => simp [hStart, trimEnd] at h
  | cons d more =>
      have hFirst : isBlank d = false := by
        have hHead := List.head?_dropWhile_not isBlank s
        simpa [hStart] using hHead
      rw [hStart, trimEnd_cons hFirst] at h
      obtain ⟨rfl, -⟩ := List.cons.inj h
      exact hFirst

/-- A trimmed text does not end in blanks. -/
theorem exists_not_blank {s t : List Char} (hTrim : trim (s ++ t) = s ++ t) (ht : t ≠ []) :
    ∃ c ∈ t, isBlank c = false := by
  by_contra hNone
  have hBlank : ∀ c ∈ t, isBlank c = true := by simpa using hNone
  have hEnd := trimEnd_eq_self hTrim
  rw [trimEnd, List.reverse_append,
    List.dropWhile_append_of_pos fun c hc => hBlank c (List.mem_reverse.mp hc)] at hEnd
  have hLength := congrArg List.length hEnd
  have hShort := (List.dropWhile_sublist isBlank (l := s.reverse)).length_le
  have hSome := List.length_pos_iff.mpr ht
  simp only [List.length_reverse, List.length_append] at hLength hShort
  omega

/-- What stands before a neat text belongs to it, if that does not start with a blank. -/
theorem Neat.append {s : List Char} (h : Neat s) (start : List Char) {c : Char}
    (hBlank : isBlank c = false) (hStart : Unbroken (c :: start)) : Neat (c :: (start ++ s)) where
  nonempty := by simp
  trimmed := by
    have hEnd : trimEnd s = s := trimEnd_eq_self h.trimmed
    have hFilled : trimEnd s ≠ [] := by rw [hEnd]; exact h.nonempty
    rw [trim_cons hBlank, trimEnd_append hFilled, hEnd]
  unbroken := by
    rw [← List.cons_append]
    exact unbroken_append.mpr ⟨hStart, h.unbroken⟩

/-- Lines that are all ended by newlines. -/
theorem hasLines_newlines {ls : List (List Char)} (h : ∀ line ∈ ls, Unbroken line) :
    HasLines (ls.flatMap fun line => line ++ ['\n']) ls := by
  induction ls with
  | nil => exact .nil
  | cons line rest ih =>
      obtain ⟨hLine, hRest⟩ := List.forall_mem_cons.mp h
      rw [List.flatMap_cons, List.append_assoc]
      exact .cons hLine (.single (by decide) (by simp)) (ih hRest)

end Text

namespace Scenario

open Text

/-- Somewhere in the text a `#` has a blank on both sides. -/
def HoldsComment (s : List Char) : Prop :=
  ∃ before c d after, s = before ++ c :: '#' :: d :: after ∧ isBlank c = true ∧ isBlank d = true

end Scenario

open Text Scenario

/-- The step can stand on a line of its own, after a line with its comment. -/
structure Step.Writable (workflow : String) (step : Step) : Prop where
  action : Neat step.action.toList
  notMarked : step.action.toList.head? ≠ some '#'
  noComment : ¬ HoldsComment step.action.toList
  comment : ∀ text ∈ step.comment, Neat text.toList
  workflow : step.workflow = workflow

structure TestCase.Writable (workflow : String) (case : TestCase) : Prop where
  name : Neat case.name.toList
  steps : ∀ step ∈ case.steps, step.Writable workflow

namespace Scenario

/-! Cutting a line at its comment. -/

theorem HoldsComment.length_le {s : List Char} (h : HoldsComment s) : 3 ≤ s.length := by
  obtain ⟨before, c, d, after, rfl, -, -⟩ := h
  simp only [List.length_append, List.length_cons]
  omega

/-- A comment is held at the front or further on. -/
theorem holdsComment_cons {c : Char} {s : List Char} :
    HoldsComment (c :: s) ↔
      (isBlank c = true ∧ ∃ d rest, s = '#' :: d :: rest ∧ isBlank d = true) ∨ HoldsComment s := by
  constructor
  · rintro ⟨before, x, d, after, hForm, hx, hd⟩
    cases before with
    | nil =>
        obtain ⟨rfl, rfl⟩ := List.cons.inj hForm
        exact .inl ⟨hx, d, after, rfl, hd⟩
    | cons b before =>
        obtain ⟨rfl, rfl⟩ := List.cons.inj hForm
        exact .inr ⟨before, x, d, after, rfl, hx, hd⟩
  · rintro (⟨hc, d, rest, rfl, hd⟩ | ⟨before, x, d, after, rfl, hx, hd⟩)
    · exact ⟨[], c, d, rest, rfl, hc, hd⟩
    · exact ⟨c :: before, x, d, after, rfl, hx, hd⟩

/-- A text holds the comments of its parts. -/
theorem HoldsComment.of_infix {s t : List Char} (h : HoldsComment s) (hInfix : s <:+: t) :
    HoldsComment t := by
  obtain ⟨before, c, d, after, rfl, hc, hd⟩ := h
  obtain ⟨first, last, rfl⟩ := hInfix
  exact ⟨first ++ before, c, d, after ++ last, by simp, hc, hd⟩

/-- A line after a character `b` is all action, or the `#` of its comment parts the action from what
the comment says. -/
theorem cutAtComment_form (b : Char) (s : List Char) :
    cutAtComment (isBlank b) s = (s, none) ∨
      HoldsComment (b :: s) ∧ ∃ action d comment,
        cutAtComment (isBlank b) s = (action, some comment) ∧
          s = action ++ '#' :: d :: comment ∧ isBlank d = true := by
  induction s generalizing b with
  | nil => exact .inl rfl
  | cons c rest ih =>
      cases rest with
      | nil => exact .inl rfl
      | cons d rest =>
          rw [cutAtComment]
          split
          · rename_i hCut
            simp only [Bool.and_eq_true, beq_iff_eq] at hCut
            obtain ⟨⟨hb, rfl⟩, hd⟩ := hCut
            exact .inr ⟨⟨[], b, d, rest, rfl, hb, hd⟩, [], d, rest, rfl, rfl, hd⟩
          · rcases ih c with hWhole | ⟨hHolds, action, d', comment, hParts, hForm, hd⟩
            · exact .inl (by rw [hWhole])
            · refine .inr ⟨holdsComment_cons.mpr (.inr hHolds), c :: action, d', comment,
                ?_, ?_, hd⟩
              · rw [hParts]
              · rw [hForm, List.cons_append]

/-- What stands before a comment is a front of the line. -/
theorem prefix_cutAtComment (b : Char) (s : List Char) :
    (cutAtComment (isBlank b) s).1 <+: s := by
  rcases cutAtComment_form b s with hWhole | ⟨-, action, d, comment, hCut, rfl, -⟩
  · simp [hWhole]
  · rw [hCut]
    exact List.prefix_append _ _

/-- The cut is made at the first comment, so none is left in the action. -/
theorem not_holdsComment_cutAtComment (b : Char) (s : List Char) :
    ¬ HoldsComment (b :: (cutAtComment (isBlank b) s).1) := by
  induction s generalizing b with
  | nil =>
      intro hHolds
      have hLength := hHolds.length_le
      simp [cutAtComment] at hLength
  | cons c rest ih =>
      cases rest with
      | nil =>
          intro hHolds
          have hLength := hHolds.length_le
          simp [cutAtComment] at hLength
      | cons d rest =>
          rw [cutAtComment]
          split
          · intro hHolds
            have hLength := hHolds.length_le
            simp at hLength
          · rename_i hNoCut
            rw [holdsComment_cons]
            rintro (⟨hb, d', rest', hStart, hd'⟩ | hLater)
            · -- what comes next in the action comes next in the line
              obtain ⟨rfl, hNext⟩ := List.cons.inj hStart
              have hPrefix := prefix_cutAtComment '#' (d :: rest)
              rw [hNext, List.cons_prefix_cons] at hPrefix
              obtain ⟨rfl, -⟩ := hPrefix
              simp [hb, hd'] at hNoCut
            · exact ih c hLater

/-! What is read can be written. -/

/-- The parts of a step line, by the trimmed line that holds them. -/
theorem readStepLine_eq_some {line : List Char} {action : String} {comment : Option String}
    (hRead : readStepLine line = some (action, comment)) :
    ∃ c rest, trim line = c :: rest ∧ c ≠ '#' ∧
      action = textOf (cutAtComment false (c :: rest)).1 ∧
      comment = (cutAtComment false (c :: rest)).2.map textOf := by
  rw [readStepLine] at hRead
  split at hRead
  · simp at hRead
  · simp at hRead
  · rename_i hFilled hMarked
    obtain ⟨rfl, rfl⟩ := Prod.mk.inj (Option.some.inj hRead)
    cases hText : trim line with
    | nil => exact absurd hText hFilled
    | cons c rest =>
        refine ⟨c, rest, rfl, ?_, rfl, rfl⟩
        rintro rfl
        exact hMarked rest hText

/-- The action of a step line starts with what the line starts with. -/
theorem exists_cutAtComment_cons (c : Char) (rest : List Char) :
    ∃ more, (cutAtComment false (c :: rest)).1 = c :: more := by
  cases rest with
  | nil => exact ⟨[], rfl⟩
  | cons d rest => exact ⟨_, rfl⟩

/-- What follows a blank inside of a trimmed line is neat once it is trimmed. -/
theorem neat_textOf (start : List Char) {rest : List Char} {d : Char} (hd : isBlank d = true)
    (hLine : Unbroken (start ++ d :: rest))
    (hTrim : trim (start ++ d :: rest) = start ++ d :: rest) : Neat (textOf rest).toList := by
  obtain ⟨c, hc, hBlank⟩ := exists_not_blank hTrim (by simp)
  have hRest : c ∈ rest := by
    rcases List.mem_cons.mp hc with rfl | hRest
    · simp [hd] at hBlank
    · exact hRest
  have hUnbroken : Unbroken rest := by
    intro x hx
    exact hLine x (by simp [hx])
  rw [textOf, String.toList_ofList]
  exact neat_trim hUnbroken hRest hBlank

/-- A step that is read from a line can be written as one. -/
theorem writable_of_readStepLine {line : List Char} (hLine : Unbroken line) {action : String}
    {comment pending : Option String} (hPending : ∀ text ∈ pending, Neat text.toList)
    {workflow : String} (hRead : readStepLine line = some (action, comment)) :
    Step.Writable workflow ⟨action, comment <|> pending, workflow⟩ := by
  obtain ⟨c, rest, hText, hMarked, rfl, rfl⟩ := readStepLine_eq_some hRead
  have hBlank : isBlank c = false := not_blank_of_trim_eq_cons hText
  have hTrim : trim (c :: rest) = c :: rest := by rw [← hText, trim_trim]
  have hUnbroken : Unbroken (c :: rest) := hText ▸ hLine.of_infix (trim_isInfix line)
  have hPrefix : (cutAtComment false (c :: rest)).1 <+: c :: rest :=
    prefix_cutAtComment '#' (c :: rest)
  have hNone : ¬ HoldsComment ('#' :: (cutAtComment false (c :: rest)).1) :=
    not_holdsComment_cutAtComment '#' (c :: rest)
  obtain ⟨more, hMore⟩ := exists_cutAtComment_cons c rest
  constructor
  case action =>
    rw [textOf, String.toList_ofList]
    exact neat_trim (hUnbroken.of_infix hPrefix.isInfix) (by simp [hMore]) hBlank
  case notMarked =>
    rw [textOf, String.toList_ofList, hMore, trim_cons hBlank, List.head?_cons]
    simpa using hMarked
  case noComment =>
    rw [textOf, String.toList_ofList]
    intro hHolds
    exact hNone (holdsComment_cons.mpr (.inr (hHolds.of_infix (trim_isInfix _))))
  case comment =>
    intro text hComment
    have hForm := cutAtComment_form '#' (c :: rest)
    rcases hForm with hWhole | ⟨-, start, d, told, hCut, hForm, hd⟩
    · have hCut : cutAtComment false (c :: rest) = (c :: rest, none) := hWhole
      exact hPending text (by simpa [hCut] using hComment)
    · have hCut : cutAtComment false (c :: rest) = (start, some told) := hCut
      obtain rfl : textOf told = text := by simpa [hCut] using hComment
      have hSplit : c :: rest = (start ++ ['#']) ++ d :: told := by simp [hForm]
      rw [hSplit] at hUnbroken hTrim
      exact neat_textOf _ hd hUnbroken hTrim
  case workflow => rfl

/-- A title that is read can be written as one. -/
theorem neat_of_title? {line : List Char} (hLine : Unbroken line) (hTrim : trim line = line)
    {name : String} (hTitle : title? line = some name) : Neat name.toList := by
  rw [title?.eq_def] at hTitle
  split at hTitle
  · rename_i rest
    obtain rfl := Option.some.inj hTitle
    exact neat_textOf ['#', '#'] (by decide) hLine hTrim
  · simp at hTitle

/-- A remark that is read can be written as one. -/
theorem neat_of_remark? {line : List Char} (hLine : Unbroken line) (hTrim : trim line = line)
    {remark : String} (hRemark : remark? line = some remark) : Neat remark.toList := by
  rw [remark?.eq_def] at hRemark
  split at hRemark
  · rename_i rest
    obtain rfl := Option.some.inj hRemark
    exact neat_textOf ['#'] (by decide) hLine hTrim
  · simp at hRemark

/-- All steps of a body can be written. -/
theorem writable_of_mem_readBody {workflow : String} {pending : Option String}
    {lines : List (List Char)} (hLines : ∀ line ∈ lines, Unbroken line ∧ trim line = line)
    (hPending : ∀ text ∈ pending, Neat text.toList) {step : Step}
    (hStep : step ∈ (readBody workflow pending lines).2) : step.Writable workflow := by
  induction lines generalizing pending with
  | nil => simp [readBody] at hStep
  | cons line rest ih =>
      obtain ⟨⟨hLine, hTrim⟩, hRest⟩ := List.forall_mem_cons.mp hLines
      rw [readBody] at hStep
      split at hStep
      · rename_i remark hRemark
        refine ih hRest ?_ hStep
        rintro text ⟨⟩
        exact neat_of_remark? hLine hTrim hRemark
      · split at hStep
        · rename_i action comment hRead
          rcases List.mem_cons.mp hStep with rfl | hLater
          · exact writable_of_readStepLine hLine hPending hRead
          · exact ih hRest (by simp) hLater
        · exact ih hRest hPending hStep

/-- All cases of a text can be written. -/
theorem writable_of_mem_readCases {workflow : String} {lines : List (List Char)}
    (hLines : ∀ line ∈ lines, Unbroken line ∧ trim line = line) {case : TestCase}
    (hCase : case ∈ readCases workflow lines) : case.Writable workflow := by
  induction lines with
  | nil => simp [readCases] at hCase
  | cons line rest ih =>
      obtain ⟨⟨hLine, hTrim⟩, hRest⟩ := List.forall_mem_cons.mp hLines
      rw [readCases] at hCase
      split at hCase
      · exact ih hRest hCase
      · rename_i name hTitle
        rcases List.mem_cons.mp hCase with rfl | hLater
        · refine ⟨neat_of_title? hLine hTrim hTitle, fun step hStep => ?_⟩
          refine writable_of_mem_readBody (fun line hMem => ?_) (by simp) hStep
          exact hRest line (List.takeWhile_sublist _ |>.subset hMem)
        · exact ih hRest hLater

/-- The cases of any text can be written. -/
theorem writable_of_mem_read {text workflow : String} :
    ∀ case ∈ read text workflow, case.Writable workflow := by
  intro case hCase
  refine writable_of_mem_readCases (fun line hLine => ?_) hCase
  obtain ⟨raw, hRaw, rfl⟩ := List.mem_map.mp hLine
  have hUnbroken := (hasLines_lines text.toList).unbroken raw hRaw
  exact ⟨hUnbroken.of_infix (trim_isInfix raw), trim_trim raw⟩

/-! Writing, and reading what was written. -/

def stepLines (step : Step) : List (List Char) :=
  (step.comment.map fun text => '#' :: ' ' :: text.toList).toList ++ [step.action.toList]

def caseLines (case : TestCase) : List (List Char) :=
  ('#' :: '#' :: ' ' :: case.name.toList) :: case.steps.flatMap stepLines

def write (cases : List TestCase) : String :=
  String.ofList ((cases.flatMap caseLines).flatMap fun line => line ++ ['\n'])

/-- The remarks of a case that was written: the comments of its steps. -/
def withWrittenComments (case : TestCase) : TestCase :=
  { case with comments := case.steps.filterMap (·.comment) }

theorem textOf_toList {s : String} (h : Neat s.toList) : textOf s.toList = s := by
  rw [textOf, h.trimmed, String.ofList_toList]

theorem title?_eq_none {line : List Char} (hMarked : line.head? ≠ some '#') :
    title? line = none := by
  rw [title?.eq_def]
  split
  · simp at hMarked
  · rfl

theorem remark?_eq_none {line : List Char} (hMarked : line.head? ≠ some '#') :
    remark? line = none := by
  rw [remark?.eq_def]
  split
  · simp at hMarked
  · rfl

section

variable {workflow : String} {step : Step} {case : TestCase}

/-- The lines of a step are neat. -/
theorem neat_stepLines (h : step.Writable workflow) : ∀ line ∈ stepLines step, Neat line := by
  intro line hLine
  rw [stepLines, List.mem_append, List.mem_singleton] at hLine
  rcases hLine with hComment | rfl
  · obtain ⟨text, hText, rfl⟩ := by simpa using hComment
    exact (h.comment text hText).append [' '] (by decide) (by decide)
  · exact h.action

/-- No line of a step is taken for a header. -/
theorem title?_stepLines (h : step.Writable workflow) :
    ∀ line ∈ stepLines step, title? line = none := by
  intro line hLine
  rw [stepLines, List.mem_append, List.mem_singleton] at hLine
  rcases hLine with hComment | rfl
  · obtain ⟨text, -, rfl⟩ := by simpa using hComment
    simp [title?]
  · exact title?_eq_none h.notMarked

/-- The lines of a step are read as that step, and its comment as a remark. -/
theorem readBody_stepLines (h : step.Writable workflow) (lines : List (List Char)) :
    readBody workflow none (stepLines step ++ lines) =
      (step.comment.toList ++ (readBody workflow none lines).1,
        step :: (readBody workflow none lines).2) := by
  obtain ⟨action, comment, flow⟩ := step
  obtain ⟨hAction, hMarked, hNone, hComment, rfl⟩ := h
  have hRemark : remark? action.toList = none := remark?_eq_none hMarked
  have hStep : readStepLine action.toList = some (action, none) := by
    have hCut : cutAtComment false action.toList = (action.toList, none) := by
      rcases cutAtComment_form '#' action.toList with hWhole | ⟨hHolds, -⟩
      · exact hWhole
      · rcases holdsComment_cons.mp hHolds with ⟨hBlank, -⟩ | hInside
        · exact absurd hBlank (by decide)
        · exact absurd hInside hNone
    rw [readStepLine, hAction.trimmed]
    split
    · rename_i hEmpty
      exact absurd hEmpty hAction.nonempty
    · rename_i hForm
      simp [hForm] at hMarked
    · simp [hCut, textOf_toList hAction]
  have hPlain (pending : Option String) : readBody flow pending (action.toList :: lines) =
      ((readBody flow none lines).1,
        ⟨action, pending, flow⟩ :: (readBody flow none lines).2) := by
    rw [readBody]
    simp [hRemark, hStep]
  cases comment with
  | none => exact hPlain none
  | some text =>
      have hText : remark? ('#' :: ' ' :: text.toList) = some text := by
        rw [remark?, textOf_toList (hComment text rfl)]
      have hLines : stepLines ⟨action, some text, flow⟩ ++ lines =
          ('#' :: ' ' :: text.toList) :: action.toList :: lines := rfl
      rw [hLines, readBody, hText]
      simp only [hPlain]
      rfl

/-- A body is read back from the lines of its steps. -/
theorem readBody_written {steps : List Step} (h : ∀ step ∈ steps, step.Writable workflow) :
    readBody workflow none (steps.flatMap stepLines) = (steps.filterMap (·.comment), steps) := by
  induction steps with
  | nil => rfl
  | cons step rest ih =>
      obtain ⟨hStep, hRest⟩ := List.forall_mem_cons.mp h
      rw [List.flatMap_cons, readBody_stepLines hStep, ih hRest]
      cases hComment : step.comment <;> simp [hComment]

theorem title?_header (h : Neat case.name.toList) :
    title? ('#' :: '#' :: ' ' :: case.name.toList) = some case.name := by
  rw [title?, textOf_toList h]

/-- Lines that open no case are passed over. -/
theorem readCases_append {body lines : List (List Char)}
    (hBody : ∀ line ∈ body, title? line = none) :
    readCases workflow (body ++ lines) = readCases workflow lines := by
  induction body with
  | nil => rfl
  | cons line body ih =>
      obtain ⟨hLine, hRest⟩ := List.forall_mem_cons.mp hBody
      rw [List.cons_append, readCases, hLine]
      exact ih hRest

/-- Before the header of a case there is nothing of it. -/
theorem bodyLines_caseLines {cases : List TestCase} (h : ∀ case ∈ cases, case.Writable workflow) :
    bodyLines (cases.flatMap caseLines) = [] := by
  cases cases with
  | nil => rfl
  | cons case rest =>
      have hTitle := title?_header (h case List.mem_cons_self).name
      simp [bodyLines, caseLines, hTitle]

/-- Cases are read back from their lines. -/
theorem readCases_written {cases : List TestCase} (h : ∀ case ∈ cases, case.Writable workflow) :
    readCases workflow (cases.flatMap caseLines) = cases.map withWrittenComments := by
  induction cases with
  | nil => rfl
  | cons case rest ih =>
      obtain ⟨hCase, hRest⟩ := List.forall_mem_cons.mp h
      have hBody : ∀ line ∈ case.steps.flatMap stepLines, title? line = none := by
        intro line hLine
        obtain ⟨step, hStep, hLine⟩ := List.mem_flatMap.mp hLine
        exact title?_stepLines (hCase.steps step hStep) line hLine
      have hLines : bodyLines (case.steps.flatMap stepLines ++ rest.flatMap caseLines) =
          case.steps.flatMap stepLines := by
        have hEnd := bodyLines_caseLines hRest
        rw [bodyLines] at hEnd
        rw [bodyLines, List.takeWhile_append_of_pos fun line hLine => by simp [hBody line hLine],
          hEnd, List.append_nil]
      rw [List.flatMap_cons, caseLines, List.cons_append, readCases, title?_header hCase.name]
      simp only [hLines, readBody_written hCase.steps, readCases_append hBody, ih hRest]
      rfl

/-- The lines of a case are neat. -/
theorem neat_caseLines (h : case.Writable workflow) : ∀ line ∈ caseLines case, Neat line := by
  intro line hLine
  rcases List.mem_cons.mp hLine with rfl | hStep
  · exact h.name.append ['#', ' '] (by decide) (by decide)
  · obtain ⟨step, hMem, hLine⟩ := List.mem_flatMap.mp hStep
    exact neat_stepLines (h.steps step hMem) line hLine

/-- Cases that can be written come back, with the comments of their steps for remarks. -/
theorem read_write {cases : List TestCase} (h : ∀ case ∈ cases, case.Writable workflow) :
    read (write cases) workflow = cases.map withWrittenComments := by
  have hNeat : ∀ line ∈ cases.flatMap caseLines, Neat line := by
    intro line hLine
    obtain ⟨case, hCase, hLine⟩ := List.mem_flatMap.mp hLine
    exact neat_caseLines (h case hCase) line hLine
  have hLines : lines (write cases).toList = cases.flatMap caseLines := by
    rw [write, String.toList_ofList]
    exact (hasLines_newlines fun line hLine => (hNeat line hLine).unbroken).lines_eq
  have hTrim : (cases.flatMap caseLines).map trim = cases.flatMap caseLines := by
    have hSame := List.map_congr_left fun line hLine => (hNeat line hLine).trimmed
    exact hSame.trans (List.map_id _)
  rw [read, hLines, hTrim, readCases_written h]

end

/-- Whatever text cases are read from, they can be written: their names, actions and comments are
neat single lines, no action starts with `#`, and none holds a `#` with blanks on both sides.
Reading the written text gives the same cases with the same steps, in the same order. -/
theorem read_write_read (text workflow : String) :
    (∀ case ∈ read text workflow, case.Writable workflow) ∧
      read (write (read text workflow)) workflow =
        (read text workflow).map withWrittenComments :=
  ⟨writable_of_mem_read, read_write writable_of_mem_read⟩

/-- Remarks that no step took for its comment are not written; the steps are. -/
example : write (read "ignored\n## Log in # twice\n#skip\n# lost\n# first\nopen x#1 \nsee # it #"
    "login") = "## Log in # twice\n# first\nopen x#1\n# it #\nsee\n" := by decide +kernel

end Scenario

end ScenarioRunner
