import ScenarioRunner.Dispatch
import ScenarioRunner.Proofs.World

/-! Dispatching. However a descriptor fares, one record comes of it and goes to the end of the
history; what is not valid is turned away before anyone outside is asked for anything, and what is
valid has the parameters that are taken from it. -/
namespace ScenarioRunner

namespace Fault

/-- Every fault has a label, so that its text is never empty. -/
theorem label_ne_empty (f : Fault) : f.label ≠ "" := by
  cases f with
  | reported origin text =>
      cases origin with
      | other name => exact name.nonempty
      | _ => simp [label, originLabel]
  | file trouble => cases trouble <;> simp [label, fileLabel]
  | _ => simp [label]

/-- A fault always has something to say. -/
theorem text_ne_empty (f : Fault) : f.text ≠ "" := by
  rw [text]
  split
  · exact f.label_ne_empty
  · rename_i hMessage
    simpa using hMessage

end Fault

/-- A success without a message, or a failure with one and without a result. -/
def Record.Coherent (r : Record) : Prop :=
  r.success = true ∧ r.errorMessage = none ∨
    r.success = false ∧ r.result.toJson = .null ∧ ∃ text, r.errorMessage = some text ∧ text ≠ ""

def ActionKind.parameter? : ActionKind → Option String
  | .extract | .observe => some "target"
  | .agent => some "instruction"
  | _ => none

namespace Descriptor

def handledKinds : List ActionKind := [.goto, .extract, .observe, .agent, .act, .template]

/-- Only kinds with a handler are valid. -/
theorem kind_mem_of_isValid {d : Descriptor} (hValid : d.isValid = true) :
    d.kind ∈ handledKinds := by
  cases hKind : d.kind with
  | other name => simp [isValid, hKind] at hValid
  | _ => simp [handledKinds]

/-- A valid descriptor has the parameter that is taken from it. -/
theorem param?_isSome_of_isValid {d : Descriptor} (hValid : d.isValid = true) {name : String}
    (hName : d.kind.parameter? = some name) : (d.param? name).isSome = true := by
  have hFilled : trimmed ((d.param? name).getD "") ≠ "" := by
    rw [isValid, Bool.and_eq_true] at hValid
    cases hKind : d.kind with
    | extract | observe | agent =>
        rw [hKind] at hName
        obtain rfl := Option.some.inj hName
        simpa [hKind] using hValid.2
    | _ =>
        rw [hKind] at hName
        cases hName
  cases hParam : d.param? name with
  | none => exact absurd (by rw [hParam]; decide) hFilled
  | some value => rfl

end Descriptor

namespace Dispatch

variable (s : Surroundings) (w : World) (config : Config) (h : History) (d : Descriptor)
  (session : Session) (workflow : String) (context : Context)

/-- The text of a failed rule is never empty, whatever its cause says. -/
theorem ruleFailure_ne_empty (cause : String) : ruleFailure d cause ≠ "" := by
  intro hEmpty
  have hChars := congrArg String.toList hEmpty
  simp [ruleFailure, joinLines] at hChars

/-- An obstacle always has something to say. -/
theorem Obstacle.text_ne_empty (obstacle : Obstacle) : obstacle.text ≠ "" := by
  cases obstacle with
  | missingParam name =>
      intro hEmpty
      have hChars := congrArg String.toList hEmpty
      simp [text, quoted, Text.quoted] at hChars
  | fault f => exact f.text_ne_empty

/-- A failed step always says why. -/
theorem failureText_ne_empty (obstacle : Obstacle) : failureText d obstacle ≠ "" := by
  rw [failureText]
  split
  · exact ruleFailure_ne_empty d obstacle.message
  · exact obstacle.text_ne_empty

/-- A record is coherent: it has a result if it is of a success, and a text of its failure if not.
-/
theorem coherent_recordOf (id : String) (start clock : Nat) (outcome : Except Obstacle StepResult) :
    (recordOf id d workflow start clock outcome).Coherent := by
  cases outcome with
  | ok result => exact .inl ⟨rfl, rfl⟩
  | error obstacle =>
      exact .inr ⟨rfl, rfl, failureText d obstacle, rfl, failureText_ne_empty d obstacle⟩

/-- A record is of a success just when its outcome is one. -/
theorem success_recordOf (id : String) (start clock : Nat) (outcome : Except Fault StepResult) :
    (recordOf id d workflow start clock (outcome.mapError .fault)).success = outcome.isOk := by
  cases outcome <;> rfl

/-- A handler that is tried leaves the history alone and the world as the handler leaves it. -/
theorem runIn_handleWith {x : Attempt StepResult} {outcome : Except Fault StepResult}
    {after : World} (hRun : Attempt.runIn s w x = (outcome, after)) :
    Outside.runIn s w (handleWith h x) = ((outcome.mapError .fault, h), after) := by
  have hOutside : Outside.runIn s w x.run = (outcome, after) := hRun
  simp [handleWith, handle, hOutside]

/-! What a handler leaves behind. -/

def AddsNone (h : History) (x : Outside Ending) : Prop :=
  ∀ s w, (Outside.runIn s w x).1.2.records = h.records

def Supplied (x : Outside Ending) : Prop :=
  ∀ s w name, (Outside.runIn s w x).1.1 ≠ .error (.missingParam name)

variable {h d}

/-- What a handler may stumble over of itself is never a parameter. -/
theorem supplied_handle (handler : Outside (Except Fault StepResult × History)) :
    Supplied (handle handler) := by
  intro s w name
  rw [handle, Outside.runIn_bind]
  obtain ⟨⟨outcome, kept⟩, after⟩ := Outside.runIn s w handler
  cases outcome with
  | error fault => rintro ⟨⟩
  | ok result => rintro ⟨⟩

/-- Extracting keeps data, and the records as they are. -/
theorem addsNone_extract (target : String) : AddsNone h (handle (extract h d target session)) := by
  intro s w
  rw [handle, Outside.runIn_bind, extract, Outside.runIn_bind]
  cases (Outside.runIn s w (session.extract target (.ofText (shapeOf target))).run).1 with
  | error fault => rfl
  | ok data => rfl

/-- Looking up a parameter adds no record, and its handler decides what follows. -/
theorem addsNone_withParam {name : String} {handler : String → Outside Ending}
    (hHandler : ∀ value, AddsNone h (handler value)) : AddsNone h (withParam h d name handler) := by
  intro s w
  rw [withParam]
  cases d.param? name with
  | none => rfl
  | some value => exact hHandler value s w

/-- With its parameter at hand a handler is not kept from running. -/
theorem supplied_withParam {name : String} {handler : String → Outside Ending}
    (hParam : (d.param? name).isSome = true) (hHandler : ∀ value, Supplied (handler value)) :
    Supplied (withParam h d name handler) := by
  obtain ⟨value, hValue⟩ := Option.isSome_iff_exists.mp hParam
  rw [withParam, hValue]
  exact hHandler value

/-- The handlers that keep no data leave the history as it is. -/
theorem leaves_perform (hKind : d.kind ≠ .extract) :
    (Outside.runIn s w (perform config h d session context)).1.2 = h := by
  have hWithParam {name : String} {handler : String → Attempt StepResult} :
      (Outside.runIn s w (withParam h d name fun value => handleWith h (handler value))).1.2 = h := by
    rw [withParam]
    cases d.param? name <;> rfl
  rw [perform]
  cases hCase : d.kind with
  | extract => exact absurd hCase hKind
  | observe | agent => exact hWithParam
  | _ => rfl

/-- Performing a step adds no record of its own: only executing it does. -/
theorem addsNone_perform : AddsNone h (perform config h d session context) := by
  by_cases hKind : d.kind = .extract
  · rw [perform, hKind]
    exact addsNone_withParam (addsNone_extract session)
  · intro s w
    rw [leaves_perform s w config session context hKind]

/-- The handler of a valid descriptor finds the parameter that it takes. -/
theorem supplied_perform (hValid : d.isValid = true) :
    Supplied (perform config h d session context) := by
  have hParam {name : String} (hName : d.kind.parameter? = some name) :=
    Descriptor.param?_isSome_of_isValid hValid hName
  rw [perform]
  cases hKind : d.kind with
  | extract | observe | agent =>
      exact supplied_withParam (hParam (by rw [hKind]; rfl)) fun _ => supplied_handle _
  -- the other kinds take no parameter
  | _ => exact supplied_handle _

/-! A dispatch as a whole. -/

variable (h d)

/-- A dispatch runs the handler of a valid descriptor, and records what comes of it. -/
theorem runIn_execute_of_isValid {after : World} {outcome : Except Obstacle StepResult}
    {kept : History} (hValid : d.isValid = true)
    (hPerform : Outside.runIn s { w with ids := w.ids + 1 } (perform config h d session context) =
      ((outcome, kept), after)) :
    let record := recordOf (idText 12 (w.ids + 1)) d workflow w.clock after.clock outcome
    Outside.runIn s w (execute config h d session workflow context) =
      ((record, kept.append record), after) := by
  simp [execute, Descriptor.checked, hValid, hPerform]

/-- A dispatch of what is not valid does nothing but record that. -/
theorem runIn_execute_of_not_isValid (hInvalid : d.isValid = false) :
    let record := recordOf (idText 12 (w.ids + 1)) d workflow w.clock w.clock
      (.error (.fault (.invalidStep d)))
    Outside.runIn s w (execute config h d session workflow context) =
      ((record, h.append record), { w with ids := w.ids + 1 }) := by
  simp [execute, Descriptor.checked, hInvalid]

/-- A record tells what became of a descriptor in a flow, and is the one that came to a history. -/
structure Recorded (before : History) (d : Descriptor) (workflow : String) (record : Record)
    (after : History) : Prop where
  records : after.records = before.records ++ [record]
  descriptor : record.descriptor = d
  workflow : record.workflow = workflow
  coherent : record.Coherent

/-- A record that is made of an outcome is added behind those that were there. -/
theorem recorded_recordOf {kept : History} (hKept : kept.records = h.records) (id : String)
    (start clock : Nat) (outcome : Except Obstacle StepResult) :
    let record := recordOf id d workflow start clock outcome
    Recorded h d workflow record (kept.append record) where
  records := by rw [History.append, hKept]
  descriptor := by cases outcome <;> rfl
  workflow := by cases outcome <;> rfl
  coherent := coherent_recordOf d workflow id start clock outcome

/-- Executing a step adds exactly one record, of that step. -/
theorem recorded_execute :
    let ended := (Outside.runIn s w (execute config h d session workflow context)).1
    Recorded h d workflow ended.1 ended.2 := by
  cases hValid : d.isValid with
  | true =>
      obtain ⟨⟨⟨outcome, kept⟩, after⟩, hPerform⟩ : ∃ ended, Outside.runIn s
        { w with ids := w.ids + 1 } (perform config h d session context) = ended := ⟨_, rfl⟩
      have hAdds : AddsNone h (perform config h d session context) :=
        addsNone_perform config session context
      have hKept : kept.records = h.records := by
        rw [← hAdds s { w with ids := w.ids + 1 }, hPerform]
      rw [runIn_execute_of_isValid s w config h d session workflow context hValid hPerform]
      exact recorded_recordOf h d workflow hKept _ _ _ _
  | false =>
      rw [runIn_execute_of_not_isValid s w config h d session workflow context hValid]
      exact recorded_recordOf h d workflow (rfl : h.records = h.records) (idText 12 (w.ids + 1))
        w.clock w.clock (.error (.fault (.invalidStep d)))

/-- Every dispatch gives one record and adds it to the history: a success, or a failure that says
why. What is not valid fails without a call to anyone and without data being kept; what is valid has
a handler of its own, which never fails for want of a parameter. -/
theorem execute_records_once :
    let ((record, history), after) :=
      Outside.runIn s w (execute config h d session workflow context)
    history.records = h.records ++ [record] ∧ record.Coherent ∧
      (d.isValid = false → record.success = false ∧ after.calls = w.calls ∧
        after.files = w.files ∧ history.artifacts = h.artifacts) ∧
      (d.isValid = true → d.kind ∈ Descriptor.handledKinds ∧
        Supplied (perform config h d session context)) := by
  have hRecorded := recorded_execute s w config h d session workflow context
  obtain ⟨⟨⟨record, history⟩, after⟩, hRun⟩ : ∃ ended,
    Outside.runIn s w (execute config h d session workflow context) = ended := ⟨_, rfl⟩
  rw [hRun] at hRecorded ⊢
  refine ⟨hRecorded.records, hRecorded.coherent, fun hInvalid => ?_, fun hValid => ?_⟩
  · rw [runIn_execute_of_not_isValid s w config h d session workflow context hInvalid] at hRun
    cases hRun
    exact ⟨rfl, rfl, rfl, rfl⟩
  · exact ⟨Descriptor.kind_mem_of_isValid hValid, supplied_perform config session context hValid⟩

end Dispatch

end ScenarioRunner
