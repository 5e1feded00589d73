import ScenarioRunner.Proofs.Json
import ScenarioRunner.Proofs.Page.Action

/-! Decisions of the model on a page. A question can be put about every catalogue, and a reply is
read or it is not. Which actions a decision asks for depends on its shape alone: some shapes cannot
be worked with at all, and among the entries some are passed over and some are misfits. -/
namespace ScenarioRunner

open Attempt

/-- A value is of a type that an operation is not made for. -/
inductive Fault.IsMistype : Fault → Prop
  | attribute {message : String} : IsMistype (.noAttribute message)
  | type {message : String} : IsMistype (.wrongType message)

namespace Checked

variable {α β : Type}

/-- There are places that do not fit. -/
def IsBad (x : Checked α) : Prop := ∃ places, x = .bad places

@[simp] theorem not_isBad_pure {a : α} : ¬ (pure a : Checked α).IsBad := nofun

@[simp] theorem isBad_under {name : String} {x : Checked α} : (x.under name).IsBad ↔ x.IsBad := by
  cases x with
  | good a => exact iff_of_false nofun nofun
  | bad places => exact iff_of_true ⟨_, rfl⟩ ⟨_, rfl⟩

@[simp] theorem isBad_map {f : α → β} {x : Checked α} : (f <$> x).IsBad ↔ x.IsBad := by
  cases x with
  | good a => exact iff_of_false nofun nofun
  | bad places => exact iff_of_true ⟨_, rfl⟩ ⟨_, rfl⟩

@[simp] theorem isBad_seq {f : Checked (α → β)} {x : Checked α} :
    (f <*> x).IsBad ↔ f.IsBad ∨ x.IsBad := by
  cases f with
  | good f =>
      cases x with
      | good a => exact iff_of_false nofun (by rintro (⟨_, h⟩ | ⟨_, h⟩) <;> cases h)
      | bad places => exact iff_of_true ⟨_, rfl⟩ (.inr ⟨_, rfl⟩)
  | bad places => cases x <;> exact iff_of_true ⟨_, rfl⟩ (.inl ⟨_, rfl⟩)

end Checked

namespace Json

/-- The value of a field, or null where there is none. -/
def fieldOrNull (v : Json) (name : String) : Json := (v.field? name).getD .null

/-- An entry asks for an action if it has a type. -/
def asksAction (entry : Json) : Bool := (entry.fieldOrNull "action_type").truthy

/-- An entry that asks for an action but has a field of the wrong kind: the number of the element is
no whole number, or the selector or the description is no text. -/
def IsMisfit (entry : Json) : Prop :=
  entry.asksAction = true ∧
    ((Checked.optional .int (entry.fieldOrNull "element_index")).IsBad ∨
      (Checked.optional .text (entry.fieldOrNull "selector")).IsBad ∨
      (entry.fieldOrNull "description").truthy = true ∧
        (Checked.text (entry.fieldOrNull "description")).IsBad)

/-- The entries of a list; other values have none. -/
def entries : Json → List Json
  | .arr items => items
  | _ => []

theorem fieldOr_obj (fields : List (String × Json)) (name : String) (default : Json) :
    fieldOr (.obj fields) name default = .ok ((fields.lookup name).getD default) := rfl

/-- Only objects have fields. -/
theorem fieldOr_eq_error {v : Json} (hNoObject : ∀ fields, v ≠ .obj fields) (name : String)
    (default : Json) : ∃ fault, v.fieldOr name default = .error fault ∧ fault.IsMistype := by
  cases v with
  | obj fields => exact absurd rfl (hNoObject fields)
  | _ => exact ⟨_, rfl, .attribute⟩

theorem IsElement.fieldOr_eq_ok {element : Json} (hElement : element.IsElement) (name : String)
    (default : Json) : ∃ v, element.fieldOr name default = .ok v := by
  obtain ⟨fields, rfl, -⟩ := hElement
  exact ⟨_, rfl⟩

end Json

namespace Question

/-- Of every element there is a line. -/
theorem elementLine_eq_ok {element : Json} (hElement : element.IsElement) (i : Nat) :
    ∃ line, elementLine i element = .ok line := by
  obtain ⟨fields, rfl, hText⟩ := hElement
  have hElementText : ∃ text, elementText (.obj fields) = .ok text := by
    rw [elementText, Json.fieldOr_obj]
    cases hLookup : fields.lookup "text" with
    | none => exact ⟨_, rfl⟩
    | some v =>
        cases hTruthy : v.truthy with
        | true =>
            obtain ⟨text, rfl⟩ := hText v hLookup hTruthy
            exact ⟨_, rfl⟩
        | false =>
            cases v with
            | str text => exact ⟨_, rfl⟩
            | _ => exact ⟨"", by simp [hTruthy, bind, Except.bind, pure, Except.pure]⟩
  obtain ⟨text, hText⟩ := hElementText
  exact ⟨_, by rw [elementLine, hText]; rfl⟩

/-- Elements can be printed whatever their fields hold. -/
theorem elementLines_eq_ok {elements : List Json} (hElements : ∀ e ∈ elements, e.IsElement)
    (i : Nat) : ∃ lines, elementLines i elements = .ok lines := by
  induction elements generalizing i with
  | nil => exact ⟨[], rfl⟩
  | cons element rest ih =>
      obtain ⟨line, hLine⟩ := elementLine_eq_ok (hElements element (List.mem_cons_self ..)) i
      obtain ⟨lines, hLines⟩ := ih (fun e he => hElements e (List.mem_cons_of_mem _ he)) (i + 1)
      exact ⟨line :: lines, by rw [elementLines, hLine, hLines]; rfl⟩

/-- So can a whole catalogue, whatever its limit. -/
theorem catalogue_eq_ok {elements : List Json} (hElements : ∀ e ∈ elements, e.IsElement)
    (limit : Int) : ∃ text, catalogue elements limit = .ok text := by
  obtain ⟨lines, hLines⟩ := elementLines_eq_ok (i := 0)
    fun e he => hElements e (List.mem_of_mem_take (i := within limit elements.length) he)
  rw [catalogue, hLines]
  dsimp only [bind, Except.bind]
  split <;> split <;> exact ⟨_, rfl⟩

end Question

namespace PageAction

variable {elements : List Json} (hElements : ∀ e ∈ elements, e.IsElement)

include hElements

/-- An action either has a selector or has none, but looking for it never fails. -/
theorem selectorIn_eq_ok (a : PageAction) : ∃ selector, a.selectorIn elements = .ok selector := by
  unfold selectorIn
  split
  · split
    · rename_i element hAt
      obtain ⟨v, hField⟩ :=
        (hElements element (List.mem_of_getElem? hAt)).fieldOr_eq_ok "selector" .null
      exact ⟨_, by rw [hField]; rfl⟩
    · exact ⟨_, rfl⟩
  · exact ⟨_, rfl⟩

omit hElements in
/-- The action that the fields of an entry give. -/
def ofEntry (type entry : Json) : Checked PageAction :=
  PageAction.mk type.display
    <$> (Checked.optional .int (entry.fieldOrNull "element_index")).under "element_index"
    <*> (Checked.optional .text (entry.fieldOrNull "selector")).under "selector"
    <*> pure (if (entry.fieldOrNull "value").isNull then none
      else some (entry.fieldOrNull "value").display)
    <*> (if (entry.fieldOrNull "description").truthy then
        (Checked.text (entry.fieldOrNull "description")).under "description"
      else pure "")

omit hElements in
/-- An entry is bad just when one of its fields has a value of another type. -/
theorem isBad_ofEntry_iff {type entry : Json} (hAsks : entry.asksAction = true) :
    (ofEntry type entry).IsBad ↔ entry.IsMisfit := by
  have hFields : entry.IsMisfit ↔ _ := and_iff_right hAsks
  rw [hFields, ofEntry]
  cases (entry.fieldOrNull "description").truthy <;> simp [or_assoc]

omit hElements in
/-- An entry that asks for no action is passed over. -/
theorem ofDecision?_of_not_asks {entry : Json} (hAsks : entry.asksAction = false) :
    ofDecision? elements entry = .ok none := by
  rw [Json.asksAction, Json.fieldOrNull] at hAsks
  rw [ofDecision?]
  cases hType : entry.field? "action_type" with
  | none => rfl
  | some type =>
      rw [hType] at hAsks
      dsimp only
      rw [show type.truthy = false from hAsks]
      rfl

omit hElements in
/-- An entry that asks for an action gives one, with the selector that its number stands for. -/
theorem ofDecision?_of_asks {entry : Json} (hAsks : entry.asksAction = true) :
    ofDecision? elements entry =
      match ofEntry (entry.fieldOrNull "action_type") entry with
      | .good a => do return some { a with selector := ← a.selectorIn elements }
      | .bad places => .error (.misfits places) := by
  rw [Json.asksAction, Json.fieldOrNull] at hAsks
  rw [ofDecision?, Json.fieldOrNull]
  cases hType : entry.field? "action_type" with
  | none =>
      rw [hType] at hAsks
      cases hAsks
  | some type =>
      rw [hType] at hAsks
      dsimp only
      rw [show type.truthy = true from hAsks]
      rfl

/-- An entry that is no misfit asks for an action or is passed over. -/
theorem ofDecision?_eq_ok {entry : Json} (hFits : ¬ entry.IsMisfit) :
    ∃ a?, ofDecision? elements entry = .ok a? ∧ a?.isSome = entry.asksAction := by
  cases hAsks : entry.asksAction with
  | false => exact ⟨none, ofDecision?_of_not_asks hAsks, rfl⟩
  | true =>
      rw [ofDecision?_of_asks hAsks]
      cases hEntry : ofEntry (entry.fieldOrNull "action_type") entry with
      | bad places => exact absurd ((isBad_ofEntry_iff hAsks).mp ⟨places, hEntry⟩) hFits
      | good a =>
          obtain ⟨selector, hSelector⟩ := selectorIn_eq_ok hElements a
          refine ⟨some { a with selector }, ?_, rfl⟩
          dsimp only
          rw [hSelector]
          rfl

omit hElements in
/-- A misfit keeps a decision from being read. -/
theorem ofDecision?_eq_error (elements : List Json) {entry : Json} (hMisfit : entry.IsMisfit) :
    ∃ places, ofDecision? elements entry = .error (.misfits places) := by
  obtain ⟨places, hEntry⟩ := (isBad_ofEntry_iff hMisfit.1).mpr hMisfit
  exact ⟨places, by rw [ofDecision?_of_asks hMisfit.1, hEntry]⟩

omit hElements in
/-- No text asks for an action. -/
theorem ofTexts_eq {α : Type} (l : List α) (text : α → String) :
    (do return (← (l.map fun a => Json.str (text a)).mapM (ofDecision? elements)).filterMap id) =
      (.ok [] : Except Fault (List PageAction)) := by
  have hEach : (l.map fun a => Json.str (text a)).mapM (ofDecision? elements) =
      .ok (l.map fun _ => none) := by
    induction l with
    | nil => rfl
    | cons a l ih =>
        rw [List.map_cons, List.mapM_cons, ofDecision?_of_not_asks rfl, ih]
        rfl
  have hNone : (l.map fun _ => (none : Option PageAction)).filterMap id = [] := by simp
  rw [hEach]
  exact congrArg Except.ok hNone

omit hElements in
/-- Only lists have entries that can ask for actions. -/
theorem ofDecision_eq {v : Json} (hStray : ¬ v.IsStray) :
    ofDecision elements v = do
      return (← v.entries.mapM (ofDecision? elements)).filterMap id := by
  rw [ofDecision]
  cases v with
  | null => rfl
  | bool b =>
      cases b with
      | true => exact absurd .true hStray
      | false => rfl
  | int n =>
      by_cases hZero : n = 0
      · rw [hZero]
        rfl
      · exact absurd (.int hZero) hStray
  | float x =>
      cases hZero : x.isZero with
      | true => simp [Json.truthy, hZero]; rfl
      | false => exact absurd (.float hZero) hStray
  | str text =>
      cases hTruthy : (Json.str text).truthy with
      | false => rfl
      | true =>
          -- what a text lists are its characters
          exact ofTexts_eq text.toList String.singleton
  | arr items => cases items <;> rfl
  | obj fields =>
      cases fields with
      | nil => rfl
      | cons entry fields =>
          -- what an object lists are the names of its fields
          exact ofTexts_eq (entry :: fields) (·.1)

/-- Each entry that asks for an action gives one, unless there is a misfit. -/
theorem ofDecision_eq_ok {v : Json} (hStray : ¬ v.IsStray)
    (hFits : ∀ entry ∈ v.entries, ¬ entry.IsMisfit) :
    ∃ actions, ofDecision elements v = .ok actions ∧
      actions.length = v.entries.countP Json.asksAction := by
  have hEach (entries : List Json) (hFits : ∀ entry ∈ entries, ¬ entry.IsMisfit) :
      ∃ read, entries.mapM (ofDecision? elements) = .ok read ∧
        (read.filterMap id).length = entries.countP Json.asksAction := by
    induction entries with
    | nil => exact ⟨[], rfl, rfl⟩
    | cons entry entries ih =>
        obtain ⟨a?, hHead, hAsks⟩ :=
          ofDecision?_eq_ok hElements (hFits entry (List.mem_cons_self ..))
        obtain ⟨read, hTail, hLength⟩ := ih fun e he => hFits e (List.mem_cons_of_mem _ he)
        refine ⟨a? :: read, by rw [List.mapM_cons, hHead, hTail]; rfl, ?_⟩
        rw [List.countP_cons, ← hAsks, ← hLength]
        cases a? <;> rfl
  obtain ⟨read, hRead, hLength⟩ := hEach v.entries hFits
  exact ⟨read.filterMap id, by rw [ofDecision_eq hStray, hRead]; rfl, hLength⟩

omit hElements in
/-- What cannot be gone through holds no actions. -/
theorem ofDecision_of_isStray {v : Json} (hStray : v.IsStray) :
    ofDecision elements v = .error (Fault.notIterable v) := by
  obtain ⟨hTruthy, hItems⟩ := Json.isStray_iff.mp hStray
  rw [ofDecision, if_pos hTruthy, hItems]
  rfl

/-- One misfit among the entries costs all actions of the decision. -/
theorem ofDecision_of_isMisfit {v entry : Json} (hEntry : entry ∈ v.entries)
    (hMisfit : entry.IsMisfit) : ∃ places, ofDecision elements v = .error (.misfits places) := by
  have hStray : ¬ v.IsStray := by
    intro hStray
    cases hStray <;> cases hEntry
  obtain ⟨places, hFault⟩ := ofDecision?_eq_error elements hMisfit
  obtain ⟨fault, hRun⟩ := mapM_eq_error_iff.mpr ⟨entry, hEntry, _, hFault⟩
  obtain ⟨first, -, hFirst⟩ := exists_mem_of_mapM_eq_error hRun
  have hFirstMisfit : first.IsMisfit := Classical.byContradiction fun hFits => by
    obtain ⟨a?, hOk, -⟩ := ofDecision?_eq_ok hElements hFits
    cases hOk.symm.trans hFirst
  obtain ⟨places, hPlaces⟩ := ofDecision?_eq_error elements hFirstMisfit
  refine ⟨places, ?_⟩
  rw [ofDecision_eq hStray, hRun, Except.error.inj (hFirst.symm.trans hPlaces)]
  rfl

end PageAction

namespace Json

/-- The part of a decision that lists actions. -/
def actionsIn (fields : List (String × Json)) : Json := (fields.lookup "actions").getD (.arr [])

def elementsIn (fields : List (String × Json)) : Json := (fields.lookup "elements").getD (.arr [])

/-- A decision on data is an object. -/
def FitsExtract (v : Json) : Prop := ∃ fields, v = .obj fields

/-- A decision on actions is an object, and there are items where the actions should be, unless
there is nothing. -/
def FitsAct (v : Json) : Prop := ∃ fields, v = .obj fields ∧ ¬ (actionsIn fields).IsStray

/-- A decision on elements is an object with items where the elements should be. -/
def FitsObserve (v : Json) : Prop :=
  ∃ fields, v = .obj fields ∧ ∃ items, (elementsIn fields).items = .ok items

def IsTextOrNull (v : Json) : Prop := v = .null ∨ ∃ text, v = .str text

def isDone (fields : List (String × Json)) : Bool := ((fields.lookup "done").getD .null).truthy

/-- A decision of an agent is an object. Where it ends the task its error is a text or nothing; else
there are items where the actions should be, unless there is nothing, and no misfits among them. -/
def FitsTask (v : Json) : Prop :=
  ∃ fields, v = .obj fields ∧
    if isDone fields then ((fields.lookup "error").getD .null).IsTextOrNull
    else ¬ (actionsIn fields).IsStray ∧ ∀ entry ∈ (actionsIn fields).entries, ¬ entry.IsMisfit

end Json

namespace PageSession

/-- Whatever an entry says about elements can be looked up. -/
theorem observed?_eq_ok {elements : List Json} (hElements : ∀ e ∈ elements, e.IsElement)
    (entry : Json) : ∃ found, observed? elements entry = .ok found := by
  unfold observed?
  split
  · split
    · rename_i element hAt
      obtain ⟨fields, rfl, -⟩ := hElements element (List.mem_of_getElem? hAt)
      exact ⟨_, rfl⟩
    · exact ⟨none, rfl⟩
  · exact ⟨none, rfl⟩

def foundIn (elements : List Json) (v : Json) : Except Fault (List (Option Json)) := do
  (← (← v.fieldOr "elements" (.arr [])).items).mapM (observed? elements)

theorem foundIn_obj (elements : List Json) (fields : List (String × Json)) :
    foundIn elements (.obj fields) = (do
      (← (Json.elementsIn fields).items).mapM (observed? elements)) := rfl

/-- A decision that fits names what is found, entry by entry. -/
theorem foundIn_eq_ok {elements : List Json} (hElements : ∀ e ∈ elements, e.IsElement) {v : Json}
    (hFit : v.FitsObserve) : ∃ found, foundIn elements v = .ok found := by
  obtain ⟨fields, rfl, items, hItems⟩ := hFit
  rw [foundIn_obj, hItems]
  cases hFound : items.mapM (observed? elements) with
  | ok found => exact ⟨found, hFound⟩
  | error fault =>
      obtain ⟨entry, -, hFault⟩ := exists_mem_of_mapM_eq_error hFound
      obtain ⟨found, hOk⟩ := observed?_eq_ok hElements entry
      cases hOk.symm.trans hFault

/-- Any other decision is mistaken for one that fits. -/
theorem foundIn_eq_error (elements : List Json) {v : Json} (hFit : ¬ v.FitsObserve) :
    ∃ fault, foundIn elements v = .error fault ∧ fault.IsMistype := by
  by_cases hObject : ∃ fields, v = .obj fields
  · obtain ⟨fields, rfl⟩ := hObject
    cases hItems : (Json.elementsIn fields).items with
    | ok items => exact absurd ⟨fields, rfl, items, hItems⟩ hFit
    | error fault =>
        rw [foundIn_obj, hItems, Json.items_eq_error hItems]
        exact ⟨_, rfl, .type⟩
  · obtain ⟨fault, hError, hMistype⟩ :=
      Json.fieldOr_eq_error (not_exists.mp hObject) "elements" (.arr [])
    exact ⟨fault, by rw [foundIn, hError]; rfl, hMistype⟩

end PageSession

namespace PageAction

def askedIn (elements : List Json) (v : Json) : Except Fault (List PageAction) := do
  ofDecision elements (← v.fieldOr "actions" (.arr []))

theorem askedIn_obj (elements : List Json) (fields : List (String × Json)) :
    askedIn elements (.obj fields) = ofDecision elements (Json.actionsIn fields) := rfl

/-- A decision of another shape fails where its actions are looked up. -/
theorem askedIn_eq_error (elements : List Json) {v : Json} (hFit : ¬ v.FitsAct) :
    ∃ fault, askedIn elements v = .error fault ∧ fault.IsMistype := by
  by_cases hObject : ∃ fields, v = .obj fields
  · obtain ⟨fields, rfl⟩ := hObject
    have hStray : (Json.actionsIn fields).IsStray :=
      Classical.byContradiction fun hStray => hFit ⟨fields, rfl, hStray⟩
    exact ⟨_, ofDecision_of_isStray hStray, .type⟩
  · obtain ⟨fault, hError, hMistype⟩ :=
      Json.fieldOr_eq_error (not_exists.mp hObject) "actions" (.arr [])
    exact ⟨fault, by rw [askedIn, hError]; rfl, hMistype⟩

end PageAction

end ScenarioRunner
