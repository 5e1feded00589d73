import ScenarioRunner.Page.Session
import ScenarioRunner.Proofs.Exchange

/-! What is done on a page without asking the model. Such a part of an operation has no reply among
its exchanges, and it fails only with certain faults: a call to the page with one of the page's own,
an action also with an unusable value or for want of the folder of a screenshot. -/
namespace ScenarioRunner

/-- An element in a catalogue: an object whose text, if it has one, is a text. -/
def Json.IsElement (element : Json) : Prop :=
  ∃ fields, element = .obj fields ∧
    ∀ v, fields.lookup "text" = some v → v.truthy = true → ∃ text, v = .str text

/-- Pages do what they are asked for or raise faults of their own; catalogues and texts of pages are
of the right kind; and the model replies. -/
structure Surroundings.Serves (s : Surroundings) : Prop where
  page : ∀ earlier n c fault, (s.respond earlier (.page n c)).outcome = .error fault →
    fault.isPageFault = true
  catalogue : ∀ earlier n v, (s.respond earlier (.page n .catalogue)).outcome = .ok v →
    ∃ elements, v = .arr elements ∧ ∀ element ∈ elements, element.IsElement
  pageText : ∀ earlier n v, (s.respond earlier (.page n .pageText)).outcome = .ok v →
    ∃ text, v = .str text
  model : ∀ earlier request,
    ∃ reply, (s.respond earlier (.askModel request)).outcome = .ok (.str reply)

/-- The elements of a catalogue that is given of some page. -/
def Surroundings.Shows (s : Surroundings) (elements : List Json) : Prop :=
  ∃ earlier n, (s.respond earlier (.page n .catalogue)).outcome = .ok (.arr elements)

/-- On a page that serves, every element that is shown has the shape of one. -/
theorem Surroundings.Serves.isElement {s : Surroundings} (hServes : s.Serves) {elements : List Json}
    (hShown : s.Shows elements) : ∀ element ∈ elements, element.IsElement := by
  obtain ⟨earlier, n, hAnswer⟩ := hShown
  obtain ⟨_, ⟨⟩, hElements⟩ := hServes.catalogue earlier n _ hAnswer
  exact hElements

/-- The folder of a screenshot cannot be made. -/
def Fault.IsFolderTrouble (fault : Fault) : Prop :=
  ∃ trouble, fault = .file trouble ∧ trouble.isBadText = false

def repliesIn (made : List Exchange) : List String :=
  made.filterMap fun
    | ⟨.askModel _, .ok (.str reply)⟩ => some reply
    | _ => none

@[simp] theorem repliesIn_nil : repliesIn [] = [] := rfl

@[simp] theorem repliesIn_append (made more : List Exchange) :
    repliesIn (made ++ more) = repliesIn made ++ repliesIn more := List.filterMap_append ..

/-- An outcome with a good value or a bad fault. -/
def Meets {α : Type} (good : α → Prop) (bad : Fault → Prop) : Except Fault α → Prop
  | .ok a => good a
  | .error fault => bad fault

/-- Better values and worse faults are met as well. -/
theorem Meets.mono {α : Type} {good good' : α → Prop} {bad bad' : Fault → Prop}
    {outcome : Except Fault α} (hMeets : Meets good bad outcome) (hGood : ∀ a, good a → good' a)
    (hBad : ∀ fault, bad fault → bad' fault) : Meets good' bad' outcome := by
  cases outcome with
  | ok a => exact hGood a hMeets
  | error fault => exact hBad fault hMeets

namespace Attempt

variable {α β : Type} {s : Surroundings}

/-- Run from any world, a computation ends in this way: said of its outcome and of the replies of
the model. -/
def Replied (s : Surroundings) (x : Attempt α) (way : Except Fault α → List String → Prop) : Prop :=
  ∀ w, Ends s w x fun outcome made _ => way outcome (repliesIn made)

section Replied

variable {x : Attempt α} {first second : Except Fault α → List String → Prop}
  {way : Except Fault β → List String → Prop}

theorem Replied.mono (hReplied : Replied s x first)
    (h : ∀ outcome replies, first outcome replies → second outcome replies) : Replied s x second :=
  fun w => (hReplied w).mono fun outcome made _ hFirst => h outcome (repliesIn made) hFirst

theorem replied_pure {a : α} (h : first (.ok a) []) : Replied s (pure a) first :=
  fun _ => ends_pure h

theorem replied_throw {fault : Fault} (h : first (.error fault) []) :
    Replied s (throw fault : Attempt α) first :=
  fun _ => ends_throw h

theorem replied_bind {f : α → Attempt β} (hFirst : Replied s x first)
    (hRest : ∀ a replies, first (.ok a) replies →
      Replied s (f a) fun outcome more => way outcome (replies ++ more))
    (hError : ∀ fault replies, first (.error fault) replies → way (.error fault) replies) :
    Replied s (x >>= f) way := by
  refine fun w => ends_bind (hFirst w) (fun a made w₁ hOk => ?_) fun fault made _ => hError fault _
  simp only [repliesIn_append]
  exact hRest a _ hOk w₁

/-- What follows an outcome gets replies of its own, whatever the outcome was. -/
theorem replied_outcome_bind {f : Except Fault α → Attempt β} (hFirst : Replied s x first)
    (hRest : ∀ outcome replies, first outcome replies →
      Replied s (f outcome) fun ended more => way ended (replies ++ more)) :
    Replied s (x.outcome >>= f) way := by
  refine fun w => ends_outcome_bind (hFirst w) fun outcome made w₁ hOutcome => ?_
  simp only [repliesIn_append]
  exact hRest outcome _ hOutcome w₁

/-- What comes after a value that is there. -/
theorem replied_go {e : Except Fault α} {a : α} {f : α → Attempt β} (hOk : e = .ok a)
    (hRest : Replied s (f a) way) : Replied s (ofExcept e >>= f) way :=
  fun w => ends_go hOk (hRest w)

/-- Nothing comes after a fault. -/
theorem replied_stop {e : Except Fault α} {fault : Fault} {f : α → Attempt β}
    (hError : e = .error fault) (hWay : way (.error fault) []) :
    Replied s (ofExcept e >>= f) way :=
  fun _ => ends_stop hError hWay

end Replied

/-- Nothing is asked of the model, and a good value comes of it or a bad fault. -/
def Quietly (s : Surroundings) (x : Attempt α) (good : α → Prop) (bad : Fault → Prop) : Prop :=
  Replied s x fun outcome replies => Meets good bad outcome ∧ replies = []

variable {good : α → Prop} {bad : Fault → Prop}

/-- A quiet attempt stays quiet when more is allowed. -/
theorem Quietly.mono {x : Attempt α} {good' : α → Prop} {bad' : Fault → Prop}
    (hQuiet : Quietly s x good bad) (hGood : ∀ a, good a → good' a)
    (hBad : ∀ fault, bad fault → bad' fault) : Quietly s x good' bad' :=
  Replied.mono hQuiet fun _ _ ⟨hMeets, hNone⟩ => ⟨hMeets.mono hGood hBad, hNone⟩

/-- What comes after something quiet is all that is told. -/
theorem Quietly.bind {x : Attempt α} {f : α → Attempt β}
    {way : Except Fault β → List String → Prop} (hQuiet : Quietly s x good bad)
    (hRest : ∀ a, good a → Replied s (f a) way)
    (hError : ∀ fault, bad fault → way (.error fault) []) : Replied s (x >>= f) way := by
  refine replied_bind hQuiet ?_ ?_
  · rintro a _ ⟨hGood, rfl⟩
    exact hRest a hGood
  · rintro fault _ ⟨hBad, rfl⟩
    exact hError fault hBad

theorem quietly_pure {a : α} (hGood : good a) : Quietly s (pure a) good bad :=
  fun _ => ends_pure ⟨hGood, rfl⟩

theorem quietly_throw {fault : Fault} (hBad : bad fault) :
    Quietly s (throw fault : Attempt α) good bad :=
  replied_throw ⟨hBad, rfl⟩

theorem quietly_ofExcept {e : Except Fault α} (hMeets : Meets good bad e) :
    Quietly s (ofExcept e) good bad := by
  cases e with
  | ok a => exact quietly_pure hMeets
  | error fault => exact quietly_throw hMeets

theorem quietly_of_eq_ok {e : Except Fault α} {a : α} (hOk : e = .ok a) (hGood : good a) :
    Quietly s (ofExcept e) good bad := by
  subst hOk
  exact quietly_pure hGood

theorem quietly_of_eq_error {e : Except Fault α} {fault : Fault} (hError : e = .error fault)
    (hBad : bad fault) : Quietly s (ofExcept e) good bad := by
  subst hError
  exact quietly_throw hBad

/-- What makes no call gets no reply. -/
theorem quietly_lift {y : Outside α} (hCalls : ∀ w, (Outside.runIn s w y).2.calls = w.calls)
    (hGood : ∀ w, good (Outside.runIn s w y).1) : Quietly s (liftM y : Attempt α) good bad :=
  fun w => ends_lift (hCalls w) ⟨hGood w, rfl⟩

/-- Quiet attempts are quiet one after the other. -/
theorem quietly_bind {x : Attempt α} {f : α → Attempt β} {good' : β → Prop}
    (hFirst : Quietly s x good bad) (hRest : ∀ a, good a → Quietly s (f a) good' bad) :
    Quietly s (x >>= f) good' bad :=
  hFirst.bind hRest fun _ hBad => ⟨hBad, rfl⟩

/-- What is done with the outcome of a computation may turn its fault into a value. -/
theorem quietly_outcome_bind {x : Attempt α} {f : Except Fault α → Attempt β} {good' : β → Prop}
    {bad' : Fault → Prop} (hFirst : Quietly s x good bad)
    (hRest : ∀ outcome, Meets good bad outcome → Quietly s (f outcome) good' bad') :
    Quietly s (x.outcome >>= f) good' bad' := by
  refine replied_outcome_bind hFirst ?_
  rintro outcome _ ⟨hMeets, rfl⟩
  exact hRest outcome hMeets

/-- A page does what it is asked for, or raises a fault of its own. -/
theorem quietly_page (hServes : s.Serves) {n : Nat} {c : PageCall} {good : Json → Prop}
    (hGood : ∀ earlier v, (s.respond earlier (.page n c)).outcome = .ok v → good v)
    (hBad : ∀ fault, fault.isPageFault = true → bad fault) :
    Quietly s (call (.page n c)) good bad := by
  refine fun w => ⟨[.page n c], rfl, ?_, rfl⟩
  show Meets good bad (s.respond w.calls (.page n c)).outcome
  cases hAnswer : (s.respond w.calls (.page n c)).outcome with
  | ok v => exact hGood w.calls v hAnswer
  | error fault => exact hBad fault (hServes.page w.calls n c fault hAnswer)

/-- Files are changed without a call; where that fails there is a trouble with files. -/
theorem quietly_changeFiles (change : FileTree → Except FileTrouble FileTree) :
    Quietly s (onFiles (Outside.changeFiles change)) (fun _ => True)
      fun fault => ∃ trouble, fault = .file trouble := by
  intro w
  have hRun : runIn s w (onFiles (Outside.changeFiles change)) =
      Outside.runIn s w ((·.mapError Fault.file) <$> Outside.changeFiles change) := rfl
  rw [Ends, hRun, Outside.runIn_map, Outside.runIn_changeFiles]
  cases change w.files with
  | ok files => exact ⟨[], (List.append_nil _).symm, trivial, rfl⟩
  | error trouble => exact ⟨[], (List.append_nil _).symm, ⟨trouble, rfl⟩, rfl⟩

end Attempt

namespace PageAction

open Attempt

variable {s : Surroundings} (hServes : s.Serves) (page : Nat)

/-- How an action fails: by the page, by an unusable value, or for want of a folder. -/
def CanRaise (fault : Fault) : Prop :=
  fault.isPageFault = true ∨ fault.isValueFault = true ∨ fault.IsFolderTrouble

include hServes

/-- What is done on a page gets no reply of the model. -/
theorem quietly_onPage (c : PageCall) : Quietly s (onPage page c) (fun _ => True) CanRaise := by
  have hCall : Quietly s (call (.page page c)) (fun _ => True) CanRaise :=
    quietly_page hServes (fun _ _ _ => trivial) fun _ h => .inl h
  exact quietly_bind hCall fun _ _ => quietly_pure trivial

omit hServes in
/-- A value that cannot be read is the only thing that may go wrong with it. -/
theorem quietly_value {α : Type} {e : Except Fault α}
    (hValue : ∀ fault, e = .error fault → fault.isValueFault = true) :
    Quietly s (Attempt.ofExcept e) (fun _ => True) CanRaise := by
  refine quietly_ofExcept ?_
  cases e with
  | ok a => trivial
  | error fault => exact .inr (.inl (hValue fault rfl))

omit hServes in
/-- Without a selector an action lacks a value. -/
theorem isValueFault_of_needSelector (a : PageAction) (fault : Fault)
    (hFault : a.needSelector = .error fault) : fault.isValueFault = true := by
  rw [needSelector] at hFault
  split at hFault <;> cases hFault
  rfl

omit hServes in
/-- Text that is no number is an unusable value. -/
theorem isValueFault_of_readInt (text : String) (fault : Fault)
    (hFault : readInt text = .error fault) : fault.isValueFault = true := by
  rw [readInt] at hFault
  split at hFault <;> cases hFault <;> rfl

/-- A scroll is done by one deed on the page, or its number cannot be read. -/
theorem quietly_scroll (a : PageAction) (timeout : Int) :
    Quietly s (a.scroll page timeout) (fun _ => True) CanRaise := by
  unfold scroll
  split
  · exact quietly_bind (quietly_onPage hServes page _) fun _ _ => quietly_onPage hServes page _
  · exact quietly_bind (quietly_value (isValueFault_of_readInt _))
      fun _ _ => quietly_onPage hServes page _
  · exact quietly_onPage hServes page _

/-- A wait needs a number that can be waited for. -/
theorem quietly_wait (a : PageAction) (timeout : Int) :
    Quietly s (a.wait page timeout) (fun _ => True) CanRaise := by
  unfold wait
  split
  · exact quietly_onPage hServes page _
  · exact quietly_bind (quietly_value (isValueFault_of_readInt _))
      fun _ _ => quietly_onPage hServes page _
  · exact quietly_onPage hServes page _

/-- A screenshot may lack the folder that it is to be put into. -/
theorem quietly_screenshot (a : PageAction) (shots : Option Path) :
    Quietly s (a.screenshot page shots) (fun _ => True) CanRaise := by
  refine quietly_bind ((quietly_changeFiles _).mono (fun _ h => h) ?_) fun _ _ =>
    quietly_bind (quietly_onPage hServes page _) fun _ _ => quietly_pure trivial
  rintro fault ⟨trouble, rfl⟩
  cases hText : trouble.isBadText with
  | true => exact .inr (.inl hText)
  | false => exact .inr (.inr ⟨trouble, rfl, hText⟩)

/-- Doing an action asks the model for nothing, and fails in one of three ways. -/
theorem quietly_run (a : PageAction) (timeout : Int) (shots : Option Path) :
    Quietly s (a.run page timeout shots) (fun _ => True) CanRaise := by
  have hSelected (c : String → PageCall) : Quietly s
      (do
        onPage page (c (← Attempt.ofExcept a.needSelector))
        return (none : Option String)) (fun _ => True) CanRaise :=
    quietly_bind (quietly_value (isValueFault_of_needSelector a)) fun selector _ =>
      quietly_bind (quietly_onPage hServes page _) fun _ _ => quietly_pure trivial
  unfold run
  split
  · exact hSelected _
  · exact hSelected _
  · exact hSelected _
  · exact hSelected _
  · exact hSelected _
  · exact quietly_bind (quietly_scroll hServes page a timeout) fun _ _ => quietly_pure trivial
  · exact quietly_bind (quietly_wait hServes page a timeout) fun _ _ => quietly_pure trivial
  · exact quietly_bind (quietly_onPage hServes page _) fun _ _ => quietly_pure trivial
  · exact quietly_bind (quietly_screenshot hServes page a shots) fun _ _ => quietly_pure trivial
  · exact quietly_ofExcept (.inr (.inl rfl))

omit hServes in
/-- A text that is no number keeps the page from being called with it. -/
theorem quietly_onPage_of_readInt {text : String} {fault : Fault}
    (hRead : readInt text = .error fault) (c : Int → PageCall) :
    Quietly s (do onPage page (c (← Attempt.ofExcept (readInt text)))) (fun _ => False)
      fun fault => fault.isValueFault = true :=
  replied_stop hRead ⟨isValueFault_of_readInt text fault hRead, rfl⟩

omit hServes in
/-- An action that cannot be done on any page: its type is not known, its selector is missing, or
its value should be a number and is none. -/
def IsMalformed (a : PageAction) : Prop :=
  match a.actionType with
  | "click" | "fill" | "clear" | "select" | "hover" => a.selector? = none
  | "scroll" | "wait" => a.selector? = none ∧
      ∃ value fault, a.value? = some value ∧ readInt value = .error fault
  | "keyboard" | "screenshot" => False
  | _ => True

omit hServes in
/-- A malformed action fails for its value, and the page is left alone. -/
theorem quietly_run_of_isMalformed {a : PageAction} (hMalformed : a.IsMalformed) (timeout : Int)
    (shots : Option Path) : Quietly s (a.run page timeout shots) (fun _ => False)
      fun fault => fault.isValueFault = true := by
  have hSelected (c : String → PageCall) (hNone : a.selector? = none) : Quietly s
      (do
        onPage page (c (← Attempt.ofExcept a.needSelector))
        return (none : Option String)) (fun _ => False) fun fault => fault.isValueFault = true := by
    have hNeeds : a.needSelector = .error (.needsSelector a.actionType) := by
      rw [needSelector, hNone]
    exact replied_stop hNeeds ⟨rfl, rfl⟩
  unfold run
  split <;> rename_i hType <;> simp only [IsMalformed, hType] at hMalformed
  · exact hSelected _ hMalformed
  · exact hSelected _ hMalformed
  · exact hSelected _ hMalformed
  · exact hSelected _ hMalformed
  · exact hSelected _ hMalformed
  · obtain ⟨hNone, value, fault, hValue, hRead⟩ := hMalformed
    rw [scroll, hNone, hValue]
    exact quietly_bind (quietly_onPage_of_readInt page hRead _) fun _ h => h.elim
  · obtain ⟨hNone, value, fault, hValue, hRead⟩ := hMalformed
    rw [wait, hNone, hValue]
    exact quietly_bind (quietly_onPage_of_readInt page hRead _) fun _ h => h.elim
  · exact quietly_throw rfl

/-- An action that is done was not malformed. -/
theorem quietly_run_well (a : PageAction) (timeout : Int) (shots : Option Path) :
    Quietly s (a.run page timeout shots) (fun _ => ¬ a.IsMalformed) CanRaise := by
  by_cases hMalformed : a.IsMalformed
  · exact (quietly_run_of_isMalformed page hMalformed timeout shots).mono (fun _ h => h.elim)
      fun _ h => .inr (.inl h)
  · exact (quietly_run hServes page a timeout shots).mono (fun _ _ => hMalformed) fun _ h => h

end PageAction

end ScenarioRunner
