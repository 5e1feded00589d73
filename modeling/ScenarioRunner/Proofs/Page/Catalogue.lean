import Mathlib.Data.List.Forall2
import ScenarioRunner.Proofs.Page.Decision

/-! The number of an element. A question prints the elements of a catalogue with the numbers under
which decisions refer to them, and a decision is looked up in elements by these numbers: an action
goes to the selector of its element, and what is observed is told of its element. -/
namespace ScenarioRunner

namespace Checked

variable {α β : Type}

/-- A value is good after a change just when it was before. -/
theorem map_eq_good_iff {f : α → β} {x : Checked α} {b : β} :
    f <$> x = .good b ↔ ∃ a, x = .good a ∧ f a = b := by
  cases x with
  | good a =>
      show good (f a) = .good b ↔ _
      simp
  | bad places => exact iff_of_false nofun (by simp)

/-- Values that are checked together are good just when each of them is. -/
theorem seq_eq_good_iff {f : Checked (α → β)} {x : Checked α} {b : β} :
    f <*> x = .good b ↔ ∃ g a, f = .good g ∧ x = .good a ∧ g a = b := by
  cases f with
  | good g =>
      cases x with
      | good a =>
          show good (g a) = .good b ↔ _
          simp
      | bad places => exact iff_of_false nofun (by simp)
  | bad places => cases x <;> exact iff_of_false nofun (by simp)

end Checked

namespace Json

def fieldOrEmpty (v : Json) (name : String) : Json := (v.field? name).getD (.str "")

end Json

namespace Question

/-- The start of the text of an element, on one line. -/
def shownText (element : Json) : String :=
  match element.fieldOrNull "text" with
  | .str s => String.ofList ((s.toList.map fun c => if c == '\n' then ' ' else c).take textLimit)
  | _ => ""

def shownLabel (element : Json) : Json :=
  if (element.fieldOrNull "label").truthy then element.fieldOrNull "label" else .str ""

/-- The entry of an element in a catalogue: its number, and what is known about it. -/
def entry (i : Nat) (element : Json) : String :=
  let field (name : String) := (element.fieldOrEmpty name).display
  let tag := field "tag"
  let type := field "type"
  let selector := field "selector"
  let label := (shownLabel element).quotedText
  let text := quoted (shownText element)
  s!"[{i}] <{tag}> type={type} selector={selector} " ++ s!"label={label} text={text}"

/-- The line of an element begins with its number. -/
theorem elementLine_eq {element : Json} (hElement : element.IsElement) (i : Nat) :
    elementLine i element = .ok (entry i element) := by
  obtain ⟨fields, rfl, hText⟩ := hElement
  have hShown : elementText (.obj fields) = .ok (shownText (.obj fields)) := by
    rw [elementText, Json.fieldOr_obj, shownText, Json.fieldOrNull, Json.field?]
    cases hLookup : fields.lookup "text" with
    | none => rfl
    | some v =>
        cases v with
        | str text => rfl
        | _ =>
            dsimp only [bind, Except.bind, Option.getD_some]
            split
            · rename_i hTruthy
              obtain ⟨text, hStr⟩ := hText _ hLookup hTruthy
              cases hStr
            · rfl
  rw [elementLine, hShown]
  rfl

/-- An entry starts with its number. -/
theorem entry_numbered (i : Nat) (element : Json) :
    s!"[{i}]".toList <+: (entry i element).toList := by
  have hClosing : "] <".toList = "]".toList ++ " <".toList := rfl
  simp only [entry, toString, String.toList_append, List.append_assoc, hClosing,
    List.prefix_append_right_inj, List.prefix_append]

/-- The lines of elements are numbered on from where they start. -/
theorem elementLines_eq {elements : List Json} (hElements : ∀ e ∈ elements, e.IsElement) (i : Nat) :
    elementLines i elements = .ok (elements.mapIdx fun j element => entry (i + j) element) := by
  induction elements generalizing i with
  | nil => rfl
  | cons element rest ih =>
      obtain ⟨hHead, hRest⟩ := List.forall_mem_cons.mp hElements
      rw [elementLines, elementLine_eq hHead, ih hRest, List.mapIdx_cons]
      simp [bind, Except.bind, pure, Except.pure, Nat.add_assoc, Nat.add_comm 1]

/-- The entries that a question has room for. -/
def entries (elements : List Json) : List String := (elements.take shown.toNat).mapIdx entry

/-- The line that tells how many elements were left out. -/
def note (elements : List Json) : List String :=
  let omitted := (elements.length : Int) - shown
  if omitted ≤ 0 then [] else [s!"... {omitted} more elements omitted"]

/-- The element with a number has its line at that place, as far as lines are shown. -/
theorem getElem?_entries {elements : List Json} {i : Nat} (hShown : i < 150) :
    (entries elements)[i]? = elements[i]?.map (entry i) := by
  have hTake : (elements.take shown.toNat)[i]? = elements[i]? := List.getElem?_take_of_lt hShown
  rw [entries, List.getElem?_mapIdx, hTake]

/-- A catalogue prints its elements in order, with a note on those that are left out. -/
theorem catalogue_eq {elements : List Json} (hElements : ∀ e ∈ elements, e.IsElement) :
    catalogue elements shown = .ok (if elements.isEmpty then "(no interactive elements)"
      else joinLines (entries elements ++ note elements)) := by
  have hLines : elementLines 0 (elements.take (within shown elements.length)) =
      .ok (entries elements) := by
    rw [elementLines_eq fun e he => hElements e (List.mem_of_mem_take he)]
    simp only [Nat.zero_add]
    rfl
  have hEmpty : ((entries elements).isEmpty && (note elements).isEmpty) = elements.isEmpty := by
    cases elements with
    | nil => rfl
    | cons element rest => simp [entries, shown]
  rw [catalogue, hLines]
  show (if (entries elements).isEmpty && (note elements).isEmpty then
    pure "(no interactive elements)" else pure (joinLines (entries elements ++ note elements))) = _
  rw [hEmpty]
  split <;> rfl

end Question

namespace PageAction

/-- The selector that an action goes by: that of the element with its number, if there is one and it
has a selector, and else its own. -/
inductive Aims (elements : List Json) (own : PageAction) : Option String → Prop
  | element {i : Nat} {element : Json} (hIndex : own.elementIndex = some (i : Int))
      (hAt : elements[i]? = some element)
      (hSelector : (element.fieldOrNull "selector").truthy = true) :
      Aims elements own (some (element.fieldOrNull "selector").display)
  | bare {i : Nat} {element : Json} (hIndex : own.elementIndex = some (i : Int))
      (hAt : elements[i]? = some element)
      (hSelector : (element.fieldOrNull "selector").truthy = false) :
      Aims elements own own.selector
  | outside {i : Int} (hIndex : own.elementIndex = some i)
      (hOutside : i < 0 ∨ elements.length ≤ i) :
      Aims elements own own.selector
  | unnumbered (hIndex : own.elementIndex = none) : Aims elements own own.selector

variable {elements : List Json} (hElements : ∀ e ∈ elements, e.IsElement)

include hElements in
/-- The selector of an action is its own, or that of the element with its number. -/
theorem aims_of_selectorIn {own : PageAction} {selector : Option String}
    (hSelector : own.selectorIn elements = .ok selector) : Aims elements own selector := by
  unfold selectorIn at hSelector
  split at hSelector
  · rename_i i hIndex
    split at hSelector
    · rename_i element hAt
      obtain ⟨fields, rfl, -⟩ := hElements element (List.mem_of_getElem? hAt)
      rw [Json.fieldOr_obj] at hSelector
      dsimp only [bind, Except.bind] at hSelector
      obtain rfl := pure_eq_ok_iff.mp hSelector
      split
      · rename_i hTruthy
        exact .element hIndex hAt hTruthy
      · rename_i hFalse
        exact .bare hIndex hAt (Bool.eq_false_iff.mpr hFalse)
    · rename_i hOutside
      obtain rfl := Except.ok.inj hSelector
      refine .outside hIndex (.inr ?_)
      exact Int.ofNat_le.mpr (List.getElem?_eq_none_iff.mp hOutside)
  · rename_i hIndex
    obtain rfl := Except.ok.inj hSelector
    cases hOwn : own.elementIndex with
    | none => exact .unnumbered hOwn
    | some i =>
        cases i with
        | ofNat i => exact absurd hOwn (hIndex i)
        | negSucc i => exact .outside hOwn (.inl (Int.negSucc_lt_zero i))

omit hElements

/-- What an entry of a decision asks for: an action with the fields of the entry, but for its
selector, which goes with the number of an element. -/
structure IsAsked (elements : List Json) (entry : Json) (a : PageAction) : Prop where
  fields : ∃ own, ofEntry (entry.fieldOrNull "action_type") entry = .good own ∧
    Aims elements own a.selector ∧ a = { own with selector := a.selector }
  /-- A whole number in the entry is the number of the element. -/
  numbered : ∀ i, entry.fieldOrNull "element_index" = .int i → a.elementIndex = some i

/-- A number in an entry is taken as it is. -/
theorem elementIndex_of_ofEntry {type entry : Json} {own : PageAction}
    (hOwn : ofEntry type entry = .good own) {i : Int}
    (hIndex : entry.fieldOrNull "element_index" = .int i) : own.elementIndex = some i := by
  obtain ⟨_, _, hThree, -, rfl⟩ := Checked.seq_eq_good_iff.mp hOwn
  obtain ⟨_, _, hTwo, -, rfl⟩ := Checked.seq_eq_good_iff.mp hThree
  obtain ⟨_, _, hOne, -, rfl⟩ := Checked.seq_eq_good_iff.mp hTwo
  obtain ⟨index, hRead, rfl⟩ := Checked.map_eq_good_iff.mp hOne
  rw [hIndex] at hRead
  cases hRead
  rfl

/-- An entry that asks for an action gives that action, if it can be read. -/
theorem exists_isAsked (hElements : ∀ e ∈ elements, e.IsElement) {entry : Json}
    (hAsks : entry.asksAction = true) {a? : Option PageAction}
    (hRead : ofDecision? elements entry = .ok a?) :
    ∃ a, a? = some a ∧ IsAsked elements entry a := by
  rw [ofDecision?_of_asks hAsks] at hRead
  cases hOwn : ofEntry (entry.fieldOrNull "action_type") entry with
  | bad places =>
      rw [hOwn] at hRead
      cases hRead
  | good own =>
      rw [hOwn] at hRead
      obtain ⟨selector, hSelector, hAction⟩ := bind_eq_ok_iff.mp hRead
      obtain rfl := pure_eq_ok_iff.mp hAction
      exact ⟨_, rfl, ⟨own, hOwn, aims_of_selectorIn hElements hSelector, rfl⟩,
        fun i hIndex => elementIndex_of_ofEntry hOwn hIndex⟩

/-- The entries that ask for actions give them in their order, and the others give none. -/
theorem forall₂_of_mapM (hElements : ∀ e ∈ elements, e.IsElement) {entries : List Json}
    {read : List (Option PageAction)} (hRead : entries.mapM (ofDecision? elements) = .ok read) :
    List.Forall₂ (IsAsked elements) (entries.filter Json.asksAction) (read.filterMap id) := by
  induction entries generalizing read with
  | nil =>
      obtain rfl := pure_eq_ok_iff.mp hRead
      exact .nil
  | cons entry rest ih =>
      rw [List.mapM_cons] at hRead
      obtain ⟨first?, hFirst, hTail⟩ := bind_eq_ok_iff.mp hRead
      obtain ⟨later, hLater, hEnd⟩ := bind_eq_ok_iff.mp hTail
      obtain rfl := pure_eq_ok_iff.mp hEnd
      have hRest := ih hLater
      cases hAsks : entry.asksAction with
      | false =>
          rw [ofDecision?_of_not_asks hAsks] at hFirst
          obtain rfl := Except.ok.inj hFirst
          rw [List.filter_cons_of_neg (by simp [hAsks])]
          exact hRest
      | true =>
          obtain ⟨a, rfl, hAsked⟩ := exists_isAsked hElements hAsks hFirst
          rw [List.filter_cons_of_pos hAsks]
          exact .cons hAsked hRest

/-- A list of entries is read unless it is none, or there is a misfit in it. -/
theorem exists_ofDecision_iff (hElements : ∀ e ∈ elements, e.IsElement) {raw : Json} :
    (∃ actions, ofDecision elements raw = .ok actions) ↔
      ¬ raw.IsStray ∧ ∀ entry ∈ raw.entries, ¬ entry.IsMisfit := by
  constructor
  · rintro ⟨actions, hRead⟩
    constructor
    · intro hStray
      cases hRead.symm.trans (ofDecision_of_isStray hStray)
    · intro entry hEntry hMisfit
      obtain ⟨places, hFault⟩ := ofDecision_of_isMisfit hElements hEntry hMisfit
      cases hRead.symm.trans hFault
  · rintro ⟨hStray, hFits⟩
    obtain ⟨actions, hRead, -⟩ := ofDecision_eq_ok hElements hStray hFits
    exact ⟨actions, hRead⟩

/-- The actions of a decision are those that its entries ask for, entry by entry. -/
theorem forall₂_of_ofDecision (hElements : ∀ e ∈ elements, e.IsElement) {raw : Json}
    {actions : List PageAction} (hRead : ofDecision elements raw = .ok actions) :
    List.Forall₂ (IsAsked elements) (raw.entries.filter Json.asksAction) actions := by
  have hStray : ¬ raw.IsStray := ((exists_ofDecision_iff hElements).mp ⟨actions, hRead⟩).1
  rw [ofDecision_eq hStray] at hRead
  obtain ⟨read, hEach, hActions⟩ := bind_eq_ok_iff.mp hRead
  obtain rfl := pure_eq_ok_iff.mp hActions
  exact forall₂_of_mapM hElements hEach

end PageAction

namespace PageSession

/-- An entry of a decision names an element with one of these numbers. -/
def isInRange (count : Nat) (entry : Json) : Bool :=
  (indexOf? entry).any fun i => 0 ≤ i && i < (count : Int)

def reportOf (element entry : Json) : Json :=
  let description := entry.fieldOrNull "description"
  .obj [("description", if description.truthy then description else element.fieldOrEmpty "text"),
    ("selector", element.fieldOrEmpty "selector"), ("type", element.fieldOrEmpty "type"),
    ("attributes", (element.field? "attributes").getD (.obj []))]

/-- What is observed of an entry is told of the element with its number. -/
def IsObserved (elements : List Json) (entry report : Json) : Prop :=
  ∃ (i : Nat) (element : Json), indexOf? entry = some (i : Int) ∧ elements[i]? = some element ∧
    report = reportOf element entry

/-- An entry of an observation stands for the element with its number, and is left out where there
is none. -/
theorem observed?_eq {elements : List Json} (hElements : ∀ e ∈ elements, e.IsElement)
    (entry : Json) : ∃ report?, observed? elements entry = .ok report? ∧
      if isInRange elements.length entry then ∃ report, report? = some report ∧
        IsObserved elements entry report
      else report? = none := by
  unfold observed?
  split
  · rename_i i hIndex
    split
    · rename_i element hAt
      obtain ⟨hShort, -⟩ := List.getElem?_eq_some_iff.mp hAt
      obtain ⟨fields, rfl, -⟩ := hElements element (List.mem_of_getElem? hAt)
      have hRange : isInRange elements.length entry = true := by
        rw [isInRange, hIndex]
        simpa using hShort
      refine ⟨some (reportOf (.obj fields) entry), rfl, ?_⟩
      rw [if_pos hRange]
      exact ⟨_, rfl, i, _, hIndex, hAt, rfl⟩
    · rename_i hOutside
      have hRange : ¬ isInRange elements.length entry = true := by
        rw [isInRange, hIndex]
        simpa using hOutside
      exact ⟨none, rfl, by rw [if_neg hRange]⟩
  · rename_i hIndex
    have hRange : ¬ isInRange elements.length entry = true := by
      rw [isInRange]
      cases hOwn : indexOf? entry with
      | none => simp
      | some i =>
          cases i with
          | ofNat i => exact absurd hOwn (hIndex i)
          | negSucc i => simp
    exact ⟨none, rfl, by rw [if_neg hRange]⟩

/-- What is observed is told of the elements that entries name, in the order of the entries; the
other entries are left out. -/
theorem exists_mapM_observed? {elements : List Json} (hElements : ∀ e ∈ elements, e.IsElement)
    (items : List Json) : ∃ found, items.mapM (observed? elements) = .ok found ∧
      List.Forall₂ (IsObserved elements) (items.filter (isInRange elements.length))
        (found.filterMap id) := by
  induction items with
  | nil => exact ⟨[], rfl, .nil⟩
  | cons entry rest ih =>
      obtain ⟨report?, hHead, hReport⟩ := observed?_eq hElements entry
      obtain ⟨found, hTail, hFound⟩ := ih
      refine ⟨report? :: found, by rw [List.mapM_cons, hHead, hTail]; rfl, ?_⟩
      cases hRange : isInRange elements.length entry with
      | false =>
          rw [if_neg (Bool.eq_false_iff.mp hRange)] at hReport
          rw [hReport, List.filter_cons_of_neg (Bool.eq_false_iff.mp hRange)]
          exact hFound
      | true =>
          rw [if_pos hRange] at hReport
          obtain ⟨report, rfl, hObserved⟩ := hReport
          rw [List.filter_cons_of_pos hRange]
          exact .cons hObserved hFound

end PageSession

/-- The elements of a catalogue have one numbering: for the question that prints them, for the
actions of a decision, and for what is observed. -/
structure Numbered (elements : List Json) : Prop where
  /-- The entry with a number is about the element with that number. -/
  printed : ∃ lines note, Question.catalogue elements Question.shown = .ok
      (if elements.isEmpty then "(no interactive elements)" else joinLines (lines ++ note)) ∧
    lines.length = min 150 elements.length ∧
    ∀ i element, i < 150 → elements[i]? = some element →
      lines[i]? = some (Question.entry i element) ∧
        s!"[{i}]".toList <+: (Question.entry i element).toList
  /-- One misfit keeps all actions of a decision from being read. -/
  readable : ∀ raw, (∃ actions, PageAction.ofDecision elements raw = .ok actions) ↔
    ¬ raw.IsStray ∧ ∀ entry ∈ raw.entries, ¬ entry.IsMisfit
  actions : ∀ raw actions, PageAction.ofDecision elements raw = .ok actions →
    List.Forall₂ (PageAction.IsAsked elements) (raw.entries.filter Json.asksAction) actions
  observed : ∀ fields items, (Json.elementsIn fields).items = .ok items →
    ∃ found, PageSession.foundIn elements (.obj fields) = .ok found ∧
      List.Forall₂ (PageSession.IsObserved elements)
        (items.filter (PageSession.isInRange elements.length)) (found.filterMap id)

/-- A catalogue, the actions and the observations on it go by the same numbers. -/
theorem numbered_of_isElement {elements : List Json} (hElements : ∀ e ∈ elements, e.IsElement) :
    Numbered elements where
  printed := by
    refine ⟨Question.entries elements, Question.note elements, Question.catalogue_eq hElements, ?_,
      fun i element hShown hAt => ⟨?_, Question.entry_numbered i element⟩⟩
    · rw [Question.entries, List.length_mapIdx, List.length_take]
      rfl
    · rw [Question.getElem?_entries hShown, hAt]
      rfl
  readable raw := PageAction.exists_ofDecision_iff hElements
  actions raw actions hRead := PageAction.forall₂_of_ofDecision hElements hRead
  observed fields items hItems := by
    rw [PageSession.foundIn_obj, hItems]
    exact PageSession.exists_mapM_observed? hElements items

end ScenarioRunner
