import ScenarioRunner.Proofs.Script.Words
import ScenarioRunner.Proofs.Slot
import ScenarioRunner.Proofs.Text.Lines
import ScenarioRunner.Script.Line
import ScenarioRunner.Template

/-! Lines of script templates. A line fixes its operation, its arguments and its binding; what is
put into a slot of it, quoted, fills one argument and changes nothing else. -/
namespace ScenarioRunner.Script

open Text

/-- A word of a template that stands as it is: no blank, no quote, and no slot in it. -/
structure Literal where
  chars : List Char
  nonempty : chars ≠ []
  bare : ∀ c ∈ chars, IsBare c
  noSlot : ¬ Template.mark.opening <:+: chars

structure OperationName where
  chars : List Char
  nonempty : chars ≠ []
  inName : ∀ c ∈ chars, isWord c = true

structure SlotName where
  text : String
  isName : Template.mark.IsName text.toList

def arrow : List Char := ['-', '>']

/-- An argument in a template: a word that is no arrow, or one slot. -/
inductive TemplateArg where
  | literal (word : Literal) (hArrow : word.chars ≠ arrow)
  | slot (name : SlotName)

namespace TemplateArg

def source : TemplateArg → List Char
  | literal word _ => word.chars
  | slot name => Template.mark.written name.text.toList

/-- The argument with the value of its slot in it, quoted. -/
def shown (value : String → String) : TemplateArg → List Char
  | literal word _ => word.chars
  | slot name => shellQuote (value name.text).toList

/-- What the argument means: a literal what it means by itself, a slot the text of its value. -/
def meaning (value : String → String) : TemplateArg → Arg
  | literal word _ => .ofWord ⟨String.ofList word.chars, true⟩
  | slot name => .word (value name.text)

end TemplateArg

structure TemplateLine where
  operation : OperationName
  args : List TemplateArg
  bind : Option Literal := none

namespace TemplateLine

def binding (l : TemplateLine) : List (List Char) :=
  match l.bind with
  | none => []
  | some name => [arrow, name.chars]

def words (l : TemplateLine) (args : List (List Char)) : List (List Char) :=
  l.operation.chars :: (args ++ l.binding)

def source (l : TemplateLine) : List Char := joinWith [' '] (l.words (l.args.map (·.source)))

/-- The line with the values of its slots in it, quoted. -/
def shown (value : String → String) (l : TemplateLine) : List Char :=
  joinWith [' '] (l.words (l.args.map (·.shown value)))

/-- The line of a script that the line of a template stands for. -/
def meaning (value : String → String) (number : Nat) (l : TemplateLine) : Line where
  number := number
  operation := String.ofList l.operation.chars
  args := l.args.map (·.meaning value)
  bind := l.bind.map fun name => String.ofList name.chars

def slots (l : TemplateLine) : List String :=
  l.args.filterMap fun
    | .literal _ _ => none
    | .slot name => some name.text

/-- No value of a slot in the line has a line break in it. -/
def Unbroken (value : String → String) (l : TemplateLine) : Prop :=
  ∀ name ∈ l.slots, Text.Unbroken (value name).toList

instance (value : String → String) (l : TemplateLine) : Decidable (l.Unbroken value) :=
  inferInstanceAs (Decidable (∀ name ∈ l.slots, Text.Unbroken (value name).toList))

theorem mem_slots_iff {l : TemplateLine} {name : String} :
    name ∈ l.slots ↔ ∃ slot : SlotName, .slot slot ∈ l.args ∧ slot.text = name := by
  rw [slots, List.mem_filterMap]
  constructor
  · rintro ⟨a, ha, hName⟩
    cases a with
    | literal word hArrow => simp at hName
    | slot slot => exact ⟨slot, ha, Option.some.inj hName⟩
  · rintro ⟨slot, hSlot, rfl⟩
    exact ⟨_, hSlot, rfl⟩

end TemplateLine

/-! Filling the slots of a template. -/

theorem closesNames_mark : Template.mark.ClosesNames := by
  show Template.mark.inName Template.mark.closing = false
  decide

theorem apart_of_isBlank {c : Char} (h : isBlank c = true) : Template.mark.Apart c := by
  let isSign (c : Char) : Bool := ['$', '\x7b', '\x7d', ':', '.'].contains c
  have hSigns : (!isSign c) = true := eq_true_of_isBlank (p := fun c => !isSign c) (by decide) h
  have hWord := isWord_eq_false_of_isBlank h
  simp only [isSign, List.contains_eq_mem, List.mem_cons, List.not_mem_nil, or_false, not_or,
    Bool.not_eq_true', decide_eq_false_iff_not] at hSigns
  obtain ⟨hDollar, hOpen, hClose, hColon, hPoint⟩ := hSigns
  exact ⟨by simp [Template.mark, hDollar, hOpen], hClose,
    by simp [Template.mark, hWord, hColon, hPoint]⟩

variable {value? : String → Option String}

/-- Words with a space between neighbours are filled one by one. -/
theorem filled_joinWith (written : List (List Char)) :
    Template.mark.filled value? (joinWith [' '] written) =
      joinWith [' '] (written.map (Template.mark.filled value?)) := by
  have hSpace : Template.mark.Apart ' ' := apart_of_isBlank isBlank_space
  induction written with
  | nil => simp [joinWith]
  | cons first rest ih =>
      cases rest with
      | nil => simp [joinWith]
      | cons second rest =>
          rw [List.map_cons] at ih
          simp [joinWith, SlotMark.filled_append closesNames_mark hSpace, ih]

theorem filled_of_isWord (value? : String → Option String) {s : List Char}
    (h : ∀ c ∈ s, isWord c = true) :
    Template.mark.filled value? s = s := by
  refine SlotMark.filled_of_not_infix fun hInfix => ?_
  have hDollar := h '$' (hInfix.subset (by decide))
  exact absurd hDollar (by decide)

theorem filled_literal (word : Literal) : Template.mark.filled value? word.chars = word.chars :=
  SlotMark.filled_of_not_infix word.noSlot

theorem filled_arrow : Template.mark.filled value? arrow = arrow :=
  SlotMark.filled_of_not_infix (by decide)

/-- An argument is filled with the quoted value of its slot. -/
theorem filled_arg {value : String → String} (a : TemplateArg)
    (h : ∀ slot, a = .slot slot → value? slot.text = some (value slot.text)) :
    Template.mark.filled (fun name => (value? name).map Template.word) a.source =
      a.shown value := by
  cases a with
  | literal word hArrow => exact filled_literal word
  | slot name =>
      have hValue : (value? name.text).map Template.word =
          some (Template.word (value name.text)) := by
        rw [h name rfl, Option.map_some]
      rw [TemplateArg.source, SlotMark.filled_written closesNames_mark name.isName hValue,
        Template.word, String.toList_ofList, TemplateArg.shown]

theorem filled_binding (l : TemplateLine) :
    l.binding.map (Template.mark.filled value?) = l.binding := by
  rw [TemplateLine.binding]
  cases l.bind with
  | none => rfl
  | some name => rw [List.map_cons, List.map_singleton, filled_arrow, filled_literal]

/-- The slots of a line are filled with the quoted values, and all else stays. -/
theorem filled_source {value : String → String} {l : TemplateLine}
    (h : ∀ name ∈ l.slots, value? name = some (value name)) :
    Template.mark.filled (fun name => (value? name).map Template.word) l.source =
      l.shown value := by
  have hArgs : (l.args.map (·.source)).map
      (Template.mark.filled fun name => (value? name).map Template.word) =
        l.args.map (·.shown value) := by
    rw [List.map_map]
    refine List.map_congr_left fun a ha => filled_arg a ?_
    rintro slot rfl
    exact h slot.text (TemplateLine.mem_slots_iff.mpr ⟨slot, ha, rfl⟩)
  rw [TemplateLine.source, TemplateLine.shown, filled_joinWith, TemplateLine.words,
    TemplateLine.words, List.map_cons, List.map_append, filled_of_isWord _ l.operation.inName,
    hArgs, filled_binding]

/-! Reading a filled line. -/

theorem isBare_of_isWord {c : Char} (h : isWord c = true) : IsBare c where
  notBlank := isBlank_eq_false_of_isWord h
  notSingle := by rintro rfl; exact absurd h (by decide)
  notDouble := by rintro rfl; exact absurd h (by decide)

def arrowWord : Word := ⟨"->", true⟩

/-- A text that is written without quotes refers to no binding and is no arrow. -/
theorem ofWord_value {v : String} {bare : Bool} (h : bare = true → IsPlain v.toList) :
    Arg.ofWord ⟨v, bare⟩ = .word v ∧ (⟨v, bare⟩ : Word) ≠ arrowWord := by
  refine ⟨?_, ?_⟩
  · rw [Arg.ofWord]
    split
    · rename_i name hBare hText
      have hSafe := (h hBare).2 '$' (by simp [show v.toList = '$' :: name from hText])
      exact absurd hSafe (by decide)
    · rfl
  · rintro hArrow
    obtain ⟨rfl, rfl⟩ := Word.mk.inj hArrow
    have hSafe := (h rfl).2 '>' (by decide)
    exact absurd hSafe (by decide)

/-- A filled argument is read as one word, which is no arrow and means what the argument means. -/
theorem readsAs_shown (value : String → String) (a : TemplateArg) :
    ∃ w, ReadsAs (a.shown value) w ∧ w ≠ arrowWord ∧ Arg.ofWord w = a.meaning value := by
  cases a with
  | literal word hArrow =>
      refine ⟨_, readsAs_bare word.bare word.nonempty, fun hEq => hArrow ?_, rfl⟩
      have hText := congrArg (fun w => w.text.toList) hEq
      simpa [arrowWord, arrow, TemplateArg.shown] using hText
  | slot name =>
      obtain ⟨bare, hReads, hBare⟩ := readsAs_shellQuote (value name.text).toList
      rw [String.ofList_toList] at hReads
      obtain ⟨hMeaning, hArrow⟩ := ofWord_value hBare
      exact ⟨_, hReads, hArrow, hMeaning⟩

theorem readsAs_args (value : String → String) (args : List TemplateArg) :
    ∃ ws, List.Forall₂ ReadsAs (args.map (·.shown value)) ws ∧ (∀ w ∈ ws, w ≠ arrowWord) ∧
      ws.map Arg.ofWord = args.map (·.meaning value) := by
  induction args with
  | nil => exact ⟨[], .nil, by simp, rfl⟩
  | cons a args ih =>
      obtain ⟨w, hReads, hArrow, hMeaning⟩ := readsAs_shown value a
      obtain ⟨ws, hRest, hArrows, hMeanings⟩ := ih
      exact ⟨w :: ws, .cons hReads hRest, by simpa using ⟨hArrow, hArrows⟩,
        by simp [hMeaning, hMeanings]⟩

theorem takeBind_of_no_arrow {ws : List Word} (h : ∀ w ∈ ws, w ≠ arrowWord) :
    takeBind ws = (ws, none) := by
  fun_induction takeBind ws with
  | case1 => rfl
  | case2 w => rfl
  | case3 w name hArrow => exact absurd (beq_iff_eq.mp hArrow) (h w List.mem_cons_self)
  | case4 w name _ => rfl
  | case5 w rest _ _ words bind hRest ih =>
      have hSame := ih fun x hx => h x (List.mem_cons_of_mem _ hx)
      rw [hRest] at hSame
      obtain ⟨rfl, rfl⟩ := Prod.mk.inj hSame
      rfl

/-- An arrow before the last word is taken off together with that word. -/
theorem takeBind_append_arrow (ws : List Word) (name : Word) :
    takeBind (ws ++ [arrowWord, name]) = (ws, some name.text) := by
  induction ws with
  | nil => rfl
  | cons w ws ih =>
      cases ws with
      | nil => rfl
      | cons v ws =>
          rw [List.cons_append, takeBind, ih]
          · simp
          · simp

section

variable {c : Char} (hc : isWord c = true) (number : Nat) {rest : List Char}

include hc

/-- A line that starts with a word character is not passed over: it is read by its words. -/
theorem readLine_of_words {operation : Word} {args : List Word} {bind : Option String}
    {words : List Word} (hWords : splitWords (c :: rest) = some words)
    (hTake : takeBind words = (operation :: args, bind)) :
    readLine number (c :: rest) =
      .ok (some ⟨number, operation.text, args.map .ofWord, bind⟩) := by
  have hTrim := trim_cons (isBlank_eq_false_of_isWord hc) rest
  have hSign : c ≠ '#' := by rintro rfl; exact absurd hc (by decide)
  rw [← splitWords_trim, hTrim] at hWords
  rw [readLine, hTrim]
  simp [hSign, hWords, hTake]

theorem readLine_of_open (hOpen : splitWords (c :: rest) = none) :
    readLine number (c :: rest) = .error (.openQuote number) := by
  have hTrim := trim_cons (isBlank_eq_false_of_isWord hc) rest
  have hSign : c ≠ '#' := by rintro rfl; exact absurd hc (by decide)
  rw [← splitWords_trim, hTrim] at hOpen
  rw [readLine, hTrim]
  simp [hSign, hOpen]

end

/-- The words of a line start with its operation. -/
theorem exists_joinWith_cons (operation : OperationName) (args : List (List Char)) :
    ∃ c rest, joinWith [' '] (operation.chars :: args) = c :: rest ∧ isWord c = true := by
  obtain ⟨c, chars, hChars⟩ := List.exists_cons_of_ne_nil operation.nonempty
  have hc := operation.inName c (by simp [hChars])
  cases args with
  | nil => exact ⟨c, chars, hChars, hc⟩
  | cons second args =>
      exact ⟨c, chars ++ ' ' :: joinWith [' '] (second :: args), by simp [joinWith, hChars], hc⟩

theorem readsAs_operation (operation : OperationName) :
    ReadsAs operation.chars ⟨String.ofList operation.chars, true⟩ :=
  readsAs_bare (fun c hc => isBare_of_isWord (operation.inName c hc)) operation.nonempty

theorem operation_ne_arrow (operation : OperationName) :
    (⟨String.ofList operation.chars, true⟩ : Word) ≠ arrowWord := by
  intro hEq
  have hText : operation.chars = arrow := by
    simpa [arrowWord, arrow] using congrArg (fun w => w.text.toList) hEq
  exact absurd (operation.inName '>' (by simp [hText, arrow])) (by decide)

theorem readsAs_arrow : ReadsAs arrow arrowWord := by
  have hBare : ∀ c ∈ arrow, IsBare c := by
    intro c hc
    have hc : c = '-' ∨ c = '>' := by simpa [arrow] using hc
    rcases hc with rfl | rfl <;> exact ⟨by decide, by decide, by decide⟩
  exact readsAs_bare hBare (by decide)

/-- A filled line is read as what the line of the template means. -/
theorem readLine_shown (value : String → String) (number : Nat) (l : TemplateLine) :
    readLine number (l.shown value) = .ok (some (l.meaning value number)) := by
  obtain ⟨operation, args, bind⟩ := l
  obtain ⟨ws, hReads, hArrows, hMeanings⟩ := readsAs_args value args
  have hHead := List.Forall₂.cons (readsAs_operation operation) hReads
  have hNoArrow : ∀ w ∈ ⟨String.ofList operation.chars, true⟩ :: ws, w ≠ arrowWord := by
    simpa using ⟨operation_ne_arrow operation, hArrows⟩
  rw [TemplateLine.shown, TemplateLine.meaning, ← hMeanings]
  cases bind with
  | none =>
      obtain ⟨c, rest, hLayout, hc⟩ := exists_joinWith_cons operation (args.map (·.shown value))
      rw [TemplateLine.words, TemplateLine.binding, List.append_nil, hLayout]
      exact readLine_of_words hc number (hLayout ▸ splitWords_joinWith hHead)
        (takeBind_of_no_arrow hNoArrow)
  | some name =>
      have hName := readsAs_bare name.bare name.nonempty
      have hBind := List.Forall₂.cons readsAs_arrow (.cons hName .nil)
      obtain ⟨c, rest, hLayout, hc⟩ :=
        exists_joinWith_cons operation (args.map (·.shown value) ++ [arrow, name.chars])
      have hWords := splitWords_joinWith (List.rel_append hHead hBind)
      rw [TemplateLine.words, TemplateLine.binding, hLayout]
      exact readLine_of_words hc number (hLayout ▸ hWords) (takeBind_append_arrow _ _)

end ScenarioRunner.Script
