import ScenarioRunner.Proofs.Script.Template
import ScenarioRunner.Proofs.World
import ScenarioRunner.Rule.Builtin
import ScenarioRunner.Script.Run

/-! Scripts that come from templates. The operations, the arguments and the bindings of the script
are those of the template, whatever texts are put into its slots. A text with a line break in it
leaves a quotation open where its line ends, and then nothing of the script is run. -/
namespace ScenarioRunner.Script

open Text

theorem unbroken_shellInner {v : List Char} (h : Text.Unbroken v) :
    Text.Unbroken (shellInner v) := by
  induction v with
  | nil => exact h
  | cons c v ih =>
      have hRest := ih fun x hx => h x (List.mem_cons_of_mem _ hx)
      rw [shellInner, unbroken_append]
      refine ⟨?_, hRest⟩
      split
      · decide
      · simpa [Text.Unbroken] using h c List.mem_cons_self

theorem unbroken_shellQuote {v : List Char} (h : Text.Unbroken v) :
    Text.Unbroken (shellQuote v) := by
  by_cases hPlain : IsPlain v
  · rwa [shellQuote_of_isPlain hPlain]
  · have hQuote : isLineBreak '\'' = false := by decide
    have hInner := unbroken_shellInner h
    rw [shellQuote_of_not_isPlain hPlain]
    intro c hc
    simp only [List.mem_cons, List.mem_append, List.not_mem_nil, or_false] at hc
    rcases hc with rfl | hc | rfl
    · exact hQuote
    · exact hInner c hc
    · exact hQuote

theorem unbroken_literal (word : Literal) : Text.Unbroken word.chars :=
  fun c hc => isLineBreak_eq_false (word.bare c hc).notBlank

theorem unbroken_operation (operation : OperationName) : Text.Unbroken operation.chars :=
  fun c hc => isLineBreak_eq_false (isBlank_eq_false_of_isWord (operation.inName c hc))

theorem unbroken_joinWith {pieces : List (List Char)} (h : ∀ p ∈ pieces, Text.Unbroken p) :
    Text.Unbroken (joinWith [' '] pieces) := by
  induction pieces with
  | nil => simp [joinWith, Text.Unbroken]
  | cons first rest ih =>
      have hFirst := h first List.mem_cons_self
      have hRest := ih fun p hp => h p (List.mem_cons_of_mem _ hp)
      cases rest with
      | nil => exact hFirst
      | cons second rest =>
          rw [joinWith, unbroken_append, unbroken_append]
          · exact ⟨⟨hFirst, by decide⟩, hRest⟩
          · simp

/-- Text before a break in one of the words of a line. -/
theorem joinWith_cut (before after : List (List Char)) (start rest : List Char) (c : Char) :
    ∃ tail, joinWith [' '] (before ++ (start ++ c :: rest) :: after) =
      joinWith [' '] (before ++ [start]) ++ c :: tail := by
  induction before with
  | nil =>
      cases after with
      | nil => exact ⟨rest, rfl⟩
      | cons second after =>
          exact ⟨rest ++ ' ' :: joinWith [' '] (second :: after), by simp [joinWith]⟩
  | cons first before ih =>
      obtain ⟨tail, hTail⟩ := ih
      refine ⟨tail, ?_⟩
      cases before <;> simp_all [joinWith]

theorem unbroken_shown {value : String → String} {a : TemplateArg}
    (h : ∀ slot, a = .slot slot → Text.Unbroken (value slot.text).toList) :
    Text.Unbroken (a.shown value) := by
  cases a with
  | literal word hArrow => exact unbroken_literal word
  | slot slot => exact unbroken_shellQuote (h slot rfl)

/-- A quoted text with a break in it has its opening quote and the text so far before the break. -/
theorem shellQuote_of_break (before after : List Char) {c : Char} (h : isLineBreak c = true) :
    ∃ tail, shellQuote (before ++ c :: after) = ('\'' :: shellInner before) ++ c :: tail := by
  have hNotPlain : ¬ IsPlain (before ++ c :: after) := by
    intro hPlain
    have hBare := isBare_of_isShellSafe (hPlain.2 c (by simp))
    simp [isLineBreak_eq_false hBare.notBlank] at h
  have hQuote : c ≠ '\'' := by rintro rfl; exact absurd h (by decide)
  have hInner : ∀ s, shellInner (s ++ c :: after) = shellInner s ++ c :: shellInner after := by
    intro s
    induction s with
    | nil => simp [shellInner, hQuote]
    | cons d s ih => rw [List.cons_append, shellInner, ih, shellInner, List.append_assoc]
  exact ⟨shellInner after ++ ['\''], by simp [shellQuote_of_not_isPlain hNotPlain, hInner]⟩

/-! A filled line that is cut inside of one of its quoted values. -/

section

variable {value : String → String}

/-- The text of a filled line up to a place inside the quotes of one of its values. -/
def openLine (value : String → String) (operation : OperationName) (before : List TemplateArg)
    (start : List Char) : List Char :=
  joinWith [' '] (operation.chars :: (before.map (·.shown value) ++ ['\'' :: shellInner start]))

theorem unbroken_openLine (operation : OperationName) {before : List TemplateArg}
    (hBefore : ∀ b ∈ before, ∀ slot, b = .slot slot → Text.Unbroken (value slot.text).toList)
    {start : List Char} (hStart : Text.Unbroken start) :
    Text.Unbroken (openLine value operation before start) := by
  have hQuote : Text.Unbroken ['\''] := by decide
  refine unbroken_joinWith fun p hp => ?_
  simp only [List.mem_cons, List.mem_append, List.mem_map, List.not_mem_nil, or_false] at hp
  rcases hp with rfl | ⟨b, hb, rfl⟩ | rfl
  · exact unbroken_operation operation
  · exact unbroken_shown (hBefore b hb)
  · exact unbroken_append.mpr ⟨hQuote, unbroken_shellInner hStart⟩

theorem readLine_openLine (operation : OperationName) (before : List TemplateArg)
    (start : List Char) (number : Nat) :
    readLine number (openLine value operation before start) = .error (.openQuote number) := by
  obtain ⟨words, hReads, -, -⟩ := readsAs_args value before
  have hWords := splitWords_joinWith_open (.cons (readsAs_operation operation) hReads)
    (splitWords_open start)
  obtain ⟨c, rest, hLayout, hc⟩ := exists_joinWith_cons operation
    (before.map (·.shown value) ++ ['\'' :: shellInner start])
  rw [List.cons_append, hLayout] at hWords
  rw [openLine, hLayout]
  exact readLine_of_open hc number hWords

/-- A break in the value of a slot cuts the filled line inside the quotes of that value. -/
theorem exists_shown_eq_openLine {l : TemplateLine} {before after : List TemplateArg}
    {slot : SlotName} (hArgs : l.args = before ++ .slot slot :: after) {start rest : List Char}
    {c : Char} (hValue : (value slot.text).toList = start ++ c :: rest)
    (hc : isLineBreak c = true) :
    ∃ tail, l.shown value = openLine value l.operation before start ++ c :: tail := by
  obtain ⟨quoted, hQuoted⟩ := shellQuote_of_break start rest hc
  obtain ⟨tail, hCut⟩ := joinWith_cut (l.operation.chars :: before.map (·.shown value))
    (after.map (·.shown value) ++ l.binding) ('\'' :: shellInner start) quoted c
  refine ⟨tail, ?_⟩
  rw [openLine, ← List.cons_append, ← hCut, ← hQuoted, ← hValue]
  simp [TemplateLine.shown, TemplateLine.words, TemplateArg.shown, hArgs]

/-- Of the arguments of a line with a broken value, one is the first with such a value. -/
theorem exists_broken_arg {l : TemplateLine} (h : ¬ l.Unbroken value) :
    ∃ before slot after, l.args = before ++ .slot slot :: after ∧
      (∀ b ∈ before, ∀ slot, b = .slot slot → Text.Unbroken (value slot.text).toList) ∧
        ¬ Text.Unbroken (value slot.text).toList := by
  have hArgs : ¬ ∀ a ∈ l.args, ∀ slot, a = .slot slot →
      Text.Unbroken (value slot.text).toList := by
    refine fun hAll => h ?_
    intro name hName
    obtain ⟨slot, hSlot, rfl⟩ := TemplateLine.mem_slots_iff.mp hName
    exact hAll _ hSlot slot rfl
  obtain ⟨before, a, after, hForm, hBefore, ha⟩ := exists_first_not hArgs
  obtain ⟨slot, rfl, hBroken⟩ :
      ∃ slot, a = .slot slot ∧ ¬ Text.Unbroken (value slot.text).toList := by
    simpa using ha
  exact ⟨before, slot, after, hForm, hBefore, hBroken⟩

/-- Where a value of a filled line has a break in it, a quotation is open at the first break. -/
theorem exists_open_of_broken {l : TemplateLine} (h : ¬ l.Unbroken value) :
    ∃ start c tail, l.shown value = start ++ c :: tail ∧ Text.Unbroken start ∧
      isLineBreak c = true ∧ ∀ number, readLine number start = .error (.openQuote number) := by
  obtain ⟨before, slot, after, hArgs, hBefore, hBroken⟩ := exists_broken_arg h
  obtain ⟨start, c, rest, hValue, hStart, hc⟩ := exists_first_break hBroken
  obtain ⟨tail, hShown⟩ := exists_shown_eq_openLine hArgs hValue hc
  exact ⟨_, c, tail, hShown, unbroken_openLine l.operation hBefore hStart, hc,
    readLine_openLine l.operation before start⟩

end

/-! The lines of a whole script. -/

section

variable {value? : String → Option String} {value : String → String}

def filledText (value? : String → Option String) (text : List Char) : List Char :=
  Template.mark.filled (fun name => (value? name).map Template.word) text

theorem filledText_append_break (value? : String → Option String) {c : Char}
    (h : isLineBreak c = true) (s rest : List Char) :
    filledText value? (s ++ c :: rest) = filledText value? s ++ c :: filledText value? rest :=
  SlotMark.filled_append closesNames_mark (apart_of_isBlank (isBlank_of_isLineBreak h)) s rest

/-- The first character of a template that has lines is one of an operation, and it stays. -/
theorem head?_filledText {text : List Char} {form : List TemplateLine}
    (h : HasLines text (form.map (·.source))) : (filledText value? text).head? ≠ some '\n' := by
  have hStart (l : TemplateLine) (rest : List Char) :
      (filledText value? (l.source ++ rest)).head? ≠ some '\n' := by
    obtain ⟨c, chars, hLayout, hc⟩ := exists_joinWith_cons l.operation
      (l.args.map (·.source) ++ l.binding)
    have hSource : l.source = c :: chars := hLayout
    have hNotSlot : ∀ s, ¬ Template.mark.opening <+: c :: s := by
      rintro s ⟨_, hSlot⟩
      cases hSlot
      exact absurd hc (by decide)
    rw [hSource, List.cons_append, filledText, SlotMark.filled_cons hNotSlot, List.head?_cons]
    rintro hNewline
    cases hNewline
    exact absurd hc (by decide)
  cases form with
  | nil =>
      rw [List.map_nil] at h
      cases h
      simp [filledText]
  | cons l form =>
      obtain ⟨rest, hRest⟩ := h.isPrefix
      rw [← hRest]
      exact hStart l rest

/-- A filled text starts with its first filled line. What follows is nothing, or an end of that line
and the filled rest. -/
theorem filledText_cons {text : List Char} {l : TemplateLine} {form : List TemplateLine}
    (h : HasLines text (l.source :: form.map (·.source)))
    (hValue : ∀ name ∈ l.slots, value? name = some (value name)) :
    (form = [] ∧ filledText value? text = l.shown value) ∨
      ∃ stop rest, HasLines rest (form.map (·.source)) ∧ LineEnd stop (filledText value? rest) ∧
        filledText value? text = l.shown value ++ (stop ++ filledText value? rest) := by
  have hLine : filledText value? l.source = l.shown value := filled_source hValue
  generalize hSource : l.source = source at h hLine
  generalize hForm : form.map (·.source) = lines at h
  cases h with
  | last => exact .inl ⟨by simpa using hForm, hLine⟩
  | @cons _ stop rest _ _ hStop hRest =>
      subst hForm
      refine .inr ⟨stop, rest, hRest, ?_, ?_⟩
      · -- a lone carriage return stays alone: the filled rest does not begin with a newline
        cases hStop with
        | pair => exact .pair _
        | single hBreak => exact .single hBreak fun _ => head?_filledText hRest
      · cases hStop with
        | pair =>
            have hReturn := filledText_append_break value?
              (show isLineBreak '\r' = true by decide) source ('\n' :: rest)
            have hNewline := filledText_append_break value?
              (show isLineBreak '\n' = true by decide) [] rest
            rw [List.nil_append] at hNewline
            rw [← hLine]
            exact hReturn.trans (by rw [hNewline]; rfl)
        | single hBreak => rw [← hLine]; exact filledText_append_break value? hBreak source rest

theorem unbroken_shown_line {l : TemplateLine} (h : l.Unbroken value) :
    Text.Unbroken (l.shown value) := by
  refine unbroken_joinWith fun p hp => ?_
  rcases List.mem_cons.mp hp with rfl | hp
  · exact unbroken_operation l.operation
  · rcases List.mem_append.mp hp with hp | hp
    · obtain ⟨a, ha, rfl⟩ := List.mem_map.mp hp
      exact unbroken_shown fun slot hSlot =>
        h slot.text (TemplateLine.mem_slots_iff.mpr ⟨slot, hSlot ▸ ha, rfl⟩)
    · rw [TemplateLine.binding] at hp
      split at hp
      · simp at hp
      · rename_i name _
        simp only [List.mem_cons, List.not_mem_nil, or_false] at hp
        rcases hp with rfl | rfl
        · decide
        · exact unbroken_literal name

/-- With values that have no break in them, the first line of a filled text is its first filled
line. -/
theorem lines_filledText_cons {text : List Char} {l : TemplateLine} {form : List TemplateLine}
    (h : HasLines text (l.source :: form.map (·.source)))
    (hValue : ∀ name ∈ l.slots, value? name = some (value name)) (hl : l.Unbroken value) :
    ∃ rest, HasLines rest (form.map (·.source)) ∧
      lines (filledText value? text) = l.shown value :: lines (filledText value? rest) := by
  have hShown := unbroken_shown_line hl
  rcases filledText_cons h hValue with ⟨rfl, hFilled⟩ | ⟨stop, rest, hRest, hStop, hFilled⟩
  · obtain ⟨c, chars, hLayout, -⟩ := exists_joinWith_cons l.operation
      (l.args.map (·.shown value) ++ l.binding)
    have hNonempty : l.shown value ≠ [] := by
      rw [TemplateLine.shown, TemplateLine.words, hLayout]
      simp
    have hEnd : filledText value? [] = [] := SlotMark.filled_nil
    refine ⟨[], .nil, ?_⟩
    rw [hFilled, (HasLines.last hShown hNonempty).lines_eq, hEnd, lines_nil]
  · exact ⟨rest, hRest, by rw [hFilled, lines_append_stop hShown hStop]⟩

/-- With values that have no break in them, a filled template is read as what it means, line by
line. -/
theorem readLines_filledText {form : List TemplateLine} {text : List Char}
    (h : HasLines text (form.map (·.source)))
    (hValue : ∀ l ∈ form, ∀ name ∈ l.slots, value? name = some (value name))
    (hUnbroken : ∀ l ∈ form, l.Unbroken value) (number : Nat) :
    readLines number (lines (filledText value? text)) =
      .ok (form.mapIdx fun i l => l.meaning value (number + i)) := by
  induction form generalizing text number with
  | nil =>
      rw [List.map_nil] at h
      cases h
      simp [filledText, readLines]
  | cons l form ih =>
      obtain ⟨rest, hRest, hLines⟩ := lines_filledText_cons h (hValue l List.mem_cons_self)
        (hUnbroken l List.mem_cons_self)
      have hLater := ih hRest (fun l hl => hValue l (List.mem_cons_of_mem _ hl))
        (fun l hl => hUnbroken l (List.mem_cons_of_mem _ hl)) (number + 1)
      rw [hLines, readLines, readLine_shown, hLater]
      simp [bind, Except.bind, pure, Except.pure, Nat.add_assoc, Nat.add_comm 1]

/-- The first line in which a value has a break is where reading ends. -/
theorem readLines_filledText_of_broken {before after : List TemplateLine} {l : TemplateLine}
    {text : List Char} (h : HasLines text ((before ++ l :: after).map (·.source)))
    (hValue : ∀ b ∈ before ++ l :: after, ∀ name ∈ b.slots, value? name = some (value name))
    (hBefore : ∀ b ∈ before, b.Unbroken value) (hl : ¬ l.Unbroken value) (number : Nat) :
    readLines number (lines (filledText value? text)) =
      .error (.openQuote (number + before.length)) := by
  induction before generalizing text number with
  | nil =>
      obtain ⟨start, c, tail, hShown, hStart, hc, hRead⟩ := exists_open_of_broken hl
      obtain ⟨rest, hFilled⟩ : ∃ rest, filledText value? text = start ++ c :: rest := by
        rcases filledText_cons h (hValue l (by simp)) with ⟨-, hEnd⟩ | ⟨stop, rest, -, -, hMore⟩
        · exact ⟨tail, by rw [hEnd, hShown]⟩
        · exact ⟨tail ++ (stop ++ filledText value? rest), by rw [hMore, hShown]; simp⟩
      obtain ⟨ls, hLines⟩ := exists_lines_of_break rest hStart hc
      rw [hFilled, hLines, readLines, hRead]
      rfl
  | cons first before ih =>
      obtain ⟨rest, hRest, hLines⟩ := lines_filledText_cons h (hValue first (by simp))
        (hBefore first List.mem_cons_self)
      have hLater := ih hRest (fun l hl => hValue l (List.mem_cons_of_mem _ hl))
        (fun l hl => hBefore l (List.mem_cons_of_mem _ hl)) (number + 1)
      rw [hLines, readLines, readLine_shown, hLater]
      simp [bind, Except.bind, Nat.add_assoc, Nat.add_comm 1]

end

theorem toList_renderQuoted (template : String) (value? : String → Option String) :
    (Template.renderQuoted template value?).toList = filledText value? template.toList :=
  SlotMark.toList_fill _ _ _

/-- A script with a line that cannot be read leaves everything as it is. -/
theorem runIn_run_of_unreadable {source : String} {fault : ScriptFault}
    (h : read source = .error fault) (session : Session) (values : Assoc String) (s : Surroundings)
    (w : World) :
    Outside.runIn s w (run session values source) =
      ((.error (.script fault), values.mapValues Reply.ofText), w) := by
  rw [run, h]
  rfl

/-- The script of a template has the operations, the arguments and the bindings of the template,
with every slot replaced by one argument, which is the text of its value. This holds for all values
without a line break. Otherwise the first line with a broken value cannot be read, and running the
script changes nothing. -/
theorem read_filled_template (template : String) (form : List TemplateLine)
    (hForm : lines template.toList = form.map (·.source)) (value? : String → Option String)
    (value : String → String)
    (hValue : ∀ l ∈ form, ∀ name ∈ l.slots, value? name = some (value name)) :
    ((∀ l ∈ form, l.Unbroken value) →
      read (Template.renderQuoted template value?) =
        .ok (form.mapIdx fun i l => l.meaning value (1 + i))) ∧
    (¬ (∀ l ∈ form, l.Unbroken value) →
      ∃ before l after, form = before ++ l :: after ∧ (∀ b ∈ before, b.Unbroken value) ∧
        ¬ l.Unbroken value ∧
        read (Template.renderQuoted template value?) = .error (.openQuote (1 + before.length)) ∧
        ∀ session values s w,
          Outside.runIn s w (run session values (Template.renderQuoted template value?)) =
            ((.error (.script (.openQuote (1 + before.length))), values.mapValues Reply.ofText),
              w)) := by
  have hLines := lines_eq_iff.mp hForm
  refine ⟨fun hUnbroken => ?_, fun hBroken => ?_⟩
  · rw [read, toList_renderQuoted]
    exact readLines_filledText hLines hValue hUnbroken 1
  · obtain ⟨before, l, after, rfl, hBefore, hl⟩ := exists_first_not hBroken
    have hRead : read (Template.renderQuoted template value?) =
        .error (.openQuote (1 + before.length)) := by
      rw [read, toList_renderQuoted]
      exact readLines_filledText_of_broken hLines hValue hBefore hl 1
    exact ⟨before, l, after, rfl, hBefore, hl, hRead, runIn_run_of_unreadable hRead⟩

/-- The builtin check that an element contains a text, as lines of words. -/
def checkContainsForm : List TemplateLine := [
  { operation := ⟨"extract".toList, by decide, List.all_eq_true.mp (by decide)⟩
    args := [.slot ⟨"element", by decide⟩]
    bind := some ⟨"actual".toList, by decide, isBare_of_all (by decide), by decide⟩ },
  { operation := ⟨"expect_contains".toList, by decide, List.all_eq_true.mp (by decide)⟩
    args := [
      .literal ⟨"$actual".toList, by decide, isBare_of_all (by decide), by decide⟩ (by decide),
      .slot ⟨"expected", by decide⟩] }]

theorem lines_checkContains :
    lines BuiltinRules.checkContains.toList = checkContainsForm.map (·.source) := by
  decide +kernel

def assertTitleForm : List TemplateLine := [
  { operation := ⟨"title".toList, by decide, List.all_eq_true.mp (by decide)⟩
    args := []
    bind := some ⟨"current".toList, by decide, isBare_of_all (by decide), by decide⟩ },
  { operation := ⟨"expect_contains".toList, by decide, List.all_eq_true.mp (by decide)⟩
    args := [
      .literal ⟨"$current".toList, by decide, isBare_of_all (by decide), by decide⟩ (by decide),
      .slot ⟨"text", by decide⟩] }]

theorem lines_assertTitle :
    lines BuiltinRules.assertTitle.toList = assertTitleForm.map (·.source) := by
  decide +kernel

/-- Quotes, a slot and an arrow in values stay in their arguments; a line break ends the script. -/
theorem read_filled_checkContains :
    read (Template.renderQuoted BuiltinRules.checkContains fun name =>
        some (if name = "element" then "it's" else "$\x7bx\x7d -> #")) =
      .ok [⟨1, "extract", [.word "it's"], some "actual"⟩,
        ⟨2, "expect_contains", [.ref "actual", .word "$\x7bx\x7d -> #"], none⟩] ∧
    ∃ line, read (Template.renderQuoted BuiltinRules.checkContains fun name =>
        some (if name = "element" then "it's" else "one\ntwo")) = .error (.openQuote line) := by
  have hRead (value : String → String) := read_filled_template _ _ lines_checkContains
    (fun name => some (value name)) value fun _ _ _ _ => rfl
  refine ⟨?_, ?_⟩
  · rw [(hRead fun name => if name = "element" then "it's" else "$\x7bx\x7d -> #").1
      (by decide +kernel)]
    decide +kernel
  · obtain ⟨before, -, -, -, -, -, hOpen, -⟩ :=
      (hRead fun name => if name = "element" then "it's" else "one\ntwo").2 (by decide +kernel)
    exact ⟨_, hOpen⟩

end ScenarioRunner.Script
