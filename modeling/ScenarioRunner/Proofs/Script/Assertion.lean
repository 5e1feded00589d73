import ScenarioRunner.Proofs.Dispatch
import ScenarioRunner.Proofs.Rule.Order
import ScenarioRunner.Proofs.Script.Filling

/-! Builtin assertions. Their scripts ask the page for something, bind the answer, and expect a text
in it. Whatever the texts of the step are and whatever is bound before, the step makes that one
call, and it succeeds if and only if the answer has the expected text in it. -/
namespace ScenarioRunner

open Text

/-! Occurrences of a text in another one. -/

/-- A text that is cut is what stands before, the part and what stands after. -/
theorem cutAt?_eq_some {part s before after : List Char}
    (hCut : cutAt? part s = some (before, after)) : before ++ part ++ after = s := by
  induction s generalizing before with
  | nil =>
      rw [cutAt?] at hCut
      split at hCut
      · rename_i hEmpty
        obtain ⟨rfl, rfl⟩ := Prod.mk.inj (Option.some.inj hCut)
        simpa using hEmpty
      · simp at hCut
  | cons c s ih =>
      rw [cutAt?] at hCut
      split at hCut
      · rename_i hPrefix
        obtain ⟨rfl, rfl⟩ := Prod.mk.inj (Option.some.inj hCut)
        obtain ⟨rest, hRest⟩ := List.isPrefixOf_iff_prefix.mp hPrefix
        rw [← hRest, List.drop_left, List.nil_append]
      · obtain ⟨⟨front, rest⟩, hLater, hPair⟩ := Option.map_eq_some_iff.mp hCut
        obtain ⟨rfl, rfl⟩ := Prod.mk.inj hPair
        rw [List.cons_append, List.cons_append, ih hLater]

/-- A text without an occurrence starts with none, and has none behind its first character. -/
theorem not_infix_of_cutAt? {part s : List Char} (hCut : cutAt? part s = none) : ¬ part <:+: s := by
  induction s with
  | nil =>
      rw [cutAt?] at hCut
      simp_all
  | cons c s ih =>
      rw [cutAt?] at hCut
      split at hCut
      · simp at hCut
      · rename_i hPrefix
        rw [List.infix_cons_iff, not_or]
        exact ⟨fun hStart => hPrefix (List.isPrefixOf_iff_prefix.mpr hStart),
          ih (Option.map_eq_none_iff.mp hCut)⟩

/-- A part occurs in a text as a stretch of it. -/
theorem occursIn_iff {part s : List Char} : occursIn part s = true ↔ part <:+: s := by
  rw [occursIn]
  cases hCut : cutAt? part s with
  | none => simpa using not_infix_of_cutAt? hCut
  | some found => simpa using ⟨found.1, found.2, cutAt?_eq_some hCut⟩

theorem contains_iff {s part : String} : contains s part = true ↔ part.toList <:+: s.toList :=
  occursIn_iff

namespace Script

/-! Running lines one after another. -/

section

variable (s : Surroundings) (w : World) (session : Session)

/-- A line whose arguments stand for something asks the session for what its operation says. -/
theorem runIn_runLine {state : State} {line : Line} {operation : Operation} {args : List Reply}
    (hPrepare : prepare state.bindings line = .ok (operation, args)) :
    Attempt.runIn s w (runLine session state line) =
      match Attempt.runIn s w (perform session operation args) with
      | (.ok value, w) => (.ok (state.after line value), w)
      | (.error fault, w) => (.error fault, w) := by
  rw [runLine, hPrepare, Attempt.runIn_bind]
  simp only [Except.mapError, Attempt.runIn_ofExcept, Attempt.runIn_bind]
  rcases Attempt.runIn s w (perform session operation args) with ⟨fault | value, after⟩ <;> rfl

/-- Lines are run one by one, until one raises. -/
theorem runIn_runLines_cons (state : State) (line : Line) (rest : List Line) :
    Outside.runIn s w (runLines session state (line :: rest)) =
      match Attempt.runIn s w (runLine session state line) with
      | (.ok next, w) => Outside.runIn s w (runLines session next rest)
      | (.error fault, w) => ((.error fault, state), w) := by
  rw [runLines, Outside.runIn_bind]
  show _ = match Outside.runIn s w (runLine session state line).run with
    | (.ok next, w) => Outside.runIn s w (runLines session next rest)
    | (.error fault, w) => ((.error fault, state), w)
  rcases Outside.runIn s w (runLine session state line).run with ⟨fault | next, after⟩ <;> rfl

end

/-- A line that binds its result binds it anew. -/
theorem State.get?_after {state : State} {line : Line} {name : String}
    (hName : line.boundName = some name) (value : Reply) :
    (state.after line value).bindings.get? name = some value := by
  simp [State.after, hName, Assoc.get?_put]

def assertion (operation : String) (args : List Arg) (name expected : String) : List Line := [
  ⟨1, operation, args, some name⟩,
  ⟨2, "expect_contains", [.ref name, .word expected], none⟩]

/-- What came of asking has a text in it. -/
def AnswersWith (expected : String) (outcome : Except Fault Json) : Prop :=
  ∃ v, outcome = .ok v ∧ expected.toList <:+: (Reply.data v).text.toList

/-- The expectation is about the answer, also when its name was bound before. -/
theorem runIn_runLines_assertion (s : Surroundings) (w : World) (session : Session)
    (state : State) {word : String} {args : List Arg} {name expected : String}
    {operation : Operation} {replies : List Reply} {ask : Attempt Json} (hName : name ≠ "")
    (hPrepare : prepare state.bindings ⟨1, word, args, some name⟩ = .ok (operation, replies))
    (hAsk : perform session operation replies = do return .data (← ask)) :
    ∃ outcome last, Outside.runIn s w (runLines session state (assertion word args name expected)) =
        ((outcome, last), (Attempt.runIn s w ask).2) ∧
      (outcome.isOk = true ↔ AnswersWith expected (Attempt.runIn s w ask).1) := by
  rw [assertion, runIn_runLines_cons, runIn_runLine s w session hPrepare, hAsk, Attempt.runIn_bind]
  rcases Attempt.runIn s w ask with ⟨fault | v, after⟩
  · exact ⟨.error fault, _, rfl, by simp [AnswersWith, Except.isOk, Except.toBool]⟩
  · have hBound : (state.after ⟨1, word, args, some name⟩ (.data v)).bindings.get? name =
        some (.data v) := by
      refine State.get?_after ?_ _
      simp [Line.boundName, Option.filter, hName]
    have hExpect : prepare (state.after ⟨1, word, args, some name⟩ (.data v)).bindings
        ⟨2, "expect_contains", [.ref name, .word expected], none⟩ =
          .ok (.expectContains, [.data v, .ofText expected]) := by
      simp [prepare, Operation.ofName?, Operation.arity, resolveAll, resolve, hBound, bind,
        Except.bind, pure, Except.pure]
    dsimp only [Attempt.runIn_pure]
    rw [runIn_runLines_cons, runIn_runLine _ _ _ hExpect, perform]
    have hPart : (Reply.ofText expected).text = expected := rfl
    rw [hPart]
    by_cases hFound : contains (Reply.data v).text expected = true
    · rw [if_pos hFound]
      refine ⟨.ok (), _, rfl, ?_⟩
      simpa [AnswersWith, Except.isOk, Except.toBool] using contains_iff.mp hFound
    · rw [if_neg hFound]
      refine ⟨.error _, _, rfl, ?_⟩
      simpa [AnswersWith, Except.isOk, Except.toBool] using mt contains_iff.mpr hFound

/-- Running a script that can be read is running its lines. -/
theorem runIn_run_of_read (s : Surroundings) (w : World) (session : Session)
    (values : Assoc String) {source : String} {lines : List Line}
    (hRead : read source = .ok lines) :
    Outside.runIn s w (run session values source) =
      let ((outcome, last), after) :=
        Outside.runIn s w (runLines session { bindings := values.mapValues Reply.ofText } lines)
      ((outcome.map fun () => last.result, last.bindings), after) := by
  rw [run, hRead]
  rfl

/-! The scripts of the builtin assertions. -/

/-- A template whose slots have values without line breaks is read as what it means. -/
theorem read_filled {template : String} {form : List TemplateLine} {value? : String → Option String}
    {value : String → String} (hForm : lines template.toList = form.map (·.source))
    (hSlots : ∀ l ∈ form, ∀ name ∈ l.slots,
      value? name = some (value name) ∧ Text.Unbroken (value name).toList) :
    read (Template.renderQuoted template value?) =
      .ok (form.mapIdx fun i l => l.meaning value (1 + i)) := by
  rw [read, toList_renderQuoted]
  exact readLines_filledText (lines_eq_iff.mp hForm)
    (fun l hl name hName => (hSlots l hl name hName).1)
    (fun l hl name hName => (hSlots l hl name hName).2) 1

/-- Both texts of a check stay what they are, whatever stands in them. -/
theorem read_checkContains {value? : String → Option String} {element expected : String}
    (hElement : value? "element" = some element) (hExpected : value? "expected" = some expected)
    (hElementLine : Text.Unbroken element.toList) (hExpectedLine : Text.Unbroken expected.toList) :
    read (Template.renderQuoted BuiltinRules.checkContains value?) =
      .ok (assertion "extract" [.word element] "actual" expected) := by
  let value (name : String) := if name = "element" then element else expected
  have hSlots : ∀ l ∈ checkContainsForm, ∀ name ∈ l.slots,
      value? name = some (value name) ∧ Text.Unbroken (value name).toList := by
    have hNames : ∀ l ∈ checkContainsForm, ∀ name ∈ l.slots,
        name = "element" ∨ name = "expected" := by decide +kernel
    intro l hl name hName
    rcases hNames l hl name hName with rfl | rfl
    · exact ⟨hElement, hElementLine⟩
    · exact ⟨hExpected, hExpectedLine⟩
  exact read_filled lines_checkContains hSlots

/-- The template for titles gives an assertion about the title with the expected text. -/
theorem read_assertTitle {value? : String → Option String} {expected : String}
    (hExpected : value? "text" = some expected) (hExpectedLine : Text.Unbroken expected.toList) :
    read (Template.renderQuoted BuiltinRules.assertTitle value?) =
      .ok (assertion "title" [] "current" expected) := by
  have hSlots : ∀ l ∈ assertTitleForm, ∀ name ∈ l.slots,
      value? name = some expected ∧ Text.Unbroken expected.toList := by
    have hNames : ∀ l ∈ assertTitleForm, ∀ name ∈ l.slots, name = "text" := by decide +kernel
    intro l hl name hName
    rw [hNames l hl name hName]
    exact ⟨hExpected, hExpectedLine⟩
  exact read_filled lines_assertTitle hSlots

end Script

/-- The kind, the engine and the script of a descriptor are those that a rule gives it. -/
structure Descriptor.OfRule (d : Descriptor) (rule : Rule) : Prop where
  kind : d.kind = .ofName rule.kind
  engine : d.engine = rule.engine
  script : d.script = Interpretation.scriptOf rule d.params d.captured d.wording d.resolved

def Rule.IsBuiltin (rule : Rule) (name : String) : Prop :=
  ∃ entry ∈ BuiltinRules.table, ∃ d ∈ entry.2, d.name = name ∧ rule.kind = entry.1 ∧ rule.IsOf d

/-- The builtin assertions are rules with a script, and of kinds that run it. -/
theorem table_assertions : ∀ entry ∈ BuiltinRules.table, ∀ d ∈ entry.2,
    ((d.name = "check_contains" ∨ d.name = "verify_display") →
      ActionKind.ofName entry.1 = .act ∧ d.engine = none ∧
        d.template = some BuiltinRules.checkContains) ∧
    (d.name = "assert_title" →
      ActionKind.ofName entry.1 = .template ∧ d.engine = none ∧
        d.template = some BuiltinRules.assertTitle) := by
  decide +kernel

namespace Dispatch

variable (s : Surroundings) (w : World) (config : Config) (h : History) (session : Session)
  (workflow : String) (context : Context)

/-- A step with a script runs the script, with the values of its placeholders bound. -/
theorem runIn_act_of_script {d : Descriptor} {source : String} (hEngine : d.engine = .rules)
    (hScript : d.script = some source) (hFilled : source ≠ "")
    {outcome : Except Fault Script.Result} {bindings : Assoc Reply} {after : World}
    (hRun : Outside.runIn s w (Script.run session d.captured source) =
      ((outcome, bindings), after)) :
    Attempt.runIn s w (act config d session) =
      (outcome.map fun result => .scripted d.kind d.ruleName result, after) := by
  have hKept : d.script.filter (· != "") = some source := by simp [hScript, Option.filter, hFilled]
  rw [act, hKept, hEngine]
  dsimp only
  rw [Attempt.runIn_bind, Attempt.runIn_lift, hRun]
  dsimp only
  rw [Attempt.runIn_bind, Attempt.runIn_ofExcept]
  cases outcome <;> rfl

/-- Kinds whose steps are carried out by their scripts. -/
def scriptedKinds : List ActionKind := [.act, .template]

/-- A step with a script is performed by its act. -/
theorem perform_of_scripted {d : Descriptor} (hKind : d.kind ∈ scriptedKinds) :
    perform config h d session context = handleWith h (act config d session) := by
  rw [perform]
  rcases List.mem_cons.mp hKind with hKind | hKind
  · rw [hKind]
  · rw [List.mem_singleton.mp hKind]

/-- A step whose script is an assertion makes the call of the assertion, and nothing else. -/
theorem runIn_execute_assertion {d : Descriptor} (hValid : d.isValid = true)
    (hKind : d.kind ∈ scriptedKinds) (hEngine : d.engine = .rules) {source : String}
    (hScript : d.script = some source) {word name expected : String} {args : List Script.Arg}
    (hRead : Script.read source = .ok (Script.assertion word args name expected))
    (hName : name ≠ "")
    {operation : Script.Operation} {replies : List Reply}
    (hPrepare : ∀ bindings,
      Script.prepare bindings ⟨1, word, args, some name⟩ = .ok (operation, replies))
    {ask : Attempt Json}
    (hAsk : Script.perform session operation replies = do return .data (← ask)) :
    let asked := Attempt.runIn s { w with ids := w.ids + 1 } ask
    let ended := Outside.runIn s w (execute config h d session workflow context)
    ended.2 = asked.2 ∧ (ended.1.1.success = true ↔ Script.AnswersWith expected asked.1) := by
  have hFilled : source ≠ "" := by
    rintro rfl
    cases hRead
  obtain ⟨outcome, last, hLines, hAnswers⟩ := Script.runIn_runLines_assertion s
    { w with ids := w.ids + 1 } session ⟨d.captured.mapValues Reply.ofText, {}⟩ hName
    (hPrepare _) hAsk
  have hRun := Script.runIn_run_of_read s { w with ids := w.ids + 1 } session d.captured hRead
  rw [hLines] at hRun
  have hAct := runIn_act_of_script s _ config session hEngine hScript hFilled hRun
  have hPerform := runIn_handleWith s _ h hAct
  rw [← perform_of_scripted config h session context hKind] at hPerform
  rw [runIn_execute_of_isValid s w config h d session workflow context hValid hPerform]
  refine ⟨rfl, ?_⟩
  rw [success_recordOf, ← hAnswers]
  cases outcome <;> rfl

/-- A descriptor of a rule with a template runs the template with the parameters in it. -/
theorem script_of_rule {d : Descriptor} {rule : Rule} {definition : RuleDefinition}
    {template : String} (hRule : d.OfRule rule) (hOf : rule.IsOf definition)
    (hEngine : definition.engine = none) (hTemplate : definition.template = some template)
    (hFilled : template ≠ "") :
    d.engine = .rules ∧ d.script = some (Template.renderQuoted template
      (Interpretation.templateValue? d.params d.captured d.wording d.resolved)) := by
  have hRules : rule.engine = .rules := by
    have hKnown := hOf.engine
    simp only [Rule.engineOf, hEngine, Option.some.injEq] at hKnown
    exact hKnown.symm
  refine ⟨hRule.engine.trans hRules, ?_⟩
  rw [hRule.script, Interpretation.scriptOf, hRules, hOf.template, hTemplate]
  simp [hFilled]

/-- What a parameter gives goes before all else that a slot may be filled with. -/
theorem value_of_param {d : Descriptor} {name value : String} (hParam : d.param? name = some value)
    (captured : Assoc String) (wording resolved : String) :
    Interpretation.templateValue? d.params captured wording resolved name = some value := by
  have hGet : d.params.get? name = some value := hParam
  simp [Interpretation.templateValue?, hGet]

/-- A check of an element asks for the data of the element. -/
theorem runIn_execute_check {d : Descriptor} {rule : Rule} (hValid : d.isValid = true)
    (hRule : d.OfRule rule)
    (hBuiltin : rule.IsBuiltin "check_contains" ∨ rule.IsBuiltin "verify_display")
    {element expected : String} (hElement : d.param? "element" = some element)
    (hExpected : d.param? "expected" = some expected)
    (hElementLine : Text.Unbroken element.toList) (hExpectedLine : Text.Unbroken expected.toList) :
    let asked :=
      Attempt.runIn s { w with ids := w.ids + 1 } (session.extract element (.ofText "auto"))
    let ended := Outside.runIn s w (execute config h d session workflow context)
    ended.2 = asked.2 ∧ (ended.1.1.success = true ↔ Script.AnswersWith expected asked.1) := by
  obtain ⟨entry, hEntry, definition, hMem, hName, hKind, hOf⟩ :
      ∃ entry ∈ BuiltinRules.table, ∃ d ∈ entry.2,
        (d.name = "check_contains" ∨ d.name = "verify_display") ∧ rule.kind = entry.1 ∧
          rule.IsOf d := by
    rcases hBuiltin with
      ⟨entry, hEntry, d, hMem, hName, hRest⟩ | ⟨entry, hEntry, d, hMem, hName, hRest⟩
    · exact ⟨entry, hEntry, d, hMem, .inl hName, hRest⟩
    · exact ⟨entry, hEntry, d, hMem, .inr hName, hRest⟩
  obtain ⟨hAct, hNoEngine, hTemplate⟩ := (table_assertions entry hEntry definition hMem).1 hName
  obtain ⟨hEngine, hScript⟩ := script_of_rule hRule hOf hNoEngine hTemplate (by decide)
  have hScripted : d.kind ∈ scriptedKinds := by
    rw [hRule.kind, hKind, hAct]
    decide
  have hRead := Script.read_checkContains
    (value_of_param hElement d.captured d.wording d.resolved)
    (value_of_param hExpected d.captured d.wording d.resolved) hElementLine hExpectedLine
  exact runIn_execute_assertion s w config h session workflow context hValid hScripted hEngine
    hScript hRead (by decide) (fun _ => rfl) rfl

/-- A check of the title asks for the title. -/
theorem runIn_execute_titleCheck {d : Descriptor} {rule : Rule} (hValid : d.isValid = true)
    (hRule : d.OfRule rule) (hBuiltin : rule.IsBuiltin "assert_title") {expected : String}
    (hExpected : d.param? "text" = some expected) (hExpectedLine : Text.Unbroken expected.toList) :
    let asked := Attempt.runIn s { w with ids := w.ids + 1 } session.title
    let ended := Outside.runIn s w (execute config h d session workflow context)
    ended.2 = asked.2 ∧ (ended.1.1.success = true ↔ Script.AnswersWith expected asked.1) := by
  obtain ⟨entry, hEntry, definition, hMem, hName, hKind, hOf⟩ := hBuiltin
  obtain ⟨hTemplateKind, hNoEngine, hTemplate⟩ :=
    (table_assertions entry hEntry definition hMem).2 hName
  obtain ⟨hEngine, hScript⟩ := script_of_rule hRule hOf hNoEngine hTemplate (by decide)
  have hScripted : d.kind ∈ scriptedKinds := by
    rw [hRule.kind, hKind, hTemplateKind]
    decide
  have hRead := Script.read_assertTitle
    (value_of_param hExpected d.captured d.wording d.resolved) hExpectedLine
  exact runIn_execute_assertion s w config h session workflow context hValid hScripted hEngine
    hScript hRead (by decide) (fun _ => rfl) rfl

/-- The steps of the builtin assertions make one call, and succeed if and only if the answer to it
has the expected text in it. -/
theorem execute_assertion {d : Descriptor} {rule : Rule} (hValid : d.isValid = true)
    (hRule : d.OfRule rule) :
    let ended := Outside.runIn s w (execute config h d .given workflow context)
    (rule.IsBuiltin "check_contains" ∨ rule.IsBuiltin "verify_display" → ∀ element expected,
      d.param? "element" = some element → d.param? "expected" = some expected →
      Text.Unbroken element.toList → Text.Unbroken expected.toList →
        let call := Call.session (.extract element (.ofText "auto"))
        ended.2.calls = w.calls ++ [call] ∧
          (ended.1.1.success = true ↔
            Script.AnswersWith expected (s.respond w.calls call).outcome)) ∧
    (rule.IsBuiltin "assert_title" → ∀ expected, d.param? "text" = some expected →
      Text.Unbroken expected.toList →
        let call := Call.session .title
        ended.2.calls = w.calls ++ [call] ∧
          (ended.1.1.success = true ↔
            Script.AnswersWith expected (s.respond w.calls call).outcome)) := by
  refine ⟨fun hBuiltin element expected hElement hExpected hElementLine hExpectedLine => ?_, ?_⟩
  · obtain ⟨hAfter, hSuccess⟩ := runIn_execute_check s w config h .given workflow context hValid
      hRule hBuiltin hElement hExpected hElementLine hExpectedLine
    exact ⟨congrArg World.calls hAfter, hSuccess⟩
  · intro hBuiltin expected hExpected hExpectedLine
    obtain ⟨hAfter, hSuccess⟩ := runIn_execute_titleCheck s w config h .given workflow context
      hValid hRule hBuiltin hExpected hExpectedLine
    exact ⟨congrArg World.calls hAfter, hSuccess⟩

/-- A check of an amount, with a placeholder of the name under which the answer is bound. -/
def amountCheck : Descriptor where
  kind := .act
  wording := "check the amount"
  resolved := "check the amount"
  params := [("element", "it's -> here"), ("expected", "$x\": 5")]
  captured := [("actual", "nothing")]
  ruleName := some "check_contains"
  engine := .rules
  script := some (Template.renderQuoted BuiltinRules.checkContains
    (Interpretation.templateValue? [("element", "it's -> here"), ("expected", "$x\": 5")]
      [("actual", "nothing")] "check the amount" "check the amount"))

def amountShown : Surroundings where
  respond _ _ := { outcome := .ok (.obj [("$x", .int 5)]) }

/-- The answer is no string, and the expected text is found in the way it is written. -/
theorem execute_assertion_amount : ∃ rule : Rule, rule.IsBuiltin "check_contains" ∧
    amountCheck.OfRule rule ∧ amountCheck.isValid = true ∧
      let ended := Outside.runIn amountShown {}
        (execute {} (.start "out" false) amountCheck .given "shop" {})
      ended.2.calls = [.session (.extract "it's -> here" (.ofText "auto"))] ∧
        ended.1.1.success = true := by
  obtain ⟨entry, hEntry, d, hMem, hName, hRead, hKind, hTemplate, hEngine⟩ :
      ∃ entry ∈ BuiltinRules.table, ∃ d ∈ entry.2, d.name = "check_contains" ∧
        (Rule.compileMatcher d.pattern).toOption.isSome = true ∧ entry.1 = "act" ∧
          d.template = some BuiltinRules.checkContains ∧ d.engine = none := by
    decide +kernel
  obtain ⟨pattern, hPattern⟩ := isSome_toOption_iff.mp hRead
  let rule : Rule := {
    name := d.name, kind := entry.1, pattern, groups := d.groups, priority := d.priority
    description := d.description, template := d.template }
  have hOf : rule.IsOf d :=
    ⟨hPattern, by simp [Rule.engineOf, hEngine, rule], rfl, rfl, rfl, rfl, rfl⟩
  have hBuiltin : rule.IsBuiltin "check_contains" := ⟨entry, hEntry, d, hMem, hName, rfl, hOf⟩
  have hRule : amountCheck.OfRule rule := by
    refine ⟨by rw [show rule.kind = "act" from hKind]; rfl, rfl, ?_⟩
    rw [Interpretation.scriptOf, show rule.template = _ from hTemplate]
    rfl
  have hValid : amountCheck.isValid = true := by decide +kernel
  have hFound : "$x\": 5".toList <:+: (Reply.data (.obj [("$x", .int 5)])).text.toList :=
    contains_iff.mp (by decide +kernel)
  obtain ⟨hCalls, hSuccess⟩ := (execute_assertion amountShown {} {} (.start "out" false) "shop"
    {} hValid hRule).1 (.inl hBuiltin) "it's -> here" "$x\": 5" rfl rfl (by decide) (by decide)
  exact ⟨rule, hBuiltin, hRule, hValid, hCalls, hSuccess.mpr ⟨_, rfl, hFound⟩⟩

end Dispatch

end ScenarioRunner
