import ScenarioRunner.Proofs.Placeholder
import ScenarioRunner.Proofs.Rule.Document
import ScenarioRunner.Template

/-! Steps that check an element. They are worded as an opening, the element, a keyword and the
expected text, with blanks between them. Of the builtin rules only the one for their wording reads
them, and it takes the element and the expected text out of them as they stand, also where these
hold parts of the keyword or where the expected text holds all of it. -/
namespace ScenarioRunner

open Regex

/-- A text of one line, with something in it and no blanks at its ends. -/
structure IsPhrase (s : String) : Prop where
  nonempty : s ≠ ""
  trimmed : trimmed s = s
  line : '\n' ∉ s.toList

namespace IsPhrase

variable {s : String} (hPhrase : IsPhrase s)

include hPhrase

theorem trim_toList : Text.trim s.toList = s.toList := by
  have hTrimmed := congrArg String.toList hPhrase.trimmed
  rwa [ScenarioRunner.trimmed, String.toList_ofList] at hTrimmed

theorem toList_ne_nil : s.toList ≠ [] := by
  simpa using hPhrase.nonempty

/-- No blank comes first. -/
theorem isBlank_head (rest : List Char) :
    ∀ c ∈ (s.toList ++ rest).head?, Text.isBlank c = false := by
  intro c hc
  rw [List.head?_append_of_ne_nil _ hPhrase.toList_ne_nil] at hc
  exact Text.isBlank_head_of_trim hPhrase.trim_toList c hc

/-- No end of it is blank. -/
theorem not_isBlank_end {before after : List Char} (hSplit : s.toList = before ++ after)
    (hSome : after ≠ []) : ¬ ∀ c ∈ after, Text.isBlank c = true := by
  intro hAll
  have hLast : s.toList.getLast? = some (after.getLast hSome) := by
    rw [hSplit, List.getLast?_append_of_ne_nil _ hSome, List.getLast?_eq_some_getLast hSome]
  have hNot := (Text.trim_eq_self_iff.mp hPhrase.trim_toList).2 _ hLast
  rw [hAll _ (List.getLast_mem hSome)] at hNot
  cases hNot

/-- All of it is on one line. -/
theorem holds_lineSet : ∀ x ∈ s.toList, lineSet.holds x = true := by
  intro x hMem
  rw [Regex.holds_lineSet, bne_iff_ne]
  rintro rfl
  exact hPhrase.line hMem

end IsPhrase

/-! What the rules for checks read. -/

namespace Regex

def expectedNodes : List Node :=
  [.many 0 blankSet, .group 2 (.many 1 lineSet), .anchor .lastLineEnd]

def keywordNodes (keyword : List Char) : List Node :=
  .many 0 blankSet :: (keyword.map .letter ++ expectedNodes)

def checkNodes (opening keyword : List Char) : List Node :=
  .anchor .textStart :: (opening.map .letter ++
    .many 0 blankSet :: .group 1 (.few lineSet) :: keywordNodes keyword)

section

variable {element expected : String} {opening keyword rest : List Char} {c : Cursor}

/-- The nodes of the expected text take the rest of the step. -/
theorem run_expectedNodes (hExpected : IsPhrase expected)
    (hAfter : c.after = ' ' :: expected.toList) :
    (Node.ofList expectedNodes).run c some =
      some ((c.past (' ' :: expected.toList) []).holding 2 expected.toList) := by
  obtain ⟨x, l, hText⟩ := List.exists_cons_of_ne_nil hExpected.toList_ne_nil
  have hLine := hExpected.holds_lineSet
  have hHead := hExpected.isBlank_head []
  rw [List.append_nil] at hHead
  rw [hText] at hAfter hLine hHead ⊢
  obtain ⟨hFirst, hLine⟩ := List.forall_mem_cons.mp hLine
  have hBehind : (c.past [' '] (x :: l)).after = x :: l ++ [] := (List.append_nil _).symm
  rw [expectedNodes, run_ofList_cons]
  refine run_many (l := [' ']) hAfter (by simp) (by simpa using hHead) ?_
  rw [run_ofList_cons, run_group]
  refine run_many_one hBehind hFirst hLine (by simp) ?_
  rw [Cursor.take_past hBehind, Cursor.past_past]
  rfl

/-- Behind the element the keyword comes next. -/
theorem run_keywordNodes (hExpected : IsPhrase expected) (hKeyword : keyword ≠ [])
    (hBare : ∀ x ∈ keyword, Text.isBlank x = false)
    (hAfter : c.after = ' ' :: (keyword ++ ' ' :: expected.toList)) :
    (Node.ofList (keywordNodes keyword)).run c some =
      some ((c.past (' ' :: (keyword ++ ' ' :: expected.toList)) []).holding 2
        expected.toList) := by
  have hHead : ∀ x ∈ (keyword ++ ' ' :: expected.toList).head?, blankSet.holds x = false := by
    obtain ⟨y, word, rfl⟩ := List.exists_cons_of_ne_nil hKeyword
    simpa using hBare y
  rw [keywordNodes, run_ofList_cons]
  refine run_many (l := [' ']) hAfter (by simp) hHead ?_
  rw [run_ofList_append, run_letters rfl, run_expectedNodes hExpected rfl, Cursor.past_past,
    Cursor.past_past]
  simp

/-- Inside of the element it does not. -/
theorem run_keywordNodes_of_end (hElement : IsPhrase element) {before after : List Char}
    (hSplit : element.toList = before ++ after) (hSome : after ≠ [])
    (hBare : ∀ x ∈ keyword, Text.isBlank x = false) (hFirst : ¬ keyword <:+: element.toList)
    (hAfter : c.after = after ++ ' ' :: rest) :
    (Node.ofList (keywordNodes keyword)).run c some = none := by
  rw [Option.eq_none_iff_forall_ne_some]
  intro d hRun
  rw [keywordNodes, run_ofList_cons] at hRun
  obtain ⟨blanks, behind, hBlanks, hAll, hRun⟩ := exists_of_run_many hRun
  rw [run_ofList_append] at hRun
  have hPrefix : keyword <+: behind := prefix_of_run_letters hRun
  rw [hAfter] at hBlanks
  rcases List.append_eq_append_iff.mp hBlanks with ⟨more, hMore, hRest⟩ | ⟨left, hLeft, hRest⟩
  · -- the blanks would reach over the end of the element
    refine hElement.not_isBlank_end hSplit hSome fun x hMem => ?_
    have hHolds := hAll x (hMore ▸ List.mem_append_left _ hMem)
    rwa [holds_blankSet] at hHolds
  · -- the keyword would have to end before the blank, in the element
    have hNoBlank : ' ' ∉ keyword := fun hMem => by simpa using hBare ' ' hMem
    rw [hRest, SlotMark.prefix_append_cons_iff hNoBlank] at hPrefix
    refine hFirst (hPrefix.isInfix.trans ?_)
    rw [hSplit, hLeft]
    exact ⟨before ++ blanks, [], by simp⟩

/-- A check is read as it is worded. -/
theorem run_checkNodes (hElement : IsPhrase element) (hExpected : IsPhrase expected)
    (hKeyword : keyword ≠ []) (hBare : ∀ x ∈ keyword, Text.isBlank x = false)
    (hFirst : ¬ keyword <:+: element.toList) (hStart : c.before = [])
    (hAfter : c.after =
      opening ++ ' ' :: (element.toList ++ ' ' :: (keyword ++ ' ' :: expected.toList))) :
    (Node.ofList (checkNodes opening keyword)).run c some =
      some ((((c.past (opening ++ ' ' :: element.toList)
          (' ' :: (keyword ++ ' ' :: expected.toList))).holding 1 element.toList).past
        (' ' :: (keyword ++ ' ' :: expected.toList)) []).holding 2 expected.toList) := by
  have hAnchor : Anchor.holds c .textStart = true := by simp [Anchor.holds, hStart]
  have hHead := hElement.isBlank_head (' ' :: (keyword ++ ' ' :: expected.toList))
  rw [checkNodes, run_ofList_cons, Node.run, if_pos hAnchor, run_ofList_append, run_letters hAfter,
    run_ofList_cons]
  refine run_many (l := [' ']) rfl (by simp) (by simpa using hHead) ?_
  rw [run_ofList_cons, run_group]
  refine run_few rfl hElement.toList_ne_nil hElement.holds_lineSet ?_ ?_
  · intro l₁ x l₂ _ hSplit
    exact run_keywordNodes_of_end hElement hSplit (by simp) hBare hFirst rfl
  · rw [Cursor.take_past rfl, run_keywordNodes hExpected hKeyword hBare rfl, Cursor.past_past,
      Cursor.past_past]
    simp

/-- Of one blank before a text that starts with none, no more can be read than that one. -/
theorem eq_of_blank_cons {s blanks behind : List Char}
    (hHead : ∀ x ∈ s.head?, Text.isBlank x = false) (hSplit : blanks ++ behind = ' ' :: s)
    (hAll : ∀ x ∈ blanks, blankSet.holds x = true) :
    behind = ' ' :: s ∨ behind = s := by
  cases blanks with
  | nil => exact .inl hSplit
  | cons x blanks =>
      obtain ⟨rfl, hRest⟩ := List.cons.inj hSplit
      cases blanks with
      | nil => exact .inr hRest
      | cons y blanks =>
          have hHolds := hAll y (by simp)
          rw [holds_blankSet, hHead y (by rw [← hRest]; rfl)] at hHolds
          cases hHolds

/-- What looks ahead for the keyword on the line finds it. -/
theorem run_ahead (line : List Char) (hLine : ∀ x ∈ line, lineSet.holds x = true)
    (hAfter : c.after = line ++ (keyword ++ rest)) (k : Rest) :
    (Node.ahead true (.ofList (.many 0 lineSet :: keyword.map .letter))).run c k = none := by
  have hFound : ((Node.ofList (.many 0 lineSet :: keyword.map .letter)).run c some).isSome =
      true := by
    rw [run_ofList_cons]
    refine isSome_run_many hAfter hLine ?_
    rw [run_letters rfl]
    rfl
  obtain ⟨d, hFound⟩ := Option.isSome_iff_exists.mp hFound
  rw [Node.run, hFound]
  rfl

/-- An expression that looks ahead for the keyword reads no check with it, whether or not it has
read the blank behind its opening. -/
theorem run_of_ahead (hElement : IsPhrase element) {more : List Node} {k : Rest}
    (hAfter : c.after = opening ++ ' ' :: (element.toList ++ ' ' :: (keyword ++ rest))) :
    (Node.ofList (.anchor .textStart :: (opening.map .letter ++ .many 0 blankSet ::
      .ahead true (.ofList (.many 0 lineSet :: keyword.map .letter)) :: more))).run c k = none := by
  have hText := hElement.holds_lineSet
  have hBlank : lineSet.holds ' ' = true := by simp
  rw [run_ofList_cons, Node.run]
  split
  swap
  · rfl
  rw [run_ofList_append, run_letters hAfter, run_ofList_cons, Option.eq_none_iff_forall_ne_some]
  intro d hRun
  obtain ⟨blanks, behind, hBlanks, hAll, hRun⟩ := exists_of_run_many hRun
  rw [run_ofList_cons] at hRun
  rcases eq_of_blank_cons (hElement.isBlank_head _) hBlanks.symm hAll with rfl | rfl
  · rw [run_ahead (' ' :: (element.toList ++ [' ']))
      (List.forall_mem_cons.mpr ⟨hBlank, List.forall_mem_append.mpr ⟨hText, by simp⟩⟩)
      (show _ = _ ++ (keyword ++ rest) by simp [Cursor.past])] at hRun
    cases hRun
  · rw [run_ahead (element.toList ++ [' '])
      (List.forall_mem_append.mpr ⟨hText, by simp⟩)
      (show _ = _ ++ (keyword ++ rest) by simp [Cursor.past])] at hRun
    cases hRun

end

end Regex

/-! The two forms of checks. -/

/-- A way to word the check of an element, and what the rule for it says of itself. -/
structure CheckForm where
  opening : String
  keyword : String
  name : String
  description : String
  source : String

namespace CheckForm

def contains : CheckForm where
  opening := "检查"
  keyword := "是否包含"
  name := "check_contains"
  description := "检查元素是否包含文本"
  source := "^检查\\s*(.+?)\\s*是否包含\\s*(.+)$"

def shows : CheckForm where
  opening := "验证"
  keyword := "显示"
  name := "verify_display"
  description := "验证元素显示内容"
  source := "^验证\\s*(.+?)\\s*显示\\s*(.+)$"

def forms : List CheckForm := [contains, shows]

theorem toList_opening_contains : contains.opening.toList = ['检', '查'] := String.toList_ofList

theorem toList_keyword_contains : contains.keyword.toList = ['是', '否', '包', '含'] :=
  String.toList_ofList

theorem toList_opening_shows : shows.opening.toList = ['验', '证'] := String.toList_ofList

variable (form : CheckForm) (element expected : String)

def step : String := form.opening ++ " " ++ element ++ " " ++ form.keyword ++ " " ++ expected

def definition : RuleDefinition where
  name := form.name
  pattern := form.source
  groups := ["element", "expected"]
  priority := 100
  description := form.description
  template := some BuiltinRules.checkContains

/-- The script of a check, with both texts as single words. -/
def script : String :=
  "extract " ++ Template.word element ++ " -> actual\nexpect_contains $actual " ++
    Template.word expected ++ "\n"

def descriptor : Descriptor where
  kind := .act
  wording := form.step element expected
  resolved := form.step element expected
  params := [("element", element), ("expected", expected)]
  ruleName := some form.name
  ruleDescription := some form.description
  ruleSource := some form.source
  priority := 100
  engine := .rules
  script := some (script element expected)

variable {form element expected}

/-- A step is worded as opening, element, keyword and expected text. -/
theorem toList_step : (form.step element expected).toList =
    form.opening.toList ++
      ' ' :: (element.toList ++ ' ' :: (form.keyword.toList ++ ' ' :: expected.toList)) := by
  simp [step, String.toList_append]

/-- What the rules for checks need of their words. -/
structure IsWorded (form : CheckForm) : Prop where
  mem : form.definition ∈ BuiltinRules.actRules
  pattern : Rule.compileMatcher form.source =
    .ok ⟨form.source, 2, .ofList (checkNodes form.opening.toList form.keyword.toList)⟩
  keyword : form.keyword.toList ≠ []
  bare : ∀ c ∈ form.keyword.toList, Text.isBlank c = false
  opening : ∀ c ∈ form.opening.toList.head?, Text.isBlank c = false
  opened : form.opening.toList ≠ []

/-- Each form is worded by its opening and keyword. -/
theorem isWorded (hForm : form ∈ forms) : form.IsWorded := by
  -- the quantifiers over characters are written so that they are decided along the lists
  have hWords : ∀ form ∈ forms, form.keyword.toList ≠ [] ∧
      form.keyword.toList.all (fun c => !Text.isBlank c) = true ∧
        form.opening.toList.head?.all (fun c => !Text.isBlank c) = true ∧
          form.opening.toList ≠ [] := by
    decide
  obtain ⟨hKeyword, hBare, hOpening, hOpened⟩ := hWords form hForm
  simp only [forms, List.mem_cons, List.not_mem_nil, or_false] at hForm
  have hDefinition : form.definition ∈ BuiltinRules.actRules := by
    rcases hForm with rfl | rfl
    · exact List.mem_of_getElem? (i := 4) rfl
    · exact List.mem_of_getElem? (i := 5) rfl
  refine ⟨hDefinition, ?_, hKeyword, by simpa using hBare,
    by simpa [Option.all_eq_true] using hOpening, hOpened⟩
  rcases hForm with rfl | rfl <;>
    exact Rule.compileMatcher_of_chars rfl (by decide +kernel) (by decide +kernel)

section

variable (hForm : form ∈ forms) (hElement : IsPhrase element) (hExpected : IsPhrase expected)

include hForm hExpected in
/-- A check stands in its step without blanks around it. -/
theorem trimmed_step : trimmed (form.step element expected) = form.step element expected := by
  have hWorded := isWorded hForm
  have hTrim : Text.trim (form.step element expected).toList =
      (form.step element expected).toList := by
    rw [Text.trim_eq_self_iff, toList_step]
    constructor
    · rw [List.head?_append_of_ne_nil _ hWorded.opened]
      exact hWorded.opening
    · have hLast := (Text.trim_eq_self_iff.mp hExpected.trim_toList).2
      obtain ⟨x, l, hText⟩ := List.exists_cons_of_ne_nil hExpected.toList_ne_nil
      rw [hText] at hLast ⊢
      simpa [List.getLast?_append, List.getLast?_cons] using hLast
  rw [trimmed, hTrim, String.ofList_toList]

include hForm hElement hExpected

/-- The rule for checks of this form takes the element and the expected text out of a step. -/
theorem exists_match (hFirst : ¬ form.keyword.toList <:+: element.toList) {p : Pattern}
    (hPattern : Rule.compileMatcher form.source = .ok p) :
    ∃ m, p.search (form.step element expected).toList = some m ∧
      m.group? 1 = some element.toList ∧ m.group? 2 = some expected.toList := by
  have hWorded := isWorded hForm
  obtain rfl := Except.ok.inj (hPattern.symm.trans hWorded.pattern)
  rw [toList_step]
  exact ⟨_, search_of_run (run_checkNodes hElement hExpected hWorded.keyword hWorded.bare hFirst
    rfl rfl), rfl, rfl⟩

omit hForm hExpected in
/-- The rule that looks for elements leaves checks with the keyword to the rule for them. -/
theorem search_checkElements {entry : String × List RuleDefinition}
    (hEntry : entry ∈ BuiltinRules.table) {d : RuleDefinition} (hMem : d ∈ entry.2)
    (hName : d.name = "check_elements") {p : Pattern}
    (hPattern : Rule.compileMatcher d.pattern = .ok p) :
    p.search (contains.step element expected).toList = none := by
  have hSource : ∀ entry ∈ BuiltinRules.table, ∀ d ∈ entry.2, d.name = "check_elements" →
      d.pattern = "^检查\\s*(?!.*是否包含)(.+?)(?:元素)?$" := by decide
  have hRead : Rule.compileMatcher "^检查\\s*(?!.*是否包含)(.+?)(?:元素)?$" = .ok
      ⟨"^检查\\s*(?!.*是否包含)(.+?)(?:元素)?$", 1, .ofList (.anchor .textStart ::
        (['检', '查'].map .letter ++ .many 0 blankSet ::
          .ahead true (.ofList (.many 0 lineSet :: ['是', '否', '包', '含'].map .letter)) ::
          [.group 1 (.few lineSet),
            .again .greedy 0 (some 1) (.ofList (['元', '素'].map .letter)),
            .anchor .lastLineEnd]))⟩ :=
    Rule.compileMatcher_of_chars rfl (by decide) (by decide)
  rw [hSource entry hEntry d hMem hName, hRead] at hPattern
  obtain rfl := Except.ok.inj hPattern
  refine search_of_opens rfl fun c hAfter => ?_
  rw [toList_step, toList_opening_contains, toList_keyword_contains] at hAfter
  exact run_of_ahead hElement hAfter

omit hExpected in
/-- No other builtin rule reads a step of this form. -/
theorem search_of_other {entry : String × List RuleDefinition} (hEntry : entry ∈ BuiltinRules.table)
    {d : RuleDefinition} (hMem : d ∈ entry.2) (hName : d.name ≠ form.name) {p : Pattern}
    (hPattern : Rule.compileMatcher d.pattern = .ok p) :
    p.search (form.step element expected).toList = none := by
  obtain ⟨p', hSame, hAdmits⟩ := BuiltinRules.exists_pattern_of_mem_table entry hEntry d hMem
  obtain rfl := Except.ok.inj (hSame.symm.trans hPattern)
  simp only [BuiltinRules.admitsAs, Bool.and_eq_true, Bool.or_eq_true, Bool.not_eq_true',
    beq_iff_eq] at hAdmits
  obtain ⟨⟨hOpens, hCheck⟩, hVerify⟩ := hAdmits
  simp only [forms, List.mem_cons, List.not_mem_nil, or_false] at hForm
  rcases hForm with rfl | rfl
  · rcases hCheck with (hCheck | hElements) | hSame
    · rw [toList_step, toList_opening_contains]
      exact search_of_not_admits hOpens hCheck ⟨_, rfl⟩
    · exact search_checkElements hElement hEntry hMem hElements hPattern
    · exact absurd hSame hName
  · rcases hVerify with hVerify | hSame
    · rw [toList_step, toList_opening_shows]
      exact search_of_not_admits hOpens hVerify ⟨_, rfl⟩
    · exact absurd hSame hName

omit hElement hExpected in
/-- The name of the rule is that of no other builtin rule. -/
theorem eq_of_name {kind : String} {ds : List RuleDefinition}
    (hEntry : (kind, ds) ∈ BuiltinRules.table) {d : RuleDefinition} (hMem : d ∈ ds)
    (hName : d.name = form.name) : kind = "act" ∧ d = form.definition := by
  have hNames : ∀ form ∈ forms, ∀ entry ∈ BuiltinRules.table, ∀ d ∈ entry.2, d.name = form.name →
      entry.1 = "act" ∧ d = form.definition := by decide
  exact hNames form hForm _ hEntry d hMem hName

/-- Of all builtin rules the one for checks of this form takes a step of this form. -/
theorem exists_firstMatch? {registry : Registry}
    (hBuild : Registry.build BuiltinRules.table [] = .ok registry)
    (hFirst : ¬ form.keyword.toList <:+: element.toList) :
    ∃ rule m, Interpretation.firstMatch? registry (form.step element expected) = some (rule, m) ∧
      rule.kind = "act" ∧ rule.builtin = true ∧ rule.IsOf form.definition ∧
      m.group? 1 = some element.toList ∧ m.group? 2 = some expected.toList := by
  cases hFind : Interpretation.firstMatch? registry (form.step element expected) with
  | none =>
      have hWorded := isWorded hForm
      have hDeclared : form.definition ∈ Registry.declared BuiltinRules.table [] "act" true :=
        hWorded.mem
      obtain ⟨rule, hRule, -, -, hOf⟩ :=
        Registry.exists_rule_of_declared hBuild hDeclared hWorded.pattern rfl
      obtain ⟨m, hSearch, -⟩ := exists_match hForm hElement hExpected hFirst hOf.pattern
      rw [Interpretation.firstMatch?, List.findSome?_eq_none_iff] at hFind
      have hNone := hFind rule hRule
      rw [hSearch] at hNone
      cases hNone
  | some found =>
      obtain ⟨rule, m⟩ := found
      obtain ⟨e, hTakes, rfl, hSearch⟩ := Registry.takesFirst_of_firstMatch? hBuild hFind
      obtain ⟨-, d, hAt, hOf⟩ := hTakes.1.1
      obtain ⟨ds, hEntry, hMem⟩ := Registry.mem_of_declared (List.mem_of_getElem? hAt)
      cases hBuiltin : e.rule.builtin with
      | false =>
          rw [hBuiltin] at hEntry
          cases hEntry
      | true =>
          rw [hBuiltin, if_pos rfl] at hEntry
          have hName : d.name = form.name := by
            by_contra hOther
            rw [search_of_other hForm hElement hEntry hMem hOther hOf.pattern] at hSearch
            cases hSearch
          obtain ⟨hKind, rfl⟩ := eq_of_name hForm hEntry hMem hName
          obtain ⟨m', hSame, hGroups⟩ := exists_match hForm hElement hExpected hFirst hOf.pattern
          obtain rfl := Option.some.inj (hSearch.symm.trans hSame)
          exact ⟨e.rule, m, rfl, hKind, hBuiltin, hOf, hGroups⟩

/-- The parameters are the two texts. -/
theorem paramsOf_check {rule : Rule} {m : Regex.Match} (hOf : rule.IsOf form.definition)
    (hFirst : m.group? 1 = some element.toList) (hSecond : m.group? 2 = some expected.toList) :
    Interpretation.paramsOf rule m = [("element", element), ("expected", expected)] := by
  have hPattern := Except.ok.inj (hOf.pattern.symm.trans (isWorded hForm).pattern)
  have hGroups : rule.groups.take rule.pattern.groups = ["element", "expected"] := by
    rw [hOf.groups, hPattern]
    rfl
  have hText {s : String} (hPhrase : IsPhrase s) {held : Option (List Char)}
      (hHeld : held = some s.toList) : String.ofList (Text.trim (held.getD [])) = s := by
    rw [hHeld, Option.getD_some, hPhrase.trim_toList, String.ofList_toList]
  rw [Interpretation.paramsOf, hGroups]
  simp only [List.mapIdx_cons, List.mapIdx_nil, Nat.zero_add, Nat.reduceAdd,
    hText hElement hFirst, hText hExpected hSecond]
  have hFilled : [("element", element), ("expected", expected)].filter
      (fun entry => entry.2 != "") = [("element", element), ("expected", expected)] := by
    simp [hElement.nonempty, hExpected.nonempty]
  rw [hFilled]
  exact Assoc.ofPairs_eq_self (by simp [Assoc.keys])

end

/-- The template for checks is filled in with both texts. -/
theorem renderQuoted_checkContains {element expected : String} {value? : String → Option String}
    (hElement : value? "element" = some element) (hExpected : value? "expected" = some expected) :
    Template.renderQuoted BuiltinRules.checkContains value? = script element expected := by
  have hPieces : Template.mark.pieces BuiltinRules.checkContains =
      "extract ".toList.map .plain ++ .slot "element" ::
        (" -> actual\nexpect_contains $actual ".toList.map .plain ++
          [.slot "expected", .plain '\n']) := by decide +kernel
  have hPlain (l : List Char) (value? : String → Option String) :
      (l.map .plain).flatMap (Template.mark.expand value?) = l := by
    rw [List.flatMap_map]
    exact List.flatMap_singleton' l
  rw [← String.toList_inj, Template.renderQuoted, Template.render, SlotMark.toList_fill,
    SlotMark.filled, ← SlotMark.pieces, hPieces]
  simp only [List.flatMap_append, List.flatMap_cons, hPlain]
  simp [script, SlotMark.expand, hElement, hExpected]

section

variable (hForm : form ∈ forms) (hElement : IsPhrase element) (hExpected : IsPhrase expected)

include hForm hElement hExpected

/-- What the rule for checks makes of a step. -/
theorem ofMatch_check {rule : Rule} {m : Regex.Match} (hKind : rule.kind = "act")
    (hBuiltin : rule.builtin = true) (hOf : rule.IsOf form.definition)
    (hFirst : m.group? 1 = some element.toList) (hSecond : m.group? 2 = some expected.toList) :
    Interpretation.ofMatch (form.step element expected) ⟨form.step element expected, [], []⟩
      rule m = form.descriptor element expected := by
  have hEngine : .rules = rule.engine := Option.some.inj hOf.engine
  have hSource : rule.source = form.source := by
    rw [Rule.source, Except.ok.inj (hOf.pattern.symm.trans (isWorded hForm).pattern)]
  have hParams : Interpretation.cleanParams rule (Interpretation.paramsOf rule m) =
      [("element", element), ("expected", expected)] := by
    rw [paramsOf_check hForm hElement hExpected hOf hFirst hSecond, Interpretation.cleanParams,
      hKind]
    rfl
  have hScript : Interpretation.scriptOf rule [("element", element), ("expected", expected)] []
      (form.step element expected) (form.step element expected) =
        some (script element expected) := by
    have hRendered : Template.renderQuoted BuiltinRules.checkContains
        (Interpretation.templateValue? [("element", element), ("expected", expected)] []
          (form.step element expected) (form.step element expected)) = script element expected :=
      renderQuoted_checkContains rfl rfl
    rw [Interpretation.scriptOf, ← hEngine, hOf.template]
    exact (if_neg (by decide)).trans (congrArg some hRendered)
  rw [Interpretation.ofMatch, hParams]
  simp only [hKind, hBuiltin, hOf.name, hOf.description, hOf.priority, ← hEngine, hSource, hScript]
  rfl

end

/-- Steps that check an element reach the rule for their wording. With the builtin rules alone, a
step that is worded in one of the two forms, of two phrases of which the first does not hold the
keyword, becomes the descriptor of the rule for this form. Its parameters are the two phrases,
whatever else stands in them, and its script is the template for checks with both phrases as single
words. -/
theorem interpret_check :
    ∃ registry, Registry.build BuiltinRules.table [] = .ok registry ∧
      ∀ form ∈ forms, ∀ (element expected : String) (values : Assoc String),
        IsPhrase element → IsPhrase expected → ¬ form.keyword.toList <:+: element.toList →
        Placeholder.names (form.step element expected) = [] →
          Interpretation.interpret registry (form.step element expected) values =
            form.descriptor element expected ∧
          (form.descriptor element expected).script = some (Template.renderQuoted
            BuiltinRules.checkContains (form.descriptor element expected).param?) := by
  obtain ⟨registry, hBuild⟩ := Registry.build_table
  refine ⟨registry, hBuild, fun form hForm element expected values hElement hExpected hFirst
    hNames => ?_⟩
  obtain ⟨rule, m, hFind, hKind, hBuiltin, hOf, hOne, hTwo⟩ :=
    exists_firstMatch? hForm hElement hExpected hBuild hFirst
  have hTrimmed : trimmed (form.step element expected) = form.step element expected :=
    trimmed_step hForm hExpected
  have hFilled : trimmed (form.step element expected) ≠ "" := by
    rw [hTrimmed, Ne, ← String.toList_eq_nil_iff, toList_step]
    simp
  have hResolved := Placeholder.resolve_of_names_eq_nil hNames values
  have hFind' : Interpretation.firstMatch? registry
      (Placeholder.resolve (trimmed (form.step element expected)) values).text =
        some (rule, m) := by
    rw [hTrimmed, hResolved, hFind]
  have hScript : Template.renderQuoted BuiltinRules.checkContains
      (form.descriptor element expected).param? = script element expected :=
    renderQuoted_checkContains rfl rfl
  rw [Interpretation.interpret_of_some hFilled hFind', hTrimmed, hResolved, hScript]
  exact ⟨ofMatch_check hForm hElement hExpected hKind hBuiltin hOf hOne hTwo, rfl⟩

/-- The element holds the start of the keyword, and the expected text all of it. -/
theorem interpret_check_total :
    contains.step "是否 total" "it's 是否包含 5" = "检查 是否 total 是否包含 it's 是否包含 5" ∧
    script "是否 total" "it's 是否包含 5" = "extract '是否 total' -> actual\n" ++
      "expect_contains $actual 'it'\"'\"'s 是否包含 5'\n" ∧
    ∃ registry, Registry.build BuiltinRules.table [] = .ok registry ∧
      Interpretation.interpret registry (contains.step "是否 total" "it's 是否包含 5") [] =
        contains.descriptor "是否 total" "it's 是否包含 5" := by
  have hElement : IsPhrase "是否 total" := ⟨by decide, by decide +kernel, by decide +kernel⟩
  have hExpected : IsPhrase "it's 是否包含 5" := ⟨by decide, by decide +kernel, by decide +kernel⟩
  obtain ⟨registry, hBuild, hChecks⟩ := interpret_check
  refine ⟨by decide +kernel, by decide +kernel, registry, hBuild, ?_⟩
  exact (hChecks contains List.mem_cons_self "是否 total" "it's 是否包含 5" [] hElement hExpected
    (by decide +kernel) (by decide +kernel)).1

end CheckForm

end ScenarioRunner
