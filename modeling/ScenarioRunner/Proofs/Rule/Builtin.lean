import ScenarioRunner.Proofs.Regex.Repetition
import ScenarioRunner.Proofs.Rule.Order
import ScenarioRunner.Rule.Builtin

/-! What the builtin rules read. An expression is read of the characters of its source, so what is
said of each builtin rule is checked on characters: all expressions can be read, they match at the
start of a step only, and steps that check something start like few of them. -/
namespace ScenarioRunner

open Regex

namespace Rule

def anchoredChars (l : List Char) : List Char :=
  let l := if ['^'].isPrefixOf l then l else '^' :: l
  if ['$'].isSuffixOf l then l else l ++ ['$']

/-- The number of groups and the expression that are read of the characters of a source. -/
def readChars (l : List Char) : Except Regex.Fault (Nat × Node) := do
  let s := anchoredChars l
  let (body, p) ← (alternatives {} (4 * s.length + 4)).run { rest := s }
  if !p.isFinished then throw .malformed
  return (p.nextGroup - 1, body)

theorem toList_anchored (source : String) :
    (anchored source).toList = anchoredChars source.toList := by
  have hFront : (if startsWith source "^" then source else "^" ++ source).toList =
      if ['^'].isPrefixOf source.toList then source.toList else '^' :: source.toList :=
    (apply_ite String.toList _ _ _).trans (by rw [String.toList_append]; rfl)
  have hBack (t : String) : (if endsWith t "$" then t else t ++ "$").toList =
      if ['$'].isSuffixOf t.toList then t.toList else t.toList ++ ['$'] :=
    (apply_ite String.toList _ _ _).trans (by rw [String.toList_append]; rfl)
  rw [anchored, hBack, hFront, anchoredChars]

/-- Compiling a source reads its characters. -/
theorem compileMatcher_eq (source : String) : compileMatcher source =
    (readChars source.toList).map fun read => ⟨anchored source, read.1, read.2⟩ := by
  unfold compileMatcher Pattern.read readChars
  dsimp only
  rw [toList_anchored]
  rcases (alternatives {} (4 * (anchoredChars source.toList).length + 4)).run
    { rest := anchoredChars source.toList } with fault | ⟨body, p⟩
  · rfl
  · simp only [bind, Except.bind]
    split <;> rfl

variable {source : String} {l : List Char}

/-- An expression that is read of a source passes a test that what is read of its characters
passes. -/
theorem exists_pattern_of_chars {test : Node → Bool} (hSource : source = String.ofList l)
    (hTest : (readChars l).toOption.any (fun read => test read.2) = true) :
    ∃ p, compileMatcher source = .ok p ∧ test p.body = true := by
  rw [compileMatcher_eq, hSource, String.toList_ofList]
  cases hRead : readChars l with
  | error fault => simp [hRead, Except.toOption] at hTest
  | ok read => exact ⟨_, rfl, by simpa [hRead, Except.toOption] using hTest⟩

/-- What is read of a source that brings its anchors along. -/
theorem compileMatcher_of_chars {groups : Nat} {body : Node} (hSource : source = String.ofList l)
    (hAnchored : anchoredChars l = l)
    (hRead : (readChars l).toOption = some (groups, body)) :
    compileMatcher source = .ok ⟨source, groups, body⟩ := by
  have hSame : anchored source = source := by
    rw [← String.ofList_toList (s := anchored source), toList_anchored, hSource,
      String.toList_ofList, hAnchored]
  rw [compileMatcher_eq, hSame, hSource, String.toList_ofList, toOption_eq_some_iff.mp hRead]
  rfl

end Rule

namespace BuiltinRules

open Rule

/-- The start of a step that checks whether an element has a text in it. -/
def checkStart : List Char := ['检', '查', ' ']

def verifyStart : List Char := ['验', '证', ' ']

/-- The expression of a builtin rule with a name opens, and steps of these starts it may read only
if it is one of these rules. -/
def admitsAs (name : String) (body : Node) : Bool :=
  body.opens &&
    (!body.admits checkStart (fun _ => true) || name == "check_elements" ||
      name == "check_contains") &&
    (!body.admits verifyStart (fun _ => true) || name == "verify_display")

/-- Every expression of the table compiles, and admits what its name asks for. -/
theorem exists_pattern_of_mem_table : ∀ entry ∈ table, ∀ d ∈ entry.2,
    ∃ p, compileMatcher d.pattern = .ok p ∧ admitsAs d.name p.body = true := by
  -- rule by rule, as each one has a source of its own to be read
  simp only [table, gotoRules, extractRules, observeRules, agentRules, actRules, templateRules,
    List.forall_mem_cons, List.not_mem_nil, false_implies, implies_true, and_true]
  and_intros <;> exact exists_pattern_of_chars rfl (by decide +kernel)

/-- No rule of the table names an engine. -/
theorem engine_of_mem_table : ∀ entry ∈ table, ∀ d ∈ entry.2, d.engine = none := by
  decide

/-- All builtin definitions are valid. -/
theorem valid_of_mem_table {entry : String × List RuleDefinition} (hEntry : entry ∈ table)
    {d : RuleDefinition} (hMem : d ∈ entry.2) :
    (∃ pattern, Rule.compileMatcher d.pattern = .ok pattern) ∧
      ∃ engine, Rule.engineOf d = some engine := by
  obtain ⟨p, hPattern, -⟩ := exists_pattern_of_mem_table entry hEntry d hMem
  exact ⟨⟨p, hPattern⟩, .rules, by rw [Rule.engineOf, engine_of_mem_table entry hEntry d hMem]⟩

end BuiltinRules

end ScenarioRunner
