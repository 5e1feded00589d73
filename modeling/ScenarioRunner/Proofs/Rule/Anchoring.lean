import ScenarioRunner.Proofs.Regex.Matching
import ScenarioRunner.Rule.Registry

/-! Rules match whole steps. The anchors are put to the source of a rule, one in front and one
behind it, so they hold of the first and of the last alternative. Main statement: a match spans the
text, but for a newline at its end, unless another alternative lacks the anchor of its author or the
last dollar sign of the source is an escaped one. -/
namespace ScenarioRunner.Rule

open Regex

/-- An anchored source starts with a caret. -/
theorem anchored_caret (source : String) : ∃ inside, (anchored source).toList = '^' :: inside := by
  have hPrefix (t : String) (hStart : ['^'] <+: t.toList) :
      ['^'] <+: (if endsWith t "$" then t else t ++ "$").toList := by
    split
    · exact hStart
    · rw [String.toList_append]
      exact hStart.trans (List.prefix_append _ _)
  have hCaret : ['^'] <+: (anchored source).toList := by
    refine hPrefix _ ?_
    split
    · rename_i hStart
      exact List.isPrefixOf_iff_prefix.mp hStart
    · rw [String.toList_append]
      exact List.prefix_append _ _
  obtain ⟨inside, hWhole⟩ := hCaret
  exact ⟨inside, hWhole.symm⟩

/-- A pattern is the expression that is read of the whole source. -/
theorem alternatives_of_read {source : String} {p : Pattern} (hRead : Pattern.read source = .ok p) :
    ∃ fuel start q, start.rest = source.toList ∧
      (alternatives {} fuel).run start = .ok (p.body, q) ∧ q.rest = [] := by
  unfold Pattern.read at hRead
  obtain ⟨⟨body, q⟩, hRun, hRead⟩ := bind_eq_ok_iff.mp hRead
  dsimp only at hRead
  split at hRead
  · cases hRead
  · rename_i hAll
    obtain rfl := pure_eq_ok_iff.mp hRead
    exact ⟨_, _, q, rfl, hRun, by simp_all [Progress.isFinished]⟩

/-- A rule matches whole texts. An alternative beside the first one has to bring the anchor of the
start along, one beside the last one that of the end, and the dollar sign at the end of the source
must not be escaped. -/
theorem search_spans {source : String} {p : Pattern} {s : List Char} {m : Match}
    (hRead : compileMatcher source = .ok p) (hFound : p.search s = some m) :
    ((∀ b ∈ p.body.branches.tail, b.opens = true) → m.start = 0) ∧
      ((∀ b ∈ p.body.branches.dropLast, b.closes = true) →
        endsInDollar (anchored source).toList = true →
        ∃ before, before.length = m.start ∧
          (s = before ++ m.text ∨ s = before ++ m.text ++ ['\n'])) := by
  obtain ⟨inside, hCaret⟩ := anchored_caret source
  obtain ⟨fuel, start, q, hSource, hRun, hAll⟩ := alternatives_of_read hRead
  constructor
  · intro hOthers
    obtain ⟨first, later, hBranches, hFirst⟩ := opens_of_alternatives hRun (hSource.trans hCaret)
    rw [hBranches, List.tail_cons] at hOthers
    refine start_of_opens (fun b hMem => ?_) hFound
    rw [hBranches] at hMem
    rcases List.mem_cons.mp hMem with rfl | hMem
    · exact hFirst
    · exact hOthers b hMem
  · intro hOthers hDollar
    rw [← hSource] at hDollar
    rcases closes_of_alternatives hRun hDollar with hMore | ⟨earlier, last, hBranches, hLast⟩
    · simp [hAll, endsInDollar] at hMore
    rw [hBranches, List.dropLast_concat] at hOthers
    refine end_of_closes (fun b hMem => ?_) hFound
    rw [hBranches] at hMem
    rcases List.mem_append.mp hMem with hMem | hMem
    · exact hOthers b hMem
    · rwa [List.mem_singleton.mp hMem]

/-- The second alternative ends in an escaped backslash, and the text in a newline. -/
theorem search_spans_press : ∃ p m,
    compileMatcher "open .+$|^press (a|b)\\\\" = .ok p ∧
      p.search "press b\\\n".toList = some m ∧
      (∀ b ∈ p.body.branches.tail, b.opens = true) ∧
      (∀ b ∈ p.body.branches.dropLast, b.closes = true) ∧
      endsInDollar (anchored "open .+$|^press (a|b)\\\\").toList = true ∧ m.start = 0 ∧
      ∃ before, before.length = m.start ∧
        ("press b\\\n".toList = before ++ m.text ∨
          "press b\\\n".toList = before ++ m.text ++ ['\n']) := by
  have hRun : ((compileMatcher "open .+$|^press (a|b)\\\\").toOption.bind fun p =>
      (p.search "press b\\\n".toList).map fun _ =>
        (p.body.branches.tail.all (·.opens), p.body.branches.dropLast.all (·.closes))) =
      some (true, true) := by decide +kernel
  have hDollar : endsInDollar (anchored "open .+$|^press (a|b)\\\\").toList = true := by
    decide +kernel
  obtain ⟨p, hOk, hRun⟩ := Option.bind_eq_some_iff.mp hRun
  obtain ⟨m, hFound, hConditions⟩ := Option.map_eq_some_iff.mp hRun
  obtain ⟨hOpens, hCloses⟩ := Prod.mk.inj hConditions
  rw [List.all_eq_true] at hOpens hCloses
  have hRead := toOption_eq_some_iff.mp hOk
  obtain ⟨hStart, hEnd⟩ := search_spans hRead hFound
  exact ⟨p, m, hRead, hFound, hOpens, hCloses, hDollar, hStart hOpens, hEnd hCloses hDollar⟩

def readOf (source text : String) : Option String := do
  let p ← (compileMatcher source).toOption
  let m ← p.search text.toList
  return String.ofList m.text

-- an alternative that lacks its anchor takes a part of a step
example : readOf "a|b" "ax" = some "a" := by decide +kernel

-- so does one behind a comment, which an escaped parenthesis does not end
example : readOf "(?#x\\)(?:(?#y)|b(?#z\\))" "zzz" = some "" := by decide +kernel

-- so does a source whose last dollar sign is a character
example : readOf "price\\$" "price$ 5" = some "price$" := by decide +kernel

end ScenarioRunner.Rule
