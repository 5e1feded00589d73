import ScenarioRunner.Proofs.Regex.Alternatives
import ScenarioRunner.Regex.Matcher

/-! Where a match lies. Every part of a search hands on a cursor in the text that it was given, for
the anchors of the alternative that was taken to hold of: a match by one that opens starts at the
start of the text, and a match by one that closes reaches its end. -/
namespace ScenarioRunner.Regex

/-- The cursor stands in a text, at the place that it says. -/
structure Cursor.In (s : List Char) (c : Cursor) : Prop where
  whole : c.before.reverse ++ c.after = s
  place : c.place = c.before.length

/-- Nothing comes after the cursor but one newline. -/
def Cursor.AtEnd (c : Cursor) : Prop := c.after = [] ∨ c.after = ['\n']

variable {s : List Char}

theorem in_start (s : List Char) : (Cursor.start s).In s := ⟨rfl, rfl⟩

theorem Cursor.In.hold {c : Cursor} (hIn : c.In s) (held : List (Nat × List Char)) :
    ({ c with held } : Cursor).In s := ⟨hIn.whole, hIn.place⟩

/-- A step to the next character stays in the text. -/
theorem in_next? {c d : Cursor} {x : Char} (hNext : c.next? = some (x, d)) (hIn : c.In s) :
    d.In s := by
  obtain ⟨before, after, place, held⟩ := c
  cases after with
  | nil => simp [Cursor.next?] at hNext
  | cons y after =>
      obtain ⟨rfl, rfl⟩ := Prod.mk.inj (Option.some.inj hNext)
      exact ⟨by simpa using hIn.whole, by simpa using hIn.place⟩

/-- What is read again was read before, in the same text. -/
theorem in_readAgain {rule : CaseRule} {again : List Char} {c d : Cursor}
    (hRead : readAgain rule again c = some d) (hIn : c.In s) : d.In s := by
  induction again generalizing c with
  | nil => exact Option.some.inj hRead ▸ hIn
  | cons x again ih =>
      rw [readAgain] at hRead
      split at hRead
      · rename_i hNext
        split at hRead
        · exact ih hRead (in_next? hNext hIn)
        · simp at hRead
      · simp at hRead

/-- What a part finds was found by going on from a cursor in the text. -/
def HandsOn (s : List Char) (part : Part) : Prop :=
  ∀ c k d, c.In s → part c k = some d → ∃ e, e.In s ∧ k e = some d

section

variable {part : Part} (hPart : HandsOn s part)
include hPart

/-- A part that hands on its place does so any number of times. -/
theorem handsOn_exactly (n : Nat) : HandsOn s (exactly part n) := by
  intro c k d hIn hRun
  induction n generalizing c with
  | zero => exact ⟨c, hIn, hRun⟩
  | succ n ih =>
      obtain ⟨e, hIn, hRun⟩ := hPart _ _ d hIn hRun
      exact ih e hIn hRun

/-- Greedy rounds hand on their place, by induction on how many there may be. -/
theorem handsOn_asOften (fuel : Nat) (extra last : Option Nat) :
    HandsOn s (asOften part fuel extra last) := by
  intro c k d hIn hRun
  induction fuel generalizing c extra last with
  | zero => exact ⟨c, hIn, hRun⟩
  | succ fuel ih =>
      rw [asOften] at hRun
      split at hRun
      · exact ⟨c, hIn, hRun⟩
      split at hRun
      · rename_i hFound
        obtain rfl := Option.some.inj hRun
        obtain ⟨e, hIn, hRun⟩ := hPart _ _ _ hIn hFound
        exact ih _ _ e hIn hRun
      · exact ⟨c, hIn, hRun⟩

/-- So do lazy rounds. -/
theorem handsOn_asSeldom (fuel : Nat) (extra last : Option Nat) :
    HandsOn s (asSeldom part fuel extra last) := by
  intro c k d hIn hRun
  induction fuel generalizing c extra last with
  | zero => exact ⟨c, hIn, hRun⟩
  | succ fuel ih =>
      rw [asSeldom] at hRun
      split at hRun
      · rename_i hFound
        exact ⟨c, hIn, hFound.trans hRun⟩
      split at hRun
      · simp at hRun
      · obtain ⟨e, hIn, hRun⟩ := hPart _ _ d hIn hRun
        exact ih _ _ e hIn hRun

theorem handsOn_rounds (greed : Greed) (least : Nat) (most : Option Nat) :
    HandsOn s (rounds greed least most part) := by
  intro c k d hIn hRun
  cases greed with
  | greedy =>
      obtain ⟨e, hIn, hRun⟩ := handsOn_exactly hPart least _ _ d hIn hRun
      exact handsOn_asOften hPart _ _ _ e k d hIn hRun
  | reluctant =>
      obtain ⟨e, hIn, hRun⟩ := handsOn_exactly hPart least _ _ d hIn hRun
      exact handsOn_asSeldom hPart _ _ _ e k d hIn hRun
  | possessive =>
      rw [rounds] at hRun
      split at hRun
      · rename_i f hFound
        obtain ⟨e, hIn, hFound⟩ := handsOn_exactly hPart least _ _ f hIn hFound
        obtain ⟨e', hIn', hSame⟩ := handsOn_asOften hPart _ _ _ e some f hIn hFound
        exact ⟨f, Option.some.inj hSame ▸ hIn', hRun⟩
      · simp at hRun

end

/-- Whatever an expression finds, it goes on from a cursor in the same text. -/
theorem handsOn_run (n : Node) : HandsOn s n.run := by
  induction n with
  | empty => exact fun c k d hIn hRun => ⟨c, hIn, hRun⟩
  | one set =>
      intro c k d hIn hRun
      rw [Node.run] at hRun
      split at hRun
      · rename_i hNext
        split at hRun
        · exact ⟨_, in_next? hNext hIn, hRun⟩
        · simp at hRun
      · simp at hRun
  | anchor a =>
      intro c k d hIn hRun
      rw [Node.run] at hRun
      split at hRun
      · exact ⟨c, hIn, hRun⟩
      · simp at hRun
  | seq first second ihFirst ihSecond =>
      intro c k d hIn hRun
      obtain ⟨e, hIn, hRun⟩ := ihFirst c _ d hIn hRun
      exact ihSecond e k d hIn hRun
  | either left right ihLeft ihRight =>
      intro c k d hIn hRun
      rw [Node.run] at hRun
      split at hRun
      · rename_i hFound
        exact ihLeft c k d hIn (hFound.trans hRun)
      · exact ihRight c k d hIn hRun
  | group number body ih =>
      intro c k d hIn hRun
      obtain ⟨e, hIn, hRun⟩ := ih c _ d hIn hRun
      exact ⟨_, hIn.hold _, hRun⟩
  | again greed least most body ih =>
      intro c k d hIn hRun
      rw [Node.run] at hRun
      exact handsOn_rounds ih greed least most c k d hIn hRun
  | backref number rule =>
      intro c k d hIn hRun
      rw [Node.run] at hRun
      split at hRun
      · obtain ⟨e, hRead, hRun⟩ := Option.bind_eq_some_iff.mp hRun
        exact ⟨e, in_readAgain hRead hIn, hRun⟩
      · simp at hRun
  | ahead negative body =>
      intro c k d hIn hRun
      rw [Node.run] at hRun
      split at hRun <;> split at hRun
      · simp at hRun
      · exact ⟨_, hIn.hold _, hRun⟩
      · exact ⟨c, hIn, hRun⟩
      · simp at hRun
  | behind negative width body =>
      intro c k d hIn hRun
      rw [Node.run] at hRun
      split at hRun <;> split at hRun
      · simp at hRun
      · exact ⟨_, hIn.hold _, hRun⟩
      · exact ⟨c, hIn, hRun⟩
      · simp at hRun
  | atomic body ih =>
      intro c k d hIn hRun
      obtain ⟨e, hFound, hRun⟩ := Option.bind_eq_some_iff.mp hRun
      obtain ⟨e', hIn', hSame⟩ := ih c some e hIn hFound
      exact ⟨e, Option.some.inj hSame ▸ hIn', hRun⟩
  | ifGroup number yes no ihYes ihNo =>
      intro c k d hIn hRun
      rw [Node.run] at hRun
      split at hRun
      · exact ihYes c k d hIn hRun
      · exact ihNo c k d hIn hRun

/-- An expression that opens finds something only at the start. -/
theorem before_of_opens {n : Node} (hOpens : n.opens = true) {c d : Cursor} {k : Rest}
    (hRun : n.run c k = some d) : c.before = [] := by
  induction n generalizing c d k with
  | anchor a =>
      rw [Node.run] at hRun
      split at hRun
      · rename_i hHolds
        cases a with
        | textStart => exact List.isEmpty_iff.mp hHolds
        | _ => simp [Node.opens] at hOpens
      · simp at hRun
  | seq first second ihFirst => exact ihFirst hOpens hRun
  | either left right ihLeft ihRight =>
      obtain ⟨hLeft, hRight⟩ := Bool.and_eq_true_iff.mp hOpens
      rw [Node.run] at hRun
      split at hRun
      · rename_i hFound
        exact ihLeft hLeft hFound
      · exact ihRight hRight hRun
  | group number body ih => exact ih hOpens hRun
  | atomic body ih =>
      obtain ⟨e, hFound, -⟩ := Option.bind_eq_some_iff.mp hRun
      exact ih hOpens hFound
  | _ => simp [Node.opens] at hOpens

/-- An expression that closes goes on from the end only. -/
theorem atEnd_of_closes {n : Node} (hCloses : n.closes = true) {c d : Cursor} {k : Rest}
    (hIn : c.In s) (hRun : n.run c k = some d) : ∃ e, e.In s ∧ e.AtEnd ∧ k e = some d := by
  induction n generalizing c d k with
  | anchor a =>
      rw [Node.run] at hRun
      split at hRun
      · rename_i hHolds
        refine ⟨c, hIn, ?_, hRun⟩
        cases a with
        | textEnd => exact .inl (List.isEmpty_iff.mp hHolds)
        | lastLineEnd => simpa [Anchor.holds, Cursor.AtEnd] using hHolds
        | _ => simp [Node.closes] at hCloses
      · simp at hRun
  | seq first second _ ihSecond =>
      obtain ⟨e, hIn, hRun⟩ := handsOn_run first c _ d hIn hRun
      exact ihSecond hCloses hIn hRun
  | either left right ihLeft ihRight =>
      obtain ⟨hLeft, hRight⟩ := Bool.and_eq_true_iff.mp hCloses
      rw [Node.run] at hRun
      split at hRun
      · rename_i hFound
        exact ihLeft hLeft hIn (hFound.trans hRun)
      · exact ihRight hRight hIn hRun
  | group number body ih =>
      obtain ⟨e, hIn, hEnd, hRun⟩ := ih hCloses hIn hRun
      refine ⟨_, hIn.hold _, ?_, hRun⟩
      exact hEnd
  | atomic body ih =>
      obtain ⟨e, hFound, hRun⟩ := Option.bind_eq_some_iff.mp hRun
      obtain ⟨e', hIn', hEnd, hSame⟩ := ih hCloses hIn hFound
      obtain rfl := Option.some.inj hSame
      exact ⟨e', hIn', hEnd, hRun⟩
  | _ => simp [Node.closes] at hCloses

/-- What an expression finds, one of its alternatives finds. -/
theorem branch_of_run {n : Node} {c d : Cursor} {k : Rest} (hRun : n.run c k = some d) :
    ∃ b ∈ n.branches, b.run c k = some d := by
  induction n with
  | either left right _ ihRight =>
      rw [Node.run] at hRun
      split at hRun
      · rename_i hFound
        exact ⟨left, by simp [Node.branches], hFound.trans hRun⟩
      · obtain ⟨b, hMem, hRun⟩ := ihRight hRun
        exact ⟨b, by simp [Node.branches, hMem], hRun⟩
  | _ => exact ⟨_, by simp [Node.branches], hRun⟩

/-- A match that is found was run from some place in the text, and tells of its end. -/
theorem run_of_searchFrom {body : Node} {fuel : Nat} {c : Cursor} {m : Match}
    (hFound : body.searchFrom fuel c = some m) (hIn : c.In s) :
    ∃ e d, e.In s ∧ body.run e some = some d ∧
      m = ⟨e.place, e.after.take (d.place - e.place), d.held⟩ := by
  induction fuel generalizing c with
  | zero => simp [Node.searchFrom] at hFound
  | succ fuel ih =>
      rw [Node.searchFrom] at hFound
      split at hFound
      · rename_i d hRun
        exact ⟨c, d, hIn, hRun, (Option.some.inj hFound).symm⟩
      split at hFound
      · rename_i hNext
        exact ih hFound (in_next? hNext hIn)
      · simp at hFound

/-- The text from a cursor up to one at the end is all that comes after the first one, except for a
newline behind the second. -/
theorem text_between {c d : Cursor} (hFrom : c.In s) (hTo : d.In s) (hEnd : d.AtEnd) :
    s = c.before.reverse ++ c.after.take (d.place - c.place) ∨
      s = c.before.reverse ++ c.after.take (d.place - c.place) ++ ['\n'] := by
  have hLengths : d.before.length + d.after.length = c.before.length + c.after.length := by
    have hSame := congrArg List.length (hTo.whole.trans hFrom.whole.symm)
    simpa using hSame
  rw [hFrom.place, hTo.place]
  rcases hEnd with hEnd | hEnd
  · left
    rw [List.take_of_length_le (by simp [hEnd] at hLengths; omega), hFrom.whole]
  rcases List.eq_nil_or_concat c.after with hNone | ⟨initial, last, hSome⟩
  · left
    simp [hNone, ← hFrom.whole]
  · right
    rw [List.concat_eq_append] at hSome
    have hWhole : c.before.reverse ++ initial ++ [last] = d.before.reverse ++ ['\n'] := by
      rw [List.append_assoc, ← hSome, ← hEnd, hFrom.whole, hTo.whole]
    obtain ⟨-, hLast⟩ := List.append_inj' hWhole rfl
    have hTake : c.after.take (d.before.length - c.before.length) = initial := by
      have hCount : d.before.length - c.before.length = initial.length := by
        simp [hEnd, hSome] at hLengths
        omega
      rw [hCount, hSome, List.take_left]
    rw [hTake, ← hLast, List.append_assoc, ← hSome, hFrom.whole]

variable {p : Pattern} {m : Match}

/-- A match by alternatives that open starts at the start of the text. -/
theorem start_of_opens (hOpens : ∀ b ∈ p.body.branches, b.opens = true)
    (hFound : p.search s = some m) : m.start = 0 := by
  obtain ⟨e, d, hIn, hRun, rfl⟩ := run_of_searchFrom hFound (in_start s)
  obtain ⟨b, hMem, hRun⟩ := branch_of_run hRun
  rw [hIn.place, before_of_opens (hOpens b hMem) hRun, List.length_nil]

/-- A match by alternatives that close ends at the end of the text. -/
theorem end_of_closes (hCloses : ∀ b ∈ p.body.branches, b.closes = true)
    (hFound : p.search s = some m) :
    ∃ before, before.length = m.start ∧
      (s = before ++ m.text ∨ s = before ++ m.text ++ ['\n']) := by
  obtain ⟨e, d, hIn, hRun, rfl⟩ := run_of_searchFrom hFound (in_start s)
  obtain ⟨b, hMem, hRun⟩ := branch_of_run hRun
  obtain ⟨_, hIn', hEnd, hSame⟩ := atEnd_of_closes (hCloses b hMem) hIn hRun
  obtain rfl := Option.some.inj hSame
  exact ⟨e.before.reverse, by simp [hIn.place], text_between hIn hIn' hEnd⟩

end ScenarioRunner.Regex
