import ScenarioRunner.Proofs.Regex.Matching

/-! Parts of an expression on a text that is known in part. A text that does not start as an
expression has to start is not matched. Letters are read one after another, and a repetition of one
character goes over the characters that its set has: a greedy one as far as it can, a reluctant one
no further than what comes behind it needs. -/
namespace ScenarioRunner.Regex

/-! How a text has to start. -/

/-- Whether an expression may read a text that starts with known characters, where what comes behind
the expression may read what is left of them. With no known character left it may. -/
def Node.admits : Node → List Char → (List Char → Bool) → Bool
  | .empty, known, k => k known
  | .anchor _, known, k => k known
  | .one set, x :: known, k => set.holds x && k known
  | .seq first second, known, k => first.admits known fun known => second.admits known k
  | .either left right, known, k => left.admits known k || right.admits known k
  | .group _ body, known, k => body.admits known k
  | _, _, _ => true

/-- A part that does not admit the text does not match, whatever is to follow. -/
theorem run_of_not_admits {n : Node} {known : List Char} {k : List Char → Bool} {c : Cursor}
    {rest : Rest} (hAdmits : n.admits known k = false) (hStart : known <+: c.after)
    (hRest : ∀ known d, k known = false → known <+: d.after → rest d = none) :
    n.run c rest = none := by
  induction n generalizing known k c rest with
  | empty => exact hRest known c hAdmits hStart
  | anchor a =>
      rw [Node.run]
      split
      · exact hRest known c hAdmits hStart
      · rfl
  | one set =>
      cases known with
      | nil => simp [Node.admits] at hAdmits
      | cons x known =>
          obtain ⟨behind, hAfter⟩ := hStart
          rw [Node.run, Cursor.next?, ← hAfter]
          dsimp only [List.cons_append]
          split
          · rename_i hHolds
            rw [Node.admits, hHolds, Bool.true_and] at hAdmits
            exact hRest known _ hAdmits (List.prefix_append known behind)
          · rfl
  | seq first second ihFirst ihSecond =>
      exact ihFirst hAdmits hStart fun known d hAdmits hStart => ihSecond hAdmits hStart hRest
  | either left right ihLeft ihRight =>
      rw [Node.admits, Bool.or_eq_false_iff] at hAdmits
      rw [Node.run, ihLeft hAdmits.1 hStart hRest]
      exact ihRight hAdmits.2 hStart hRest
  | group number body ih =>
      exact ih hAdmits hStart fun known d hAdmits hStart => hRest known _ hAdmits hStart
  | _ => simp [Node.admits] at hAdmits

/-- An expression that opens finds what it finds at the start. -/
theorem search_of_opens {p : Pattern} {s : List Char} (hOpens : p.body.opens = true)
    (hNone : ∀ c : Cursor, c.after = s → p.body.run c some = none) : p.search s = none := by
  cases hFound : p.search s with
  | none => rfl
  | some m =>
      obtain ⟨c, d, hIn, hRun, -⟩ := run_of_searchFrom hFound (in_start s)
      have hAfter : c.after = s := by
        have hWhole := hIn.whole
        rwa [before_of_opens hOpens hRun, List.reverse_nil, List.nil_append] at hWhole
      cases (hNone c hAfter).symm.trans hRun

/-- Nothing is found in a text by an expression that opens and has to start otherwise. -/
theorem search_of_not_admits {p : Pattern} {known s : List Char} (hOpens : p.body.opens = true)
    (hAdmits : p.body.admits known (fun _ => true) = false) (hStart : known <+: s) :
    p.search s = none :=
  search_of_opens hOpens fun _ hAfter => run_of_not_admits hAdmits (hAfter ▸ hStart) (by simp)

/-- What is read at the start is the first match. -/
theorem search_of_run {p : Pattern} {s : List Char} {d : Cursor}
    (hRun : p.body.run (Cursor.start s) some = some d) :
    p.search s = some ⟨0, s.take d.place, d.held⟩ := by
  rw [Pattern.search, Node.searchFrom, hRun]
  rfl

/-! Sequences, and letters. -/

/-- The cursor behind a text that comes next, with the rest still to come. -/
def Cursor.past (c : Cursor) (l rest : List Char) : Cursor :=
  { c with before := l.reverse ++ c.before, after := rest, place := c.place + l.length }

variable {c d : Cursor} {k : Rest} {set : CharSet} {l rest : List Char}

theorem Cursor.past_nil (hAfter : c.after = rest) : c.past [] rest = c := by
  rw [← hAfter]
  rfl

/-- Passing two stretches is passing both of them at once. -/
theorem Cursor.past_past (l₁ rest₁ l₂ rest₂ : List Char) :
    (c.past l₁ rest₁).past l₂ rest₂ = c.past (l₁ ++ l₂) rest₂ := by
  simp [past, Nat.add_assoc]

/-- The cursor with one more group that holds something. -/
def Cursor.holding (c : Cursor) (number : Nat) (text : List Char) : Cursor :=
  { c with held := (number, text) :: c.held }

/-- A group holds what was read since it was opened. -/
theorem Cursor.take_past (hAfter : c.after = l ++ rest) :
    c.after.take ((c.past l rest).place - c.place) = l := by
  rw [hAfter, past, Nat.add_sub_cancel_left, List.take_left]

theorem run_group (number : Nat) (body : Node) (c : Cursor) (k : Rest) :
    (Node.group number body).run c k = body.run c fun d =>
      k (d.holding number (c.after.take (d.place - c.place))) := rfl

theorem run_ofList_cons (n : Node) (ns : List Node) (c : Cursor) (k : Rest) :
    (Node.ofList (n :: ns)).run c k = n.run c fun d => (Node.ofList ns).run d k := by
  cases ns <;> rfl

/-- Parts that are put together run one after another. -/
theorem run_ofList_append (ns more : List Node) (c : Cursor) (k : Rest) :
    (Node.ofList (ns ++ more)).run c k =
      (Node.ofList ns).run c fun d => (Node.ofList more).run d k := by
  induction ns generalizing c with
  | nil => rfl
  | cons n ns ih =>
      rw [List.cons_append, run_ofList_cons, run_ofList_cons]
      congr 1
      funext d
      exact ih d

/-- A single character is matched by every set that holds it. -/
theorem run_one_cons {x : Char} (hAfter : c.after = x :: rest) :
    (Node.one set).run c k = if set.holds x then k (c.past [x] rest) else none := by
  rw [Node.run, Cursor.next?, hAfter]
  rfl

def Node.letter (x : Char) : Node := .one { items := [.char x.toNat] }

/-- The set of a letter holds that letter only. -/
theorem holds_letter (x y : Char) : CharSet.holds { items := [.char x.toNat] } y = (y == x) := by
  rw [Bool.eq_iff_iff, beq_iff_eq, ← Char.toNat_inj]
  simp [CharSet.holds, CaseRule.variants, SetItem.holds]

def blankSet : CharSet := { items := [.category .blank false false] }

@[simp] theorem holds_blankSet (c : Char) : blankSet.holds c = Text.isBlank c := by
  simp [blankSet, CharSet.holds, SetItem.holds, Category.holds, CaseRule.fold]

def lineSet : CharSet := { items := [.char '\n'.toNat], inverted := true }

@[simp] theorem holds_lineSet (c : Char) : lineSet.holds c = (c != '\n') := by
  have hSame : c.toNat = 10 ↔ c = '\n' := Char.toNat_inj (d := '\n')
  rw [Bool.eq_iff_iff, bne_iff_ne, Ne, ← hSame]
  simp [lineSet, CharSet.holds, CaseRule.variants, SetItem.holds]

/-- A word is read where it comes next. -/
theorem run_letters {word : List Char} (hAfter : c.after = word ++ rest) :
    (Node.ofList (word.map .letter)).run c k = k (c.past word rest) := by
  induction word generalizing c with
  | nil =>
      rw [Cursor.past_nil (show c.after = rest from hAfter)]
      rfl
  | cons x word ih =>
      rw [List.map_cons, run_ofList_cons, Node.letter, run_one_cons hAfter, holds_letter,
        if_pos (beq_self_eq_true x), ih rfl, Cursor.past_past]
      rfl

/-- A word is read nowhere else. -/
theorem prefix_of_run_letters {word : List Char}
    (hRun : (Node.ofList (word.map .letter)).run c k = some d) : word <+: c.after := by
  induction word generalizing c with
  | nil => exact List.nil_prefix
  | cons x word ih =>
      rw [List.map_cons, run_ofList_cons, Node.letter] at hRun
      cases hAfter : c.after with
      | nil => simp [run_one_nil hAfter] at hRun
      | cons y behind =>
          rw [run_one_cons hAfter, holds_letter] at hRun
          by_cases hSame : y = x
          · rw [if_pos (beq_iff_eq.mpr hSame)] at hRun
            exact List.cons_prefix_cons.mpr ⟨hSame.symm, ih hRun⟩
          · simp [hSame] at hRun

/-! Repetitions of one character. -/

/-- What comes behind a greedy repetition was tried behind some of its characters. -/
theorem exists_of_asOften {fuel : Nat} {last : Option Nat}
    (hRun : asOften (Node.one set).run fuel none last c k = some d) :
    ∃ l rest, c.after = l ++ rest ∧ (∀ x ∈ l, set.holds x = true) ∧
      k (c.past l rest) = some d := by
  have hHere {c : Cursor} (hRun : k c = some d) : ∃ l rest, c.after = l ++ rest ∧
      (∀ x ∈ l, set.holds x = true) ∧ k (c.past l rest) = some d :=
    ⟨[], c.after, rfl, by simp, by rwa [Cursor.past_nil rfl]⟩
  induction fuel generalizing c last with
  | zero => exact hHere hRun
  | succ fuel ih =>
      rw [asOften] at hRun
      split at hRun
      · exact hHere hRun
      split at hRun
      · rename_i found hFound
        obtain rfl := Option.some.inj hRun
        cases hAfter : c.after with
        | nil => simp [run_one_nil hAfter] at hFound
        | cons x behind =>
            rw [run_one_cons hAfter] at hFound
            split at hFound
            · rename_i hHolds
              obtain ⟨l, rest, hBehind, hAll, hFound⟩ := ih hFound
              refine ⟨x :: l, rest, ?_, List.forall_mem_cons.mpr ⟨hHolds, hAll⟩, ?_⟩
              · rw [List.cons_append]
                exact congrArg (x :: ·) hBehind
              · rwa [Cursor.past_past] at hFound
            · cases hFound
      · exact hHere hRun

/-- What is found further on is what a greedy repetition finds. -/
theorem asOften_of_past (fuel : Nat) (last : Option Nat) (hAfter : c.after = l ++ rest)
    (hAll : ∀ x ∈ l, set.holds x = true) (hLast : last ≠ some c.place) :
    ∃ before, before ≠ some (c.past l rest).place ∧
      ∀ d, asOften (Node.one set).run fuel none before (c.past l rest) k = some d →
        asOften (Node.one set).run (fuel + l.length) none last c k = some d := by
  induction l generalizing c last with
  | nil =>
      rw [Cursor.past_nil (show c.after = rest from hAfter)]
      exact ⟨last, hLast, fun d hFound => hFound⟩
  | cons x l ih =>
      have hNext : c.after = x :: (l ++ rest) := hAfter
      obtain ⟨hHolds, hAll⟩ := List.forall_mem_cons.mp hAll
      obtain ⟨before, hBefore, hLater⟩ :=
        ih (c := c.past [x] (l ++ rest)) (some c.place) rfl hAll (by simp [Cursor.past])
      rw [Cursor.past_past] at hBefore hLater
      refine ⟨before, hBefore, fun d hFound => ?_⟩
      rw [List.length_cons, ← Nat.add_assoc, asOften, if_neg (by simpa using hLast),
        run_one_cons hNext, if_pos hHolds]
      dsimp only [Option.map_none]
      rw [hLater d hFound]

/-- A repetition of one character that goes as far as it can. -/
def Node.many (least : Nat) (set : CharSet) : Node := .again .greedy least none (.one set)

/-- A repetition of one character that goes no further than it has to. -/
def Node.few (set : CharSet) : Node := .again .reluctant 1 none (.one set)

/-- What many of a set have matched is a stretch of it. -/
theorem exists_of_run_many (hRun : (Node.many 0 set).run c k = some d) :
    ∃ l rest, c.after = l ++ rest ∧ (∀ x ∈ l, set.holds x = true) ∧
      k (c.past l rest) = some d :=
  exists_of_asOften hRun

/-- A stretch of a set can be passed, and whatever follows it decides. -/
theorem run_many_of_past (hAfter : c.after = l ++ rest) (hAll : ∀ x ∈ l, set.holds x = true) :
    ∃ before, before ≠ some (c.past l rest).place ∧
      ∀ d, asOften (Node.one set).run (rest.length + 2) none before (c.past l rest) k = some d →
        (Node.many 0 set).run c k = some d := by
  obtain ⟨before, hBefore, hFound⟩ :=
    asOften_of_past (k := k) (rest.length + 2) none hAfter hAll (by simp)
  have hFuel : c.after.length + 2 = rest.length + 2 + l.length := by
    rw [hAfter, List.length_append]
    omega
  rw [← hFuel] at hFound
  exact ⟨before, hBefore, hFound⟩

/-- A greedy repetition tries what comes behind it behind any number of its characters. -/
theorem isSome_run_many (hAfter : c.after = l ++ rest) (hAll : ∀ x ∈ l, set.holds x = true)
    (hFound : (k (c.past l rest)).isSome = true) : ((Node.many 0 set).run c k).isSome = true := by
  obtain ⟨before, -, hMany⟩ := run_many_of_past (k := k) hAfter hAll
  suffices hHere : (asOften (Node.one set).run (rest.length + 2) none before
      (c.past l rest) k).isSome = true by
    obtain ⟨d, hHere⟩ := Option.isSome_iff_exists.mp hHere
    rw [hMany d hHere]
    rfl
  rw [asOften]
  split
  · exact hFound
  · split
    · rfl
    · exact hFound

/-- A greedy repetition reads all that it can. -/
theorem run_many (hAfter : c.after = l ++ rest) (hAll : ∀ x ∈ l, set.holds x = true)
    (hStop : ∀ x ∈ rest.head?, set.holds x = false) (hFound : k (c.past l rest) = some d) :
    (Node.many 0 set).run c k = some d := by
  obtain ⟨before, hBefore, hMany⟩ := run_many_of_past (k := k) hAfter hAll
  refine hMany d ?_
  have hNone (k : Rest) : (Node.one set).run (c.past l rest) k = none := by
    cases rest with
    | nil => exact run_one_nil rfl
    | cons x rest => rw [run_one_cons rfl, if_neg (by simp [hStop x rfl])]
  rw [asOften, if_neg (by simpa using hBefore), hNone]
  exact hFound

/-- A stretch that nothing can prolong is passed as a whole. -/
theorem run_many_one {x : Char} (hAfter : c.after = x :: (l ++ rest)) (hHolds : set.holds x = true)
    (hAll : ∀ x ∈ l, set.holds x = true) (hStop : ∀ x ∈ rest.head?, set.holds x = false)
    (hFound : k (c.past (x :: l) rest) = some d) : (Node.many 1 set).run c k = some d := by
  have hFirst : (Node.many 1 set).run c k =
      (Node.one set).run c fun c => (Node.many 0 set).run c k := rfl
  rw [hFirst, run_one_cons hAfter, if_pos hHolds]
  refine run_many rfl hAll hStop ?_
  rwa [Cursor.past_past]

/-- A reluctant repetition goes on as long as nothing is found behind it. -/
theorem asSeldom_of_past {fuel : Nat} {last : Option Nat} (hAfter : c.after = l ++ rest)
    (hAll : ∀ x ∈ l, set.holds x = true) (hLast : last ≠ some c.place) (hFuel : l.length < fuel)
    (hShort : ∀ l₁ x l₂, l = l₁ ++ x :: l₂ → k (c.past l₁ (x :: (l₂ ++ rest))) = none)
    (hFound : k (c.past l rest) = some d) :
    asSeldom (Node.one set).run fuel none last c k = some d := by
  induction l generalizing c last fuel with
  | nil =>
      obtain ⟨fuel, rfl⟩ := Nat.exists_eq_succ_of_ne_zero (Nat.ne_of_gt hFuel)
      rw [Cursor.past_nil (show c.after = rest from hAfter)] at hFound
      rw [asSeldom, hFound]
  | cons x l ih =>
      obtain ⟨fuel, rfl⟩ := Nat.exists_eq_succ_of_ne_zero (Nat.ne_of_gt (Nat.zero_lt_of_lt hFuel))
      have hNext : c.after = x :: (l ++ rest) := hAfter
      obtain ⟨hHolds, hAll⟩ := List.forall_mem_cons.mp hAll
      have hHere : k c = none := by
        have hNone := hShort [] x l rfl
        rwa [Cursor.past_nil hNext] at hNone
      rw [asSeldom, hHere]
      dsimp only
      rw [if_neg (by simpa using hLast), run_one_cons hNext, if_pos hHolds]
      refine ih rfl hAll (by simp [Cursor.past]) (by simpa using hFuel) ?_
        (by rwa [Cursor.past_past])
      rintro l₁ y l₂ rfl
      rw [Cursor.past_past]
      exact hShort (x :: l₁) y l₂ rfl

/-- A reluctant repetition reads characters up to where what comes behind it is found for the first
time. -/
theorem run_few (hAfter : c.after = l ++ rest) (hSome : l ≠ [])
    (hAll : ∀ x ∈ l, set.holds x = true)
    (hShort : ∀ l₁ x l₂, l₁ ≠ [] → l = l₁ ++ x :: l₂ →
      k (c.past l₁ (x :: (l₂ ++ rest))) = none)
    (hFound : k (c.past l rest) = some d) : (Node.few set).run c k = some d := by
  obtain ⟨x, l, rfl⟩ := List.exists_cons_of_ne_nil hSome
  have hNext : c.after = x :: (l ++ rest) := hAfter
  obtain ⟨hHolds, hAll⟩ := List.forall_mem_cons.mp hAll
  have hFirst : (Node.few set).run c k = (Node.one set).run c fun c =>
      asSeldom (Node.one set).run (c.after.length + 2) none none c k := rfl
  rw [hFirst, run_one_cons hNext, if_pos hHolds]
  refine asSeldom_of_past rfl hAll (by simp) ?_ ?_ (by rwa [Cursor.past_past])
  · simp [Cursor.past]
    omega
  · rintro l₁ y l₂ rfl
    rw [Cursor.past_past]
    exact hShort (x :: l₁) y l₂ (by simp) rfl

end ScenarioRunner.Regex
