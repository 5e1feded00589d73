import ScenarioRunner.Proofs.Json.Atom

/-! The reader of values takes just the texts that the grammar gives them. -/
namespace ScenarioRunner.Json

variable {L : Layout} {strict : Bool} {fuel : Nat} {rest : List Char}

/-! The reader step by step. Lists and objects are read alike. -/

/-- Spaces are skipped together. -/
theorem skipSpace_append {gap s : List Char} (h : ∀ c ∈ gap, isSpace c = true) :
    skipSpace (gap ++ s) = skipSpace s :=
  List.dropWhile_append_of_pos h

theorem skipSpace_cons {c : Char} {s : List Char} (h : isSpace c = false) :
    skipSpace (c :: s) = c :: s :=
  List.dropWhile_cons_of_neg (by simp [h])

/-- What stands between brackets, from behind the opening one: nothing, or entries. -/
def readAll {α : Type} (bracket : Char)
    (readMore : List Char → Except Refusal (List α × List Char)) (s : List Char) :
    Except Refusal (List α × List Char) :=
  if (skipSpace s).head? = some bracket then .ok ([], (skipSpace s).tail) else readMore (skipSpace s)

/-- What follows on an entry: the closing bracket, or a comma and more entries. -/
def readOn {α : Type} (bracket : Char) (x : α)
    (readMore : List Char → Except Refusal (List α × List Char)) (s : List Char) :
    Except Refusal (List α × List Char) :=
  match skipSpace s with
  | [] => refuse .expectingComma []
  | c :: rest =>
    if c = bracket then .ok ([x], rest)
    else if c = ',' then (readMore (skipSpace rest)).map fun (more, rest) => (x :: more, rest)
    else refuse .expectingComma (c :: rest)

section

variable {α : Type} {bracket : Char} {x : α} {s after : List Char}
  {readMore : List Char → Except Refusal (List α × List Char)}

/-- A closing bracket ends a list without items. -/
theorem readAll_none (h : skipSpace s = bracket :: after) :
    readAll bracket readMore s = .ok ([], after) := by
  simp [readAll, h]

/-- Anything else than the bracket starts an item. -/
theorem readAll_some {c : Char} (hBracket : c ≠ bracket) (h : skipSpace s = c :: after) :
    readAll bracket readMore s = readMore (c :: after) := by
  simp [readAll, h, hBracket]

theorem readOn_close (h : skipSpace s = bracket :: after) :
    readOn bracket x readMore s = .ok ([x], after) := by
  simp [readOn, h]

/-- A comma leads to more items. -/
theorem readOn_comma (hBracket : bracket ≠ ',') (h : skipSpace s = ',' :: after) :
    readOn bracket x readMore s =
      (readMore (skipSpace after)).map fun (more, rest) => (x :: more, rest) := by
  simp [readOn, h, hBracket.symm]

/-- Anything else than a bracket or a comma is refused. -/
theorem readOn_other (hClose : ∀ after, skipSpace s ≠ bracket :: after)
    (hComma : ∀ after, skipSpace s ≠ ',' :: after) :
    readOn bracket x readMore s = refuse .expectingComma (skipSpace s) := by
  unfold readOn
  split
  · rename_i hSkip
    rw [hSkip]
  · rename_i c after hSkip
    rw [if_neg, if_neg, hSkip]
    · rintro rfl
      exact hComma after hSkip
    · rintro rfl
      exact hClose after hSkip

end

/-- A field of an object, from behind its name. -/
def readNamed (strict : Bool) (fuel : Nat) (name : String) (s : List Char) :
    Except Refusal ((String × Json) × List Char) :=
  match skipSpace s with
  | ':' :: rest => (readValue strict fuel (skipSpace rest)).map fun (v, rest) => ((name, v), rest)
  | rest => refuse .expectingColon rest

/-- Behind the colon stands the value of a field. -/
theorem readNamed_colon {name : String} {s after : List Char} (h : skipSpace s = ':' :: after) :
    readNamed strict fuel name s =
      (readValue strict fuel (skipSpace after)).map fun (v, rest) => ((name, v), rest) := by
  simp [readNamed, h]

theorem readNamed_other {name : String} {s : List Char} (h : ∀ after, skipSpace s ≠ ':' :: after) :
    readNamed strict fuel name s = refuse .expectingColon (skipSpace s) := by
  unfold readNamed
  split
  · rename_i after hSkip
    exact absurd hSkip (h after)
  · rfl

def readField (strict : Bool) (fuel : Nat) (s : List Char) :
    Except Refusal ((String × Json) × List Char) :=
  match s with
  | '"' :: _ => do
    let (name, rest) ← readString strict s
    readNamed strict fuel name rest
  | s => refuse .expectingName s

theorem readValue_string {s : List Char} :
    readValue strict (fuel + 1) ('"' :: s) =
      (readString strict ('"' :: s)).map fun (s, rest) => (.str s, rest) := rfl

/-- An opening bracket starts a list. -/
theorem readValue_list {s : List Char} :
    readValue strict (fuel + 1) ('[' :: s) =
      (readAll ']' (readItems strict fuel) s).map fun (items, rest) => (.arr items, rest) := by
  rw [readValue, if_neg (by decide), if_neg (by decide), if_pos (by decide), readAll]
  split
  · rename_i hSkip
    simp [hSkip, Except.map]
  · rename_i hSkip
    rw [if_neg (fun hHead => ?_)]
    · cases readItems strict fuel (skipSpace s) <;> rfl
    · obtain ⟨tail, hTail⟩ := List.head?_eq_some_iff.mp hHead
      exact hSkip tail hTail

/-- An opening brace starts an object. -/
theorem readValue_object {s : List Char} :
    readValue strict (fuel + 1) ('\x7b' :: s) =
      (readAll '\x7d' (readFields strict fuel) s).map fun (fields, rest) =>
        (.obj (Assoc.ofPairs fields), rest) := by
  rw [readValue, if_neg (by decide), if_pos (by decide), readAll]
  split
  · rename_i hSkip
    simp [hSkip, Except.map, Assoc.ofPairs, Assoc.override]
  · rename_i hSkip
    rw [if_neg (fun hHead => ?_)]
    · cases readFields strict fuel (skipSpace s) <;> rfl
    · obtain ⟨tail, hTail⟩ := List.head?_eq_some_iff.mp hHead
      exact hSkip tail hTail

/-- Anything else is a constant or a number. -/
theorem readValue_other {c : Char} {s : List Char} (hQuote : c ≠ '"') (hBrace : c ≠ '\x7b')
    (hBracket : c ≠ '[') :
    readValue strict (fuel + 1) (c :: s) = (readWord? (c :: s)).elim (readNumber (c :: s)) .ok := by
  rw [readValue, if_neg (by simpa using hQuote), if_neg (by simpa using hBrace),
    if_neg (by simpa using hBracket)]
  cases readWord? (c :: s) <;> rfl

/-- Items are a value, and more of them behind a comma. -/
theorem readItems_succ {s : List Char} :
    readItems strict (fuel + 1) s =
      readValue strict fuel s >>= fun (v, rest) => readOn ']' v (readItems strict fuel) rest := by
  rw [readItems]
  congr 1
  funext ⟨v, rest⟩
  dsimp only
  split
  · rename_i hSkip
    rw [readOn_close hSkip]
    rfl
  · rename_i after hSkip
    rw [readOn_comma (by decide) hSkip]
    cases readItems strict fuel (skipSpace after) <;> rfl
  · rename_i hClose hComma
    rw [readOn_other hClose hComma]

/-- Fields are a name with a value, and more of them behind a comma. -/
theorem readFields_succ {s : List Char} :
    readFields strict (fuel + 1) s =
      readField strict fuel s >>= fun (x, rest) => readOn '\x7d' x (readFields strict fuel) rest := by
  by_cases hQuote : ∃ tail, s = '"' :: tail
  · obtain ⟨tail, rfl⟩ := hQuote
    rw [readFields, readField]
    cases hName : readString strict ('"' :: tail) with
    | error refusal => rfl
    | ok name =>
        obtain ⟨name, rest⟩ := name
        dsimp only [bind, Except.bind]
        split
        · rename_i after hSkip
          rw [readNamed_colon hSkip]
          cases hValue : readValue strict fuel (skipSpace after) with
          | error refusal => rfl
          | ok value =>
              obtain ⟨v, rest⟩ := value
              dsimp only [Except.map]
              split
              · rename_i hSkip
                rw [readOn_close hSkip]
                rfl
              · rename_i after hSkip
                rw [readOn_comma (by decide) hSkip]
                cases readFields strict fuel (skipSpace after) <;> rfl
              · rename_i hClose hComma
                rw [readOn_other hClose hComma]
        · rename_i hColon
          rw [readNamed_other hColon]
          rfl
  · have hNoQuote : ∀ tail, s = '"' :: tail → False := fun tail hEq => hQuote ⟨tail, hEq⟩
    rw [readFields, readField]
    · rfl
    all_goals exact hNoQuote

/-! Texts that are refused for how they are written. -/

def Refused {α : Type} (r : Except Refusal α) : Prop :=
  ∃ complaint left, r = .error (.badText complaint left)

theorem refused_refuse {α : Type} (complaint : Complaint) (rest : List Char) :
    Refused (refuse complaint rest : Except Refusal α) := ⟨complaint, rest.length, rfl⟩

theorem Refused.bind {α β : Type} {r : Except Refusal α} (h : Refused r)
    (f : α → Except Refusal β) : Refused (r >>= f) := by
  obtain ⟨complaint, left, rfl⟩ := h
  exact ⟨complaint, left, rfl⟩

theorem Refused.map {α β : Type} {r : Except Refusal α} (h : Refused r) (f : α → β) :
    Refused (r.map f) := by
  obtain ⟨complaint, left, rfl⟩ := h
  exact ⟨complaint, left, rfl⟩

/-- Where no value starts, none is read. -/
theorem readValue_refused {c : Char} {s : List Char} (h : startsValue c = false) :
    Refused (readValue strict fuel (c :: s)) := by
  cases fuel with
  | zero => exact refused_refuse _ _
  | succ fuel =>
      have hStarts : ∀ d, startsValue d = true → c ≠ d := by
        rintro d hd rfl
        simp [hd] at h
      have hNoWord : readWord? (c :: s) = none := by
        apply readWord?_eq_none
        intro hMem
        simp only [List.mem_cons, List.not_mem_nil, or_false] at hMem
        rcases hMem with rfl | rfl | rfl | rfl | rfl | rfl <;> cases h
      have hNoDigit : isAsciiDigit c = false := by
        simp only [startsValue, Bool.or_eq_false_iff] at h
        exact h.1
      rw [readValue_other (hStarts _ rfl) (hStarts _ rfl) (hStarts _ rfl), hNoWord]
      show Refused (readNumber (c :: s))
      rw [readNumber_eq_refuse (hStarts '-' rfl) hNoDigit]
      exact refused_refuse _ _

/-- Items do not start with a character that starts no value. -/
theorem readItems_refused {c : Char} {s : List Char} (h : startsValue c = false) :
    Refused (readItems strict fuel (c :: s)) := by
  cases fuel with
  | zero => exact refused_refuse _ _
  | succ fuel =>
      rw [readItems_succ]
      exact (readValue_refused h).bind _

theorem readField_refused {c : Char} {s : List Char} (h : c ≠ '"') :
    Refused (readField strict fuel (c :: s)) := by
  rw [readField]
  · exact refused_refuse _ _
  · intro tail hEq
    cases hEq
    exact h rfl

/-- Fields do not start with anything but a string, so not with a character that starts no value. -/
theorem readFields_refused {c : Char} {s : List Char} (h : startsValue c = false) :
    Refused (readFields strict fuel (c :: s)) := by
  cases fuel with
  | zero => exact refused_refuse _ _
  | succ fuel =>
      rw [readFields_succ]
      apply Refused.bind
      apply readField_refused
      rintro rfl
      cases h

end ScenarioRunner.Json
