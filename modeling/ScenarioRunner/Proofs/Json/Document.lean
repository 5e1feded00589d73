import ScenarioRunner.Proofs.Json.Outcome

/-! Documents. What the strict reader takes is a document, and a document is read for its value by
both readers, unless an integer in it is too long. -/
namespace ScenarioRunner.Json

variable {fuel : Nat} {s : List Char}

/-! What the strict reader takes is spelled. -/

/-- What is skipped before a value is a gap. -/
theorem exists_gap (L : Layout) (mayOpen : Bool) (s : List Char) :
    ∃ gap, Gap L mayOpen gap ∧ s = gap ++ skipSpace s :=
  ⟨s.takeWhile isSpace, gap_of_isSpace fun _ hc => List.mem_takeWhile_imp hc,
    List.takeWhile_append_dropWhile.symm⟩

section

variable {α : Type} {bracket : Char} {x : α} {l : List α} {rest : List Char}
  {readMore : List Char → Except Refusal (List α × List Char)}

/-- A list or an object that is read is empty or has a first item, behind a gap. -/
theorem exists_of_readAll (h : readAll bracket readMore s = .ok (l, rest)) :
    ∃ gap, Gap standard false gap ∧
      (l = [] ∧ s = gap ++ ([bracket] ++ rest) ∨
        ∃ tail, s = gap ++ tail ∧ readMore tail = .ok (l, rest)) := by
  obtain ⟨gap, hGap, hs⟩ := exists_gap standard false s
  refine ⟨gap, hGap, ?_⟩
  unfold readAll at h
  split at h
  · rename_i hHead
    obtain ⟨tail, hTail⟩ := List.head?_eq_some_iff.mp hHead
    rw [hTail] at h hs
    cases h
    exact .inl ⟨rfl, hs⟩
  · exact .inr ⟨_, hs, h⟩

/-- Behind an item there is a bracket, or a comma and more items. -/
theorem exists_of_readOn (mayOpen : Bool) (h : readOn bracket x readMore s = .ok (l, rest)) :
    ∃ gap, Gap standard mayOpen gap ∧
      (l = [x] ∧ s = gap ++ ([bracket] ++ rest) ∨
        ∃ next tail more, Gap standard true next ∧ l = x :: more ∧ s = gap ++ ',' :: (next ++ tail) ∧
          readMore tail = .ok (more, rest)) := by
  obtain ⟨gap, hGap, hs⟩ := exists_gap standard mayOpen s
  refine ⟨gap, hGap, ?_⟩
  unfold readOn at h
  split at h
  · cases h
  · rename_i c after hSkip
    rw [hSkip] at hs
    split at h
    · rename_i hBracket
      cases h
      exact .inl ⟨rfl, by rw [hs, hBracket]; rfl⟩
    · split at h
      · rename_i hComma
        obtain ⟨⟨more, rest⟩, hMore, hEq⟩ := map_eq_ok_iff.mp h
        cases hEq
        obtain ⟨next, hNext, hAfter⟩ := exists_gap standard true after
        exact .inr ⟨next, _, more, hNext, rfl, by rw [hs, hComma, ← hAfter], hMore⟩
      · cases h

end

/-- A string that is read is spelled at the front, between its quotes. -/
theorem exists_of_readString {name : String} {rest : List Char}
    (h : readString true ('"' :: s) = .ok (name, rest)) :
    ∃ text, Atom (.str name) text ∧ '"' :: s = text ++ rest := by
  obtain ⟨⟨chars, after⟩, hChars, hEq⟩ := bind_eq_ok_iff.mp h
  cases hEq
  obtain ⟨raw, hRaw, hInside⟩ := inside_of_readChars hChars rfl
  rw [List.drop_one, List.tail_cons] at hRaw
  exact ⟨_, .string hInside, by rw [hRaw]; simp⟩

/-- A field that is read has a key, a colon and a value, with gaps between them. -/
theorem exists_of_readField {name : String} {v : Json} {rest : List Char}
    (h : readField true fuel s = .ok ((name, v), rest)) :
    ∃ key before after tail, Atom (.str name) key ∧ Gap standard false before ∧
      Gap standard false after ∧ s = key ++ (before ++ ':' :: (after ++ tail)) ∧
      readValue true fuel tail = .ok (v, rest) := by
  unfold readField at h
  split at h
  · obtain ⟨⟨name, behind⟩, hName, h⟩ := bind_eq_ok_iff.mp h
    obtain ⟨key, hKey, hs⟩ := exists_of_readString hName
    obtain ⟨before, hBefore, hBehind⟩ := exists_gap standard false behind
    simp only [readNamed] at h
    split at h
    · rename_i tail hColon
      obtain ⟨after, hAfter, hTail⟩ := exists_gap standard false tail
      obtain ⟨⟨v, rest⟩, hValue, hEq⟩ := map_eq_ok_iff.mp h
      cases hEq
      refine ⟨key, before, after, _, hKey, hBefore, hAfter, ?_, hValue⟩
      rw [hs, hBehind, hColon, ← hTail]
    · cases h
  · cases h

theorem writes_standard {v : Json} {text : List Char} (h : Atom v text) : standard.Writes v text :=
  ⟨h, trivial⟩

/-- What is read with the text `rest` left is spelled by what stands before it. -/
def Reading (part : Part) (s rest : List Char) : Prop :=
  ∃ text, s = text ++ rest ∧ Spelled standard part text

/-- A value that is read is spelled as one by the grammar, given that its parts are. -/
theorem reading_value (hItems : ∀ s l rest, readItems true fuel s = .ok (l, rest) →
      Reading (.items l) s rest)
    (hFields : ∀ s l rest, readFields true fuel s = .ok (l, rest) → Reading (.fields l) s rest)
    {v : Json} {rest : List Char} (h : readValue true (fuel + 1) s = .ok (v, rest)) :
    Reading (.value v) s rest := by
  cases s with
  | nil => cases h
  | cons c s =>
      by_cases hQuote : c = '"'
      · subst hQuote
        rw [readValue_string] at h
        obtain ⟨⟨name, behind⟩, hName, hEq⟩ := map_eq_ok_iff.mp h
        cases hEq
        obtain ⟨text, hText, hs⟩ := exists_of_readString hName
        exact ⟨text, hs, .atom (writes_standard hText)⟩
      by_cases hBrace : c = '\x7b'
      · subst hBrace
        rw [readValue_object] at h
        obtain ⟨⟨fields, behind⟩, hRead, hEq⟩ := map_eq_ok_iff.mp h
        cases hEq
        obtain ⟨gap, hGap, ⟨rfl, rfl⟩ | ⟨tail, rfl, hMore⟩⟩ := exists_of_readAll hRead
        · exact ⟨_, by simp, .emptyObject hGap .bracket⟩
        · obtain ⟨text, rfl, hText⟩ := hFields _ _ _ hMore
          exact ⟨_, by simp, .object hGap hText⟩
      by_cases hBracket : c = '['
      · subst hBracket
        rw [readValue_list] at h
        obtain ⟨⟨items, behind⟩, hRead, hEq⟩ := map_eq_ok_iff.mp h
        cases hEq
        obtain ⟨gap, hGap, ⟨rfl, rfl⟩ | ⟨tail, rfl, hMore⟩⟩ := exists_of_readAll hRead
        · exact ⟨_, by simp, .emptyList hGap .bracket⟩
        · obtain ⟨text, rfl, hText⟩ := hItems _ _ _ hMore
          exact ⟨_, by simp, .list hGap hText⟩
      rw [readValue_other hQuote hBrace hBracket] at h
      cases hWord : readWord? (c :: s) with
      | some reading =>
          rw [hWord] at h
          cases h
          obtain ⟨text, hMem, hs⟩ := mem_words_of_readWord? hWord
          exact ⟨text, hs, .atom (writes_standard (.word hMem))⟩
      | none =>
          rw [hWord] at h
          obtain ⟨text, hText, hs⟩ := atom_of_readNumber h
          exact ⟨text, hs, .atom (writes_standard hText)⟩

theorem reading_parts :
    (∀ s v rest, readValue true fuel s = .ok (v, rest) → Reading (.value v) s rest) ∧
      (∀ s l rest, readItems true fuel s = .ok (l, rest) → Reading (.items l) s rest) ∧
      ∀ s l rest, readFields true fuel s = .ok (l, rest) → Reading (.fields l) s rest := by
  induction fuel with
  | zero =>
      refine ⟨?_, ?_, ?_⟩ <;> intro s x rest h <;> cases h
  | succ fuel ih =>
      obtain ⟨ihValue, ihItems, ihFields⟩ := ih
      refine ⟨?_, ?_, ?_⟩
      · intro s v rest h
        exact reading_value ihItems ihFields h
      · intro s l rest h
        rw [readItems_succ] at h
        obtain ⟨⟨v, behind⟩, hValue, hOn⟩ := bind_eq_ok_iff.mp h
        obtain ⟨text, rfl, hText⟩ := ihValue _ _ _ hValue
        obtain ⟨gap, hGap, ⟨rfl, rfl⟩ | ⟨next, tail, more, hNext, rfl, rfl, hMore⟩⟩ :=
          exists_of_readOn (closes v) hOn
        · exact ⟨_, by simp, .lastItem hText hGap .bracket⟩
        · obtain ⟨after, rfl, hAfter⟩ := ihItems _ _ _ hMore
          exact ⟨_, by simp, .item hText hGap hNext hAfter⟩
      · intro s l rest h
        rw [readFields_succ] at h
        obtain ⟨⟨⟨name, v⟩, behind⟩, hField, hOn⟩ := bind_eq_ok_iff.mp h
        obtain ⟨key, before, space, after, hKey, hBefore, hSpace, rfl, hValue⟩ :=
          exists_of_readField hField
        obtain ⟨text, rfl, hText⟩ := ihValue _ _ _ hValue
        obtain ⟨gap, hGap, ⟨rfl, rfl⟩ | ⟨next, tail, more, hNext, rfl, rfl, hMore⟩⟩ :=
          exists_of_readOn (closes v) hOn
        · exact ⟨_, by simp, .lastField (writes_standard hKey) hBefore hSpace hText hGap .bracket⟩
        · obtain ⟨after, rfl, hAfter⟩ := ihFields _ _ _ hMore
          exact ⟨_, by simp, .field (writes_standard hKey) hBefore hSpace hText hGap hNext hAfter⟩

/-! Documents. -/

section

variable {L : Layout} {strict : Bool} {v : Json} {before text after rest : List Char}

/-- A value is all of a document when only blank space is left. -/
def endWith (v : Json) (rest : List Char) : Except Refusal Json :=
  match skipSpace rest with
  | [] => .ok v
  | rest => refuse .extraData rest

/-- A text that starts with a value behind blank space is read from the value on. -/
theorem readDocument_append (hBefore : ∀ c ∈ before, isSpace c = true)
    (hText : StartsWith startsValue text) :
    readDocument strict (before ++ text) =
      readValue strict (2 * text.length + 2) text >>= fun x => endWith x.1 x.2 := by
  obtain ⟨c, tail, rfl, hc⟩ := hText
  have hSkip : skipSpace (before ++ c :: tail) = c :: tail := by
    rw [skipSpace_append hBefore,
      skipSpace_cons (isSpace_eq_false (isBlank_eq_false_of_startsValue hc))]
  have hNoMark : ∀ s, before ++ c :: tail = '\ufeff' :: s → False := by
    intro s hEq
    cases before with
    | nil =>
        cases hEq
        cases hc
    | cons d before =>
        cases hEq
        cases hBefore _ List.mem_cons_self
  rw [readDocument]
  · simp only [hSkip]
    rfl
  · exact hNoMark

/-- A value is read the same by both readers and with any blank space around it. -/
theorem Spelled.outcome {ι : Type} {strict : ι → Bool} {before after : ι → List Char}
    (h : Spelled L (.value v) text) (hBefore : ∀ i, ∀ c ∈ before i, isSpace c = true)
    (hAfter : ∀ i, ∀ c ∈ after i, isSpace c = true) :
    Outcome L (fun _ => v) fun i => readDocument (strict i) (before i ++ (text ++ after i)) := by
  have hFollows : ∀ i, Follows (after i) := by
    intro i c hc
    have hSpace := hAfter i c (List.mem_of_mem_head? hc)
    rcases isSpace_iff.mp hSpace with rfl | rfl | rfl | rfl <;> rfl
  have hSkip : ∀ i, skipSpace (after i) = [] := fun i => List.dropWhile_eq_nil_iff.mpr (hAfter i)
  have hValue : Outcome L (fun i => (v, after i)) fun i =>
      readValue (strict i) (2 * (text ++ after i).length + 2) (text ++ after i) := by
    refine h.reads (fun i => ?_) (.inr hFollows)
    simp only [List.length_append]
    omega
  refine (hValue.bind (f := fun _ x => endWith x.1 x.2) ?_).congr fun i => ?_
  · refine outcome_ok fun i => ?_
    simp only [endWith, hSkip]
  · rw [readDocument_append (hBefore i) (h.startsWith.append (after i))]

/-- Behind a list or an object more may stand, for which the text is refused. -/
theorem Spelled.ok_or_refused (h : Spelled L (.value v) text) (hShort : L.Short)
    (hCloses : closes v = true) (rest : List Char) :
    readDocument strict (text ++ rest) = .ok v ∨ Refused (readDocument strict (text ++ rest)) := by
  obtain ⟨fate, hReason, hTells⟩ : Outcome L (fun _ : Unit => (v, rest)) fun _ =>
      readValue strict (2 * (text ++ rest).length + 2) (text ++ rest) := by
    refine h.reads (fun _ => ?_) (.inl hCloses)
    simp only [List.length_append]
    omega
  have hTell := hTells ()
  rw [← List.nil_append (text ++ rest), readDocument_append (by simp) (h.startsWith.append rest)]
  cases fate with
  | read =>
      rw [show readValue strict _ (text ++ rest) = .ok (v, rest) from hTell]
      show endWith v rest = .ok v ∨ Refused (endWith v rest)
      unfold endWith
      split
      · exact .inl rfl
      · exact .inr (refused_refuse _ _)
  | tooLong digits => exact (hReason.2 hShort).elim
  | refused => exact .inr (Refused.bind hTell _)

/-- A value in a layout with nothing beyond the standard is read, if its integers are short. -/
theorem Spelled.readDocument_eq (h : Spelled L (.value v) text) (hPlain : L.Plain)
    (hShort : L.Short) : readDocument strict text = .ok v := by
  obtain ⟨fate, hReason, hTells⟩ : Outcome L (fun _ : Unit => v) fun _ =>
      readDocument strict ([] ++ (text ++ [])) :=
    h.outcome (fun _ => by simp) fun _ => by simp
  have hTell := hTells ()
  rw [List.nil_append, List.append_nil] at hTell
  cases fate with
  | read => exact hTell
  | tooLong digits => exact (hReason.2 hShort).elim
  | refused => exact absurd hPlain hReason

/-- A text that starts with no blank and with no value is refused. -/
theorem readDocument_refused {c : Char} (hSpace : isSpace c = false) (hc : startsValue c = false) :
    Refused (readDocument strict (c :: rest)) := by
  unfold readDocument
  split
  · exact refused_refuse _ _
  · rw [skipSpace_cons hSpace]
    exact (readValue_refused hc).bind _

end

/-- A trimmed document is the text of its value. -/
theorem Document.exists_trim {v : Json} (h : Document v s) :
    Spelled standard (.value v) (Text.trim s) ∧
      ∃ before after, s = before ++ (Text.trim s ++ after) ∧
        (∀ c ∈ before, isSpace c = true) ∧ ∀ c ∈ after, isSpace c = true := by
  obtain ⟨hBefore, hText, hAfter⟩ := h
  rename_i before text after
  have hTrim : Text.trim (before ++ (text ++ after)) = text := by
    have hFront := List.dropWhile_eq_nil_iff.mpr fun c hc => isBlank_of_isSpace (hBefore c hc)
    have hEnd := Text.trimEnd_eq_nil fun c hc => isBlank_of_isSpace (hAfter c hc)
    rw [hText.trim_append, hFront, hEnd, List.nil_append, List.append_nil]
  rw [hTrim]
  exact ⟨hText, before, after, rfl, hBefore, hAfter⟩

/-- A document is read for its value, unless an integer in it has more digits than are read. Which
it is does not hang on the reader, nor on the blank space around the value. -/
theorem Document.outcome {v : Json} (h : Document v s) :
    (∀ strict, readDocument strict s = .ok v ∧ readDocument strict (Text.trim s) = .ok v) ∨
      ∃ digits, Numeral.maxDigits < digits ∧ ∀ strict,
        readDocument strict s = .error (.longInteger digits) ∧
          readDocument strict (Text.trim s) = .error (.longInteger digits) := by
  obtain ⟨hText, before, after, hs, hBefore, hAfter⟩ := h.exists_trim
  obtain ⟨fate, hReason, hTells⟩ : Outcome standard (fun _ : Bool × Bool => v) fun i =>
      readDocument i.1 ((if i.2 then before else []) ++
        (Text.trim s ++ if i.2 then after else [])) := by
    apply hText.outcome
    · intro i c hc
      split at hc
      · exact hBefore c hc
      · cases hc
    · intro i c hc
      split at hc
      · exact hAfter c hc
      · cases hc
  have hWhole : ∀ strict, fate.Tells v (readDocument strict s) := by
    intro strict
    have hTell := hTells (strict, true)
    simp only [if_true] at hTell
    rwa [← hs] at hTell
  have hTrimmed : ∀ strict, fate.Tells v (readDocument strict (Text.trim s)) := by
    intro strict
    simpa using hTells (strict, false)
  cases fate with
  | read => exact .inl fun strict => ⟨hWhole strict, hTrimmed strict⟩
  | tooLong digits => exact .inr ⟨digits, hReason.1, fun strict => ⟨hWhole strict, hTrimmed strict⟩⟩
  | refused => exact absurd ⟨rfl, rfl⟩ hReason

/-- What the strict reader takes is a document. -/
theorem document_of_readDocument {v : Json} (h : readDocument true s = .ok v) : Document v s := by
  unfold readDocument at h
  split at h
  · cases h
  · obtain ⟨⟨value, rest⟩, hValue, hEnd⟩ := bind_eq_ok_iff.mp h
    obtain ⟨text, hs, hText⟩ := reading_parts.1 _ _ _ hValue
    simp only at hEnd
    split at hEnd
    · rename_i hRest
      cases hEnd
      have hBlank := fun c (hc : c ∈ s.takeWhile isSpace) => List.mem_takeWhile_imp hc
      have hDocument := Document.spelled hBlank hText fun c hc =>
        List.dropWhile_eq_nil_iff.mp hRest c hc
      rwa [← hs, skipSpace, List.takeWhile_append_dropWhile] at hDocument
    · cases hEnd

end ScenarioRunner.Json
