import ScenarioRunner.Proofs.Except
import ScenarioRunner.Proofs.Json.Reading

/-! What comes of reading a spelled text. It is read for what it spells, unless the layout gives a
reason to refuse it; and whichever it is, it is the same for both readers, with any fuel that is
enough, and whatever stands behind the text. -/
namespace ScenarioRunner.Json

variable {L : Layout} {ι : Type}

/-! Fates. -/

def Layout.Short (L : Layout) : Prop :=
  ∀ (negative : Bool) (whole : List Char), IsWhole whole →
    L.admits (.int (signed negative (naturalOf whole))) (minus negative ++ whole) →
    whole.length ≤ Numeral.maxDigits

/-- The layout has nothing beyond the standard. -/
def Layout.Plain (L : Layout) : Prop := L.comments = false ∧ L.trailing = false

/-- What may come of a text: it is read, or refused for an integer in it or for how it is
written. -/
inductive Fate
  | read
  | tooLong (digits : Nat)
  | refused

/-- The result is what the fate says, where `x` is the right one. -/
def Fate.Tells {α : Type} (x : α) (r : Except Refusal α) : Fate → Prop
  | .read => r = .ok x
  | .tooLong digits => r = .error (.longInteger digits)
  | .refused => Refused r

/-- The layout gives a reason for the fate. -/
def Layout.Explains (L : Layout) : Fate → Prop
  | .read => True
  | .tooLong digits => Numeral.maxDigits < digits ∧ ¬ L.Short
  | .refused => ¬ L.Plain

/-- All these results are told by one fate. -/
def Outcome (L : Layout) {α : Type} (x : ι → α) (r : ι → Except Refusal α) : Prop :=
  ∃ fate : Fate, L.Explains fate ∧ ∀ i, fate.Tells (x i) (r i)

section

variable {α β : Type} {x : ι → α} {y : ι → β} {r : ι → Except Refusal α}

theorem outcome_ok (h : ∀ i, r i = .ok (x i)) : Outcome L x r := ⟨.read, trivial, h⟩

/-- Where the layout is not plain a reader may refuse. -/
theorem outcome_refused (hPlain : ¬ L.Plain) (h : ∀ i, Refused (r i)) : Outcome L x r :=
  ⟨.refused, hPlain, h⟩

theorem Outcome.congr {r' : ι → Except Refusal α} (h : Outcome L x r) (hEq : ∀ i, r' i = r i) :
    Outcome L x r' := by
  rwa [show r' = r from funext hEq]

/-- Readers that come one after another have an outcome if each has. -/
theorem Outcome.bind {f : ι → α → Except Refusal β} (h : Outcome L x r)
    (hNext : Outcome L y fun i => f i (x i)) : Outcome L y fun i => r i >>= f i := by
  obtain ⟨fate, hReason, hTells⟩ := h
  cases fate with
  | read =>
      refine hNext.congr fun i => ?_
      rw [show r i = .ok (x i) from hTells i]
      rfl
  | tooLong digits =>
      refine ⟨.tooLong digits, hReason, fun i => ?_⟩
      have hFail : r i = .error (.longInteger digits) := hTells i
      show (r i >>= f i) = _
      rw [hFail]
      rfl
  | refused => exact ⟨.refused, hReason, fun i => (hTells i).bind _⟩

theorem Outcome.map (h : Outcome L x r) (f : α → β) :
    Outcome L (fun i => f (x i)) fun i => (r i).map f := by
  obtain ⟨fate, hReason, hTells⟩ := h
  refine ⟨fate, hReason, fun i => ?_⟩
  have hTell := hTells i
  cases fate with
  | read => exact map_eq_ok_iff.mpr ⟨x i, hTell, rfl⟩
  | tooLong digits =>
      have hFail : r i = .error (.longInteger digits) := hTell
      show (r i).map f = _
      rw [hFail]
      rfl
  | refused => exact Refused.map hTell f

end

theorem Outcome.mapFst {α β : Type} {x : α} {rest : ι → List Char}
    {r : ι → Except Refusal (α × List Char)} (h : Outcome L (fun i => (x, rest i)) r) (f : α → β) :
    Outcome L (fun i => (f x, rest i)) fun i => (r i).map fun (x, rest) => (f x, rest) :=
  h.map fun (x, rest) => (f x, rest)

/-! Gaps. -/

/-- Behind a gap comes the next token, or else a comment. -/
theorem Gap.skip {mayOpen : Bool} {gap : List Char} (h : Gap L mayOpen gap) :
    (∀ c s, isSpace c = false → skipSpace (gap ++ c :: s) = c :: s) ∨
      ¬ L.Plain ∧ ∃ after, ∀ s, skipSpace (gap ++ s) = '/' :: (after ++ s) := by
  induction h with
  | nil => exact .inl fun c s hc => skipSpace_cons hc
  | space hSpace hRest ih =>
      rename_i c gap
      have hDrop : ∀ s, skipSpace (c :: gap ++ s) = skipSpace (gap ++ s) :=
        fun s => List.dropWhile_cons_of_pos hSpace
      rcases ih with hToken | ⟨hPlain, after, hSkip⟩
      · exact .inl fun d s hd => (hDrop _).trans (hToken d s hd)
      · exact .inr ⟨hPlain, after, fun s => (hDrop s).trans (hSkip s)⟩
  | comment hComments hText hRest ih =>
      exact .inr ⟨fun hPlain => by simp [hPlain.1] at hComments, _, fun s => skipSpace_cons rfl⟩

/-- A gap, and what may follow it, may follow a number. -/
theorem Gap.follows {mayOpen : Bool} {gap s : List Char} (h : Gap L mayOpen gap)
    (hNext : Follows s) : Follows (gap ++ s) := by
  cases h with
  | nil => exact hNext
  | space hSpace hRest =>
      intro c hc
      cases hc
      rcases isSpace_iff.mp hSpace with rfl | rfl | rfl | rfl <;> rfl
  | comment hComments hText hRest =>
      intro c hc
      cases hc
      rfl

theorem isSpace_of_isClosing {c : Char} (h : isClosing c = true) : isSpace c = false := by
  rcases isClosing_iff.mp h with rfl | rfl <;> rfl

theorem startsValue_of_isClosing {c : Char} (h : isClosing c = true) : startsValue c = false := by
  rcases isClosing_iff.mp h with rfl | rfl <;> rfl

/-- What closes a list or an object may follow a number. -/
theorem Closing.follows {bracket : Char} {last rest : List Char} (h : Closing L bracket last)
    (hBracket : isClosing bracket = true) : Follows (last ++ rest) := by
  intro c hc
  cases h with
  | bracket =>
      cases hc
      rcases isClosing_iff.mp hBracket with rfl | rfl <;> rfl
  | comma hTrailing hGap =>
      cases hc
      rfl

theorem Closing.length_pos {bracket : Char} {last : List Char} (h : Closing L bracket last) :
    0 < last.length := by
  cases h <;> exact Nat.succ_pos _

theorem follows_comma {s : List Char} : Follows (',' :: s) := by
  intro c hc
  cases hc
  rfl

/-- A comma before a closing bracket is not plain. -/
theorem Closing.not_plain_of_comma {bracket : Char} {behind : List Char}
    (h : Closing L bracket (',' :: behind)) (hBracket : isClosing bracket = true) : ¬ L.Plain := by
  rintro ⟨-, hTrailing⟩
  cases h with
  | bracket => cases hBracket
  | comma hComma hGap => simp [hTrailing] at hComma

/-- What is read at the start of a text is read behind a gap as well, unless a comment stands in
the gap. -/
theorem Gap.outcome_skip {α : Type} {x : ι → α} {mayOpen : Bool} {gap text : List Char}
    {rest : ι → List Char} {read : ι → List Char → Except Refusal α} (hGap : Gap L mayOpen gap)
    (hText : StartsWith startsValue text) (hRead : Outcome L x fun i => read i (text ++ rest i))
    (hRefused : ∀ i c s, startsValue c = false → Refused (read i (c :: s))) :
    Outcome L x fun i => read i (skipSpace (gap ++ (text ++ rest i))) := by
  obtain ⟨c, tail, rfl, hc⟩ := hText
  rcases hGap.skip with hToken | ⟨hPlain, after, hSkip⟩
  · refine hRead.congr fun i => ?_
    rw [List.cons_append, hToken c _ (isSpace_eq_false (isBlank_eq_false_of_startsValue hc))]
  · refine outcome_refused hPlain fun i => ?_
    rw [hSkip]
    exact hRefused i _ _ rfl

/-! Entries of lists and objects. -/

section

variable {α : Type} {bracket : Char} {x : α} {l : List α} {gap next last text : List Char}
  {mayOpen : Bool} {rest : ι → List Char}
  {readMore : ι → List Char → Except Refusal (List α × List Char)}

theorem ne_of_isClosing {c : Char} (hc : isClosing c = false)
    (hBracket : isClosing bracket = true) : c ≠ bracket := by
  rintro rfl
  simp [hBracket] at hc

/-- Anything else than the bracket or a comma is refused behind an item. -/
theorem refused_readOn {c : Char} {s after : List Char}
    {readMore : List Char → Except Refusal (List α × List Char)} (hSkip : skipSpace s = c :: after)
    (hBracket : c ≠ bracket) (hComma : c ≠ ',') : Refused (readOn bracket x readMore s) := by
  rw [readOn_other]
  · exact refused_refuse _ _
  · simp [hSkip, hBracket]
  · simp [hSkip, hComma]

variable (hBracket : isClosing bracket = true)
  (hRefused : ∀ i c s, startsValue c = false → Refused (readMore i (c :: s)))

include hRefused hBracket

/-- An empty list is read off its brackets, or refused for a trailing comma. -/
theorem outcome_none (hGap : Gap L mayOpen gap) (hLast : Closing L bracket last) :
    Outcome L (fun i => ([], rest i))
      fun i => readAll bracket (readMore i) (gap ++ (last ++ rest i)) := by
  cases hLast with
  | bracket =>
      rcases hGap.skip with hToken | ⟨hPlain, after, hSkip⟩
      · exact outcome_ok fun i =>
          readAll_none (hToken bracket (rest i) (isSpace_of_isClosing hBracket))
      · refine outcome_refused hPlain fun i => ?_
        rw [readAll_some (ne_of_isClosing rfl hBracket) (hSkip _)]
        exact hRefused i _ _ rfl
  | comma hTrailing hBehind =>
      apply outcome_refused (Closing.comma hTrailing hBehind |>.not_plain_of_comma hBracket)
      intro i
      rcases hGap.skip with hToken | ⟨-, after, hSkip⟩
      · rw [List.cons_append, readAll_some (ne_of_isClosing rfl hBracket) (hToken ',' _ rfl)]
        exact hRefused i _ _ rfl
      · rw [readAll_some (ne_of_isClosing rfl hBracket) (hSkip _)]
        exact hRefused i _ _ rfl

/-- The items of a list are read behind the gap at its front. -/
theorem outcome_some (hGap : Gap L mayOpen gap) (hText : StartsWith startsValue text)
    (hMore : Outcome L (fun i => (l, rest i)) fun i => readMore i (text ++ rest i)) :
    Outcome L (fun i => (l, rest i))
      fun i => readAll bracket (readMore i) (gap ++ (text ++ rest i)) := by
  have hSkip := hGap.outcome_skip hText hMore hRefused
  refine hSkip.congr fun i => ?_
  rw [readAll, if_neg]
  intro hHead
  obtain ⟨c, tail, rfl, hc⟩ := hText
  rcases hGap.skip with hToken | ⟨-, after, hFirst⟩
  · rw [List.cons_append, hToken c _ (isSpace_eq_false (isBlank_eq_false_of_startsValue hc))]
      at hHead
    cases hHead
    simp [startsValue_of_isClosing hBracket] at hc
  · rw [hFirst] at hHead
    cases hHead
    cases hBracket

/-- Behind the last item the list is closed. -/
theorem outcome_last (hGap : Gap L mayOpen gap) (hLast : Closing L bracket last) :
    Outcome L (fun i => ([x], rest i))
      fun i => readOn bracket x (readMore i) (gap ++ (last ++ rest i)) := by
  cases hLast with
  | bracket =>
      rcases hGap.skip with hToken | ⟨hPlain, after, hSkip⟩
      · exact outcome_ok fun i =>
          readOn_close (hToken bracket (rest i) (isSpace_of_isClosing hBracket))
      · exact outcome_refused hPlain fun i =>
          refused_readOn (hSkip _) (ne_of_isClosing rfl hBracket) (by decide)
  | comma hTrailing hBehind =>
      apply outcome_refused (Closing.comma hTrailing hBehind |>.not_plain_of_comma hBracket)
      intro i
      rw [List.cons_append, List.append_assoc]
      rcases hGap.skip with hToken | ⟨-, after, hSkip⟩
      · rw [readOn_comma (ne_of_isClosing rfl hBracket).symm (hToken ',' _ rfl)]
        apply Refused.map
        rcases hBehind.skip with hNext | ⟨-, after, hNext⟩
        · rw [List.singleton_append, hNext bracket _ (isSpace_of_isClosing hBracket)]
          exact hRefused i _ _ (startsValue_of_isClosing hBracket)
        · rw [hNext]
          exact hRefused i _ _ rfl
      · exact refused_readOn (hSkip _) (ne_of_isClosing rfl hBracket) (by decide)

/-- Behind each other item a comma leads to the rest of the list. -/
theorem outcome_more (hGap : Gap L mayOpen gap) (hNext : Gap L true next)
    (hText : StartsWith startsValue text)
    (hMore : Outcome L (fun i => (l, rest i)) fun i => readMore i (text ++ rest i)) :
    Outcome L (fun i => (x :: l, rest i))
      fun i => readOn bracket x (readMore i) (gap ++ ',' :: (next ++ (text ++ rest i))) := by
  rcases hGap.skip with hToken | ⟨hPlain, after, hSkip⟩
  · refine ((hNext.outcome_skip hText hMore hRefused).mapFst (x :: ·)).congr fun i => ?_
    rw [readOn_comma (ne_of_isClosing rfl hBracket).symm (hToken ',' _ rfl)]
  · exact outcome_refused hPlain fun i =>
      refused_readOn (hSkip _) (ne_of_isClosing rfl hBracket) (by decide)

end

/-! Values. -/

/-- A string is read from its opening quote to its closing one. -/
theorem readString_inside {strict : Bool} {rest chars raw : List Char} (h : Inside chars raw) :
    readString strict ('"' :: (raw ++ '"' :: rest)) = .ok (String.ofList chars, rest) := by
  rw [readString, List.drop_one, List.tail_cons, readChars_inside h]
  · rfl
  · simp only [List.length_cons, List.length_append]
    omega

/-- The text of a string is a literal. -/
theorem Atom.exists_inside {name : String} {text : List Char} (h : Atom (.str name) text) :
    ∃ chars raw, name = String.ofList chars ∧ text = '"' :: (raw ++ ['"']) ∧ Inside chars raw := by
  generalize hv : Json.str name = v at h
  cases h with
  | word h => simp [words, ← hv] at h
  | integer h => cases hv
  | decimal hWhole hFraction hExponent hPart => cases hv
  | string h =>
      cases hv
      exact ⟨_, _, rfl, rfl, h⟩

/-- A digit or a minus sign starts a number. -/
theorem readValue_number {strict negative : Bool} {fuel : Nat} {whole s : List Char}
    (h : IsWhole whole) :
    readValue strict (fuel + 1) (minus negative ++ (whole ++ s)) =
      readNumber (minus negative ++ (whole ++ s)) := by
  have hWord : readWord? (minus negative ++ (whole ++ s)) = none := readWord?_number h
  obtain ⟨d, ds, rfl, hd⟩ := h.startsWith
  have hOther : ∀ c, isAsciiDigit c = false → d ≠ c := by
    rintro c hc rfl
    simp [hd] at hc
  cases negative with
  | true =>
      rw [minus, if_pos rfl, List.singleton_append] at hWord ⊢
      rw [readValue_other (by decide) (by decide) (by decide), hWord]
      rfl
  | false =>
      rw [minus, if_neg (by decide), List.nil_append, List.cons_append] at hWord ⊢
      rw [readValue_other (hOther _ rfl) (hOther _ rfl) (hOther _ rfl), hWord]
      rfl

variable {strict : ι → Bool} {fuel : ι → Nat} {rest : ι → List Char}

/-- A string, a number or a constant is read wherever something else may follow it. -/
theorem outcome_atom {v : Json} {text : List Char} (h : L.Writes v text)
    (hRest : ∀ i, Follows (rest i)) :
    Outcome L (fun i => (v, rest i)) fun i =>
      readValue (strict i) (fuel i + 1) (text ++ rest i) := by
  obtain ⟨hAtom, hAdmits⟩ := h
  cases hAtom with
  | word h =>
      refine outcome_ok fun i => ?_
      simp only [words, List.mem_cons, Prod.mk.injEq, List.not_mem_nil, or_false] at h
      rcases h with h | h | h | h | h | h <;> obtain ⟨rfl, rfl⟩ := h <;> rfl
  | integer h =>
      rename_i negative whole
      have hRead : ∀ i, readValue (strict i) (fuel i + 1) (minus negative ++ whole ++ rest i) =
          if Numeral.maxDigits < whole.length then .error (.longInteger whole.length)
          else .ok (.int (signed negative (naturalOf whole)), rest i) := by
        intro i
        rw [List.append_assoc, readValue_number h, readNumber_integer h (hRest i)]
      by_cases hLong : Numeral.maxDigits < whole.length
      · refine ⟨.tooLong whole.length, ⟨hLong, fun hShort => ?_⟩, fun i => ?_⟩
        · exact absurd (hShort _ _ h hAdmits) (Nat.not_le_of_lt hLong)
        · exact (hRead i).trans (if_pos hLong)
      · exact outcome_ok fun i => (hRead i).trans (if_neg hLong)
  | decimal hWhole hFraction hExponent hPart =>
      refine outcome_ok fun i => ?_
      rw [List.append_assoc, List.append_assoc, List.append_assoc, readValue_number hWhole,
        readNumber_decimal hWhole hFraction hExponent hPart (hRest i)]
  | string h =>
      refine outcome_ok fun i => ?_
      rw [List.cons_append, List.append_assoc, List.singleton_append, readValue_string,
        readString_inside h]
      rfl

/-- A field is read as its key, a colon and its value. -/
theorem outcome_field {name : String} {v : Json} {key before after text : List Char}
    (hKey : L.Writes (.str name) key) (hBefore : Gap L false before) (hAfter : Gap L false after)
    (hText : StartsWith startsValue text)
    (hValue : Outcome L (fun i => (v, rest i)) fun i =>
      readValue (strict i) (fuel i) (text ++ rest i)) :
    Outcome L (fun i => ((name, v), rest i)) fun i =>
      readField (strict i) (fuel i) (key ++ (before ++ ':' :: (after ++ (text ++ rest i)))) := by
  obtain ⟨chars, raw, rfl, rfl, hInside⟩ := hKey.atom.exists_inside
  have hName : ∀ i, readField (strict i) (fuel i)
      (('"' :: (raw ++ ['"'])) ++ (before ++ ':' :: (after ++ (text ++ rest i)))) =
      readNamed (strict i) (fuel i) (String.ofList chars)
        (before ++ ':' :: (after ++ (text ++ rest i))) := by
    intro i
    rw [List.cons_append, List.append_assoc, List.singleton_append, readField,
      readString_inside hInside]
    rfl
  rcases hBefore.skip with hToken | ⟨hPlain, tail, hSkip⟩
  · have hRead := hAfter.outcome_skip hText hValue fun _ _ _ => readValue_refused
    refine (hRead.mapFst (String.ofList chars, ·)).congr fun i => ?_
    rw [hName, readNamed_colon (hToken ':' _ rfl)]
  · refine outcome_refused hPlain fun i => ?_
    rw [hName, readNamed_other (by simp [hSkip])]
    exact refused_refuse _ _

/-- What comes of reading a part with the texts `rest` behind it. -/
def Part.Reads (L : Layout) (strict : ι → Bool) (fuel : ι → Nat) (text : List Char)
    (rest : ι → List Char) : Part → Prop
  | .value v =>
      Outcome L (fun i => (v, rest i)) fun i => readValue (strict i) (fuel i) (text ++ rest i)
  | .items l =>
      Outcome L (fun i => (l, rest i)) fun i => readItems (strict i) (fuel i) (text ++ rest i)
  | .fields l =>
      Outcome L (fun i => (l, rest i)) fun i => readFields (strict i) (fuel i) (text ++ rest i)

section

variable {v : Json} {items : List Json} {fields : List (String × Json)} {name : String}
  {key before after gap next last text more : List Char} {mayOpen : Bool}

theorem reads_emptyList (hGap : Gap L false gap) (hLast : Closing L ']' last) :
    Part.Reads L strict (fun i => fuel i + 1) ('[' :: (gap ++ last)) rest (.value (.arr [])) := by
  have hNone : Outcome L (fun i => ([], rest i)) fun i =>
      readAll ']' (readItems (strict i) (fuel i)) (gap ++ (last ++ rest i)) :=
    outcome_none rfl (fun _ _ _ => readItems_refused) hGap hLast
  refine (hNone.mapFst Json.arr).congr fun i => ?_
  rw [List.cons_append, readValue_list, List.append_assoc]

/-- A list is read through its items. -/
theorem reads_list (hGap : Gap L false gap) (hText : StartsWith startsValue text)
    (hItems : Part.Reads L strict fuel text rest (.items items)) :
    Part.Reads L strict (fun i => fuel i + 1) ('[' :: (gap ++ text)) rest
      (.value (.arr items)) := by
  have hSome : Outcome L (fun i => (items, rest i)) fun i =>
      readAll ']' (readItems (strict i) (fuel i)) (gap ++ (text ++ rest i)) :=
    outcome_some rfl (fun _ _ _ => readItems_refused) hGap hText hItems
  refine (hSome.mapFst Json.arr).congr fun i => ?_
  rw [List.cons_append, readValue_list, List.append_assoc]

theorem reads_emptyObject (hGap : Gap L false gap) (hLast : Closing L '\x7d' last) :
    Part.Reads L strict (fun i => fuel i + 1) ('\x7b' :: (gap ++ last)) rest
      (.value (.obj [])) := by
  have hNone : Outcome L (fun i => ([], rest i)) fun i =>
      readAll '\x7d' (readFields (strict i) (fuel i)) (gap ++ (last ++ rest i)) :=
    outcome_none rfl (fun _ _ _ => readFields_refused) hGap hLast
  refine (hNone.mapFst fun fields => Json.obj (Assoc.ofPairs fields)).congr fun i => ?_
  rw [List.cons_append, readValue_object, List.append_assoc]

/-- An object is read through its fields, the last of several with one name counting. -/
theorem reads_object (hGap : Gap L false gap) (hText : StartsWith startsValue text)
    (hFields : Part.Reads L strict fuel text rest (.fields fields)) :
    Part.Reads L strict (fun i => fuel i + 1) ('\x7b' :: (gap ++ text)) rest
      (.value (.obj (Assoc.ofPairs fields))) := by
  have hSome : Outcome L (fun i => (fields, rest i)) fun i =>
      readAll '\x7d' (readFields (strict i) (fuel i)) (gap ++ (text ++ rest i)) :=
    outcome_some rfl (fun _ _ _ => readFields_refused) hGap hText hFields
  refine (hSome.mapFst fun fields => Json.obj (Assoc.ofPairs fields)).congr fun i => ?_
  rw [List.cons_append, readValue_object, List.append_assoc]

theorem reads_lastItem (hGap : Gap L mayOpen gap) (hLast : Closing L ']' last)
    (hValue : Part.Reads L strict fuel text (fun i => gap ++ (last ++ rest i)) (.value v)) :
    Part.Reads L strict (fun i => fuel i + 1) (text ++ (gap ++ last)) rest (.items [v]) := by
  have hOn : Outcome L (fun i => ([v], rest i)) fun i =>
      readOn ']' v (readItems (strict i) (fuel i)) (gap ++ (last ++ rest i)) :=
    outcome_last rfl (fun _ _ _ => readItems_refused) hGap hLast
  refine (Outcome.bind (f := fun i x => readOn ']' x.1 (readItems (strict i) (fuel i)) x.2)
    hValue hOn).congr fun i => ?_
  rw [List.append_assoc, List.append_assoc, readItems_succ]

/-- An item is read, and then the items behind its comma. -/
theorem reads_item (hGap : Gap L mayOpen gap) (hNext : Gap L true next)
    (hText : StartsWith startsValue more)
    (hValue : Part.Reads L strict fuel text (fun i => gap ++ ',' :: (next ++ (more ++ rest i)))
      (.value v))
    (hMore : Part.Reads L strict fuel more rest (.items items)) :
    Part.Reads L strict (fun i => fuel i + 1) (text ++ (gap ++ ',' :: (next ++ more))) rest
      (.items (v :: items)) := by
  have hOn : Outcome L (fun i => (v :: items, rest i)) fun i =>
      readOn ']' v (readItems (strict i) (fuel i)) (gap ++ ',' :: (next ++ (more ++ rest i))) :=
    outcome_more rfl (fun _ _ _ => readItems_refused) hGap hNext hText hMore
  refine (Outcome.bind (f := fun i x => readOn ']' x.1 (readItems (strict i) (fuel i)) x.2)
    hValue hOn).congr fun i => ?_
  rw [List.append_assoc, List.append_assoc, List.cons_append, List.append_assoc, readItems_succ]

variable (hKey : L.Writes (.str name) key) (hBefore : Gap L false before)
  (hAfter : Gap L false after) (hText : StartsWith startsValue text)

include hKey hBefore hAfter hText

theorem reads_lastField (hGap : Gap L mayOpen gap) (hLast : Closing L '\x7d' last)
    (hValue : Part.Reads L strict fuel text (fun i => gap ++ (last ++ rest i)) (.value v)) :
    Part.Reads L strict (fun i => fuel i + 1)
      (key ++ (before ++ ':' :: (after ++ (text ++ (gap ++ last))))) rest
      (.fields [(name, v)]) := by
  have hOn : Outcome L (fun i => ([(name, v)], rest i)) fun i =>
      readOn '\x7d' (name, v) (readFields (strict i) (fuel i)) (gap ++ (last ++ rest i)) :=
    outcome_last rfl (fun _ _ _ => readFields_refused) hGap hLast
  refine (Outcome.bind (f := fun i x => readOn '\x7d' x.1 (readFields (strict i) (fuel i)) x.2)
    (outcome_field hKey hBefore hAfter hText hValue) hOn).congr fun i => ?_
  simp only [List.append_assoc, List.cons_append, readFields_succ]

/-- A field is read, and then the fields behind its comma. -/
theorem reads_field (hGap : Gap L mayOpen gap) (hNext : Gap L true next)
    (hFirst : StartsWith startsValue more)
    (hValue : Part.Reads L strict fuel text (fun i => gap ++ ',' :: (next ++ (more ++ rest i)))
      (.value v))
    (hMore : Part.Reads L strict fuel more rest (.fields fields)) :
    Part.Reads L strict (fun i => fuel i + 1)
      (key ++ (before ++ ':' :: (after ++ (text ++ (gap ++ ',' :: (next ++ more)))))) rest
      (.fields ((name, v) :: fields)) := by
  have hOn : Outcome L (fun i => ((name, v) :: fields, rest i)) fun i =>
      readOn '\x7d' (name, v) (readFields (strict i) (fuel i))
        (gap ++ ',' :: (next ++ (more ++ rest i))) :=
    outcome_more rfl (fun _ _ _ => readFields_refused) hGap hNext hFirst hMore
  refine (Outcome.bind (f := fun i x => readOn '\x7d' x.1 (readFields (strict i) (fuel i)) x.2)
    (outcome_field hKey hBefore hAfter hText hValue) hOn).congr fun i => ?_
  simp only [List.append_assoc, List.cons_append, readFields_succ]

end

/-! Whole texts. -/

theorem StartsWith.length_pos {p : Char → Bool} {s : List Char} (h : StartsWith p s) :
    0 < s.length := by
  obtain ⟨c, rest, rfl, -⟩ := h
  exact Nat.succ_pos _

/-- There is fuel for one more step, and what is left is enough for a shorter text. -/
theorem exists_fuel {n : Nat} (h : ∀ i, 2 * n ≤ fuel i) (hPos : 0 < n) :
    ∃ left : ι → Nat, fuel = (fun i => left i + 1) ∧ ∀ m, m < n → ∀ i, 2 * m ≤ left i := by
  refine ⟨fun i => fuel i - 1, funext fun i => ?_, fun m hm i => ?_⟩
  · have hFuel := h i
    show fuel i = fuel i - 1 + 1
    omega
  · have hFuel := h i
    show 2 * m ≤ fuel i - 1
    omega

/-- A spelled part is read for what it is, unless the layout gives a reason to refuse it. -/
theorem Spelled.reads {part : Part} {text : List Char} (h : Spelled L part text)
    (hFuel : ∀ i, 2 * text.length ≤ fuel i) (hRest : part.closed = true ∨ ∀ i, Follows (rest i)) :
    part.Reads L strict fuel text rest := by
  have hPos := h.startsWith.length_pos
  -- each part is shorter than the text that it stands in, which leaves it the fuel of one step
  induction h generalizing fuel rest with
  | atom h =>
      obtain ⟨left, rfl, -⟩ := exists_fuel hFuel hPos
      rcases hRest with hClosed | hRest
      · simp [Part.closed, h.atom.closes_eq_false] at hClosed
      · exact outcome_atom h hRest
  | emptyList hGap hLast =>
      obtain ⟨left, rfl, -⟩ := exists_fuel hFuel hPos
      exact reads_emptyList hGap hLast
  | list hGap hItems ih =>
      obtain ⟨left, rfl, hLeft⟩ := exists_fuel hFuel hPos
      simp only [List.length_cons, List.length_append] at hLeft
      exact reads_list hGap hItems.startsWith
        (ih (hLeft _ (by omega)) (.inl rfl) hItems.startsWith.length_pos)
  | emptyObject hGap hLast =>
      obtain ⟨left, rfl, -⟩ := exists_fuel hFuel hPos
      exact reads_emptyObject hGap hLast
  | object hGap hFields ih =>
      obtain ⟨left, rfl, hLeft⟩ := exists_fuel hFuel hPos
      simp only [List.length_cons, List.length_append] at hLeft
      exact reads_object hGap hFields.startsWith
        (ih (hLeft _ (by omega)) (.inl rfl) hFields.startsWith.length_pos)
  | lastItem hValue hGap hLast ih =>
      obtain ⟨left, rfl, hLeft⟩ := exists_fuel hFuel hPos
      have hLength := hLast.length_pos
      simp only [List.length_append] at hLeft
      exact reads_lastItem hGap hLast (ih (hLeft _ (by omega))
        (.inr fun _ => hGap.follows (hLast.follows rfl)) hValue.startsWith.length_pos)
  | item hValue hGap hNext hMore ih ihMore =>
      obtain ⟨left, rfl, hLeft⟩ := exists_fuel hFuel hPos
      simp only [List.length_append, List.length_cons] at hLeft
      exact reads_item hGap hNext hMore.startsWith
        (ih (hLeft _ (by omega)) (.inr fun _ => hGap.follows follows_comma)
          hValue.startsWith.length_pos)
        (ihMore (hLeft _ (by omega)) (.inl rfl) hMore.startsWith.length_pos)
  | lastField hKey hBefore hAfter hValue hGap hLast ih =>
      obtain ⟨left, rfl, hLeft⟩ := exists_fuel hFuel hPos
      simp only [List.length_append, List.length_cons] at hLeft
      exact reads_lastField hKey hBefore hAfter hValue.startsWith hGap hLast
        (ih (hLeft _ (by omega)) (.inr fun _ => hGap.follows (hLast.follows rfl))
          hValue.startsWith.length_pos)
  | field hKey hBefore hAfter hValue hGap hNext hMore ih ihMore =>
      obtain ⟨left, rfl, hLeft⟩ := exists_fuel hFuel hPos
      simp only [List.length_append, List.length_cons] at hLeft
      exact reads_field hKey hBefore hAfter hValue.startsWith hGap hNext hMore.startsWith
        (ih (hLeft _ (by omega)) (.inr fun _ => hGap.follows follows_comma)
          hValue.startsWith.length_pos)
        (ihMore (hLeft _ (by omega)) (.inl rfl) hMore.startsWith.length_pos)

end ScenarioRunner.Json
