import Mathlib.Data.List.Infix
import Mathlib.Data.List.TakeWhile
import ScenarioRunner.Proofs.Text.Blank
import ScenarioRunner.Url

/-! Addresses recovered from texts. Quotes and blanks around a text hide no address and make none, so
what is recovered is the first address in the text, if it is usable, and else the text itself. Main
statements: what is recovered is a plain address or the whole text, and recovering it again changes
nothing; just the texts of which nothing is to be recovered are left as they are. -/
namespace ScenarioRunner.Url

open Text

def openings : List (List Char) := ["https://".toList, "http://".toList]

/-- An address as it may stand in prose: an opening, and some characters that may belong to it. -/
def Plain (s : List Char) : Prop :=
  ∃ opening ∈ openings, ∃ rest, s = opening ++ rest ∧ rest ≠ [] ∧ ∀ c ∈ rest, isEmbedded c = true

/-- The text starts with an address, which goes on as far as it can. -/
def Starts (url s : List Char) : Prop :=
  Plain url ∧ ∃ after, s = url ++ after ∧ ∀ c ∈ after.head?, isEmbedded c = false

/-- The first address in a text: no longer rest of the text starts with one. -/
def First (url s : List Char) : Prop :=
  ∃ rest, rest <:+ s ∧ Starts url rest ∧
    ∀ earlier, earlier <:+ s → rest.length < earlier.length → ∀ other, ¬ Starts other earlier

variable {s url before after : List Char}

theorem isEmbedded_of_mem_openings {opening : List Char} (h : opening ∈ openings) :
    ∀ c ∈ opening, isEmbedded c = true := by
  have hAll : openings.all (fun opening => opening.all isEmbedded) = true := by decide
  exact List.all_eq_true.mp (List.all_eq_true.mp hAll opening h)

theorem isEmbedded_eq_false_of_isBlank {c : Char} (h : isBlank c = true) : isEmbedded c = false := by
  simp [isEmbedded, h]

theorem isEmbedded_eq_false_of_mem_quotes {q : Char} (h : q ∈ quotes) : isEmbedded q = false := by
  have hAll : quotes.all (!isEmbedded ·) = true := by decide
  simpa using List.all_eq_true.mp hAll q h

namespace Plain

theorem isEmbedded_of_mem (h : Plain s) : ∀ c ∈ s, isEmbedded c = true := by
  obtain ⟨opening, hOpening, rest, rfl, -, hRest⟩ := h
  intro c hc
  rcases List.mem_append.mp hc with hc | hc
  · exact isEmbedded_of_mem_openings hOpening c hc
  · exact hRest c hc

theorem ne_nil (h : Plain s) : s ≠ [] := by
  obtain ⟨opening, -, rest, rfl, hRest, -⟩ := h
  simp [hRest]

end Plain

/-! One place of a text. -/

/-- The address that starts right here with an opening. -/
def startingWith? (opening s : List Char) : Option (List Char) :=
  if opening.isPrefixOf s then
    let rest := (s.drop opening.length).takeWhile isEmbedded
    if rest.isEmpty then none else some (opening ++ rest)
  else none

theorem startingHere?_eq (s : List Char) :
    startingHere? s =
      (startingWith? "https://".toList s).or (startingWith? "http://".toList s) := by
  rw [← Option.orElse_eq_or (f := fun _ => _)]
  rfl

theorem startingWith?_eq_some_iff {opening : List Char} :
    startingWith? opening s = some url ↔ ∃ rest after, url = opening ++ rest ∧ rest ≠ [] ∧
      (∀ c ∈ rest, isEmbedded c = true) ∧ s = url ++ after ∧
        ∀ c ∈ after.head?, isEmbedded c = false := by
  constructor
  · intro h
    rw [startingWith?] at h
    split at h
    · rename_i hOpening
      obtain ⟨inside, rfl⟩ := List.isPrefixOf_iff_prefix.mp hOpening
      simp only [List.drop_left] at h
      split at h
      · cases h
      · rename_i hFilled
        cases h
        refine ⟨inside.takeWhile isEmbedded, inside.dropWhile isEmbedded, rfl,
          fun hNil => hFilled (List.isEmpty_iff.mpr hNil), fun c hc => List.mem_takeWhile_imp hc, ?_,
          fun c hc => ?_⟩
        · rw [List.append_assoc, List.takeWhile_append_dropWhile]
        · have hHead := List.head?_dropWhile_not isEmbedded inside
          rw [hc] at hHead
          simpa using hHead
    · cases h
  · rintro ⟨rest, after, rfl, hFilled, hRest, rfl, hAfter⟩
    have hTaken : (rest ++ after).takeWhile isEmbedded = rest := by
      rw [List.takeWhile_append_of_pos hRest]
      cases after with
      | nil => simp
      | cons c after => rw [List.takeWhile_cons_of_neg (by simp [hAfter c rfl]), List.append_nil]
    simp [startingWith?, hTaken, hFilled]

/-- The two openings differ in their fifth character. -/
theorem startingWith?_eq_none (rest : List Char) :
    startingWith? "https://".toList ("http://".toList ++ rest) = none := rfl

theorem startingHere?_eq_some_iff : startingHere? s = some url ↔ Starts url s := by
  rw [startingHere?_eq]
  constructor
  · intro h
    obtain ⟨opening, hOpening, hStarts⟩ :
        ∃ opening ∈ openings, startingWith? opening s = some url := by
      rcases Option.or_eq_some_iff.mp h with hFirst | ⟨-, hSecond⟩
      · exact ⟨_, List.mem_cons_self, hFirst⟩
      · exact ⟨_, List.mem_cons_of_mem _ List.mem_cons_self, hSecond⟩
    obtain ⟨rest, after, hUrl, hFilled, hRest, hText, hAfter⟩ := startingWith?_eq_some_iff.mp hStarts
    exact ⟨⟨opening, hOpening, rest, hUrl, hFilled, hRest⟩, after, hText, hAfter⟩
  · rintro ⟨⟨opening, hOpening, rest, hUrl, hFilled, hRest⟩, after, hText, hAfter⟩
    have hStarts : startingWith? opening s = some url :=
      startingWith?_eq_some_iff.mpr ⟨rest, after, hUrl, hFilled, hRest, hText, hAfter⟩
    rcases List.mem_cons.mp hOpening with rfl | hOpening
    · rw [hStarts]
      rfl
    · obtain rfl := List.mem_singleton.mp hOpening
      rw [hText, hUrl, List.append_assoc] at hStarts ⊢
      rw [startingWith?_eq_none]
      exact hStarts

theorem startingHere?_eq_none_iff : startingHere? s = none ↔ ∀ url, ¬ Starts url s := by
  simp only [Option.eq_none_iff_forall_ne_some, ne_eq, startingHere?_eq_some_iff]

/-- Characters behind a text that belong to no address do not change how it starts. -/
theorem starts_append (h : ∀ c ∈ after, isEmbedded c = false) :
    Starts url (s ++ after) ↔ Starts url s := by
  constructor
  · rintro ⟨hPlain, more, hText, hMore⟩
    refine ⟨hPlain, ?_⟩
    rcases List.append_eq_append_iff.mp hText with ⟨beyond, hUrl, hAfter⟩ | ⟨left, hLeft, rfl⟩
    · -- what reaches over the end would have to belong to both
      have hNone : beyond = [] := by
        rw [List.eq_nil_iff_forall_not_mem]
        intro c hc
        have hIn := hPlain.isEmbedded_of_mem c (by simp [hUrl, hc])
        simp [h c (by simp [hAfter, hc])] at hIn
      exact ⟨[], by simp [hUrl, hNone], by simp⟩
    · refine ⟨left, hLeft, fun c hc => hMore c ?_⟩
      simp only [Option.mem_def] at hc ⊢
      simp [List.head?_append, hc]
  · rintro ⟨hPlain, left, rfl, hLeft⟩
    refine ⟨hPlain, left ++ after, by simp, fun c hc => ?_⟩
    cases left with
    | nil => exact h c (List.mem_of_mem_head? (by simpa using hc))
    | cons d left => exact hLeft c (by simpa using hc)

/-- Nor does an address start with such a character. -/
theorem not_starts_cons {c : Char} (h : isEmbedded c = false) : ¬ Starts url (c :: s) := by
  rintro ⟨hPlain, more, hText, -⟩
  cases url with
  | nil => exact hPlain.ne_nil rfl
  | cons d rest =>
      obtain ⟨rfl, -⟩ := List.cons.inj hText
      simp [hPlain.isEmbedded_of_mem c List.mem_cons_self] at h

/-! The first address of a text. -/

theorem embedded?_cons (c : Char) (rest : List Char) :
    embedded? (c :: rest) = (startingHere? (c :: rest) <|> embedded? rest) := rfl

theorem not_first_nil : ¬ First url [] := by
  rintro ⟨rest, hRest, ⟨hPlain, after, hText, -⟩, -⟩
  rw [List.suffix_nil.mp hRest] at hText
  exact hPlain.ne_nil (List.append_eq_nil_iff.mp hText.symm).1

/-- An address at the start of a text is the first one. -/
theorem Starts.first (h : Starts url s) : First url s := by
  refine ⟨s, List.suffix_rfl, h, fun earlier hEarlier hLonger => ?_⟩
  have hLength := hEarlier.length_le
  omega

theorem Starts.starts_of_first {other : List Char} (h : Starts other s) (hFirst : First url s) :
    Starts url s := by
  obtain ⟨rest, hRest, hStarts, hNone⟩ := hFirst
  by_cases hLength : rest.length < s.length
  · exact absurd h (hNone s List.suffix_rfl hLength other)
  · rwa [← hRest.eq_of_length (by have hLe := hRest.length_le; omega)]

/-- Where no address starts, the first one is that of the rest. -/
theorem first_cons_iff {c : Char} (h : ∀ other, ¬ Starts other (c :: s)) :
    First url (c :: s) ↔ First url s := by
  constructor
  · rintro ⟨rest, hRest, hStarts, hNone⟩
    rcases List.suffix_cons_iff.mp hRest with rfl | hRest
    · exact absurd hStarts (h url)
    · exact ⟨rest, hRest, hStarts, fun earlier hEarlier =>
        hNone earlier (hEarlier.trans (List.suffix_cons c s))⟩
  · rintro ⟨rest, hRest, hStarts, hNone⟩
    refine ⟨rest, hRest.trans (List.suffix_cons c s), hStarts, fun earlier hEarlier hLonger => ?_⟩
    rcases List.suffix_cons_iff.mp hEarlier with rfl | hEarlier
    · exact h
    · exact hNone earlier hEarlier hLonger

theorem embedded?_eq_some_iff : embedded? s = some url ↔ First url s := by
  induction s with
  | nil => exact iff_of_false nofun not_first_nil
  | cons c s ih =>
      rw [embedded?_cons]
      cases hHere : startingHere? (c :: s) with
      | some found =>
          have hStarts := startingHere?_eq_some_iff.1 hHere
          constructor
          · intro hSame
            cases hSame
            exact hStarts.first
          · intro hFirst
            rw [← startingHere?_eq_some_iff.2 (hStarts.starts_of_first hFirst), hHere]
            rfl
      | none => exact ih.trans (first_cons_iff (startingHere?_eq_none_iff.mp hHere)).symm

/-- Behind an address and before it may stand what does not belong to addresses. -/
theorem embedded?_append (h : ∀ c ∈ after, isEmbedded c = false) :
    embedded? (s ++ after) = embedded? s := by
  induction s with
  | nil =>
      induction after with
      | nil => rfl
      | cons c after ih =>
          have hNotHere : startingHere? (c :: after) = none :=
            startingHere?_eq_none_iff.mpr fun _ => not_starts_cons (h c List.mem_cons_self)
          rw [List.nil_append, embedded?_cons, hNotHere]
          exact ih fun d hd => h d (List.mem_cons_of_mem c hd)
  | cons c s ih =>
      have hHere : startingHere? (c :: s ++ after) = startingHere? (c :: s) := by
        ext url
        simp only [startingHere?_eq_some_iff, starts_append h]
      rw [List.cons_append] at hHere ⊢
      rw [embedded?_cons, embedded?_cons, hHere, ih]

theorem embedded?_append_left (h : ∀ c ∈ before, isEmbedded c = false) :
    embedded? (before ++ s) = embedded? s := by
  induction before with
  | nil => rfl
  | cons c before ih =>
      have hNotHere : startingHere? (c :: (before ++ s)) = none :=
        startingHere?_eq_none_iff.mpr fun _ => not_starts_cons (h c List.mem_cons_self)
      rw [List.cons_append, embedded?_cons, hNotHere]
      exact ih fun d hd => h d (List.mem_cons_of_mem c hd)

theorem embedded?_trim (s : List Char) : embedded? (trim s) = embedded? s := by
  obtain ⟨before, after, hText, hBefore, hAfter⟩ := exists_trim s
  conv_rhs => rw [hText]
  rw [embedded?_append fun c hc => isEmbedded_eq_false_of_isBlank (hAfter c hc),
    embedded?_append_left fun c hc => isEmbedded_eq_false_of_isBlank (hBefore c hc)]

theorem embedded?_unwrap (s : List Char) : embedded? (unwrap s) = embedded? s := by
  rw [unwrap]
  split
  · rename_i q hFound
    have hQuote := isEmbedded_eq_false_of_mem_quotes (List.mem_of_find?_eq_some hFound)
    have hWrapped := List.find?_some hFound
    simp only [Bool.and_eq_true, decide_eq_true_eq, beq_iff_eq] at hWrapped
    obtain ⟨⟨hLength, hHead⟩, hLast⟩ := hWrapped
    obtain ⟨inside, hText⟩ : ∃ inside, s = [q] ++ inside ++ [q] := by
      obtain ⟨front, rfl⟩ := List.getLast?_eq_some_iff.mp hLast
      cases front with
      | nil => simp at hLength
      | cons d inside =>
          obtain rfl : d = q := by simpa using hHead
          exact ⟨inside, rfl⟩
    have hInside : (s.drop 1).dropLast = inside := by simp [hText]
    rw [embedded?_trim, hInside, hText, embedded?_append (by simpa using hQuote),
      embedded?_append_left (by simpa using hQuote)]
  · rfl

/-- What is recovered of a text is the first address in it, if it is usable. -/
theorem recover_eq (value : List Char) :
    recover value = ((embedded? value).filter isValid).getD value := by
  rw [recover, embedded?_unwrap, embedded?_trim]
  cases embedded? value with
  | none => rfl
  | some url => cases hValid : isValid url <;> simp [hValid, Option.filter]

/-- A plain address is the first one in itself. -/
theorem Plain.first (h : Plain s) : First s s := Starts.first ⟨h, [], by simp, by simp⟩

theorem First.plain (h : First url s) : Plain url := by
  obtain ⟨rest, -, hStarts, -⟩ := h
  exact hStarts.1

theorem First.isInfix (h : First url s) : url <:+: s := by
  obtain ⟨rest, hRest, ⟨-, after, rfl, -⟩, -⟩ := h
  exact (List.prefix_append url after).isInfix.trans hRest.isInfix

/-- Nothing is to be recovered of the text: it is a plain address as a whole, or the first address in
it, if there is one, is not usable. -/
def Intact (s : List Char) : Prop := Plain s ∨ ∀ url, First url s → isValid url = false

theorem First.embedded?_eq (h : First url s) : embedded? s = some url := embedded?_eq_some_iff.2 h

theorem Plain.embedded?_eq (h : Plain s) : embedded? s = some s := h.first.embedded?_eq

/-- Just the texts of which nothing is to be recovered are left as they are. -/
theorem recover_eq_self_iff {value : List Char} : recover value = value ↔ Intact value := by
  rw [recover_eq]
  constructor
  · intro hSame
    by_cases hPlain : Plain value
    · exact .inl hPlain
    · refine .inr fun url hFirst => ?_
      cases hValid : isValid url with
      | false => rfl
      | true =>
          rw [hFirst.embedded?_eq, Option.filter_some, if_pos hValid] at hSame
          obtain rfl : url = value := hSame
          exact absurd hFirst.plain hPlain
  · rintro (hPlain | hUnusable)
    · rw [hPlain.embedded?_eq, Option.filter_some]
      split <;> rfl
    · have hNone : (embedded? value).filter isValid = none :=
        Option.filter_eq_none_iff.mpr fun url hFound => by
          simp [hUnusable url (embedded?_eq_some_iff.1 hFound)]
      rw [hNone]
      rfl

theorem recover_cases (value : List Char) :
    recover value = value ∨ First (recover value) value ∧ isValid (recover value) = true := by
  rw [recover_eq]
  cases hFound : (embedded? value).filter isValid with
  | none => exact .inl rfl
  | some url =>
      obtain ⟨hFirst, hValid⟩ := Option.filter_eq_some_iff.mp hFound
      exact .inr ⟨embedded?_eq_some_iff.1 hFirst, hValid⟩

/-- What was recovered is left as it is. -/
theorem recover_recover (value : List Char) : recover (recover value) = recover value := by
  rcases recover_cases value with hSame | ⟨hFirst, -⟩
  · rw [hSame, hSame]
  · exact recover_eq_self_iff.2 (.inl hFirst.plain)

/-! What is usable. -/

/-- A percent sign opens no scheme. -/
theorem isValid_percent (rest : List Char) : isValid ('%' :: rest) = false := by
  have hCleaned : cleaned ('%' :: rest) = '%' :: rest.filter (!isIgnored ·) := rfl
  have hScheme : scheme? (cleaned ('%' :: rest)) = none := by
    have hLetter : '%'.isAlpha = false := by decide
    rw [hCleaned]
    unfold scheme?
    split
    · rename_i hStart hRest
      obtain ⟨rfl, -⟩ := List.cons.inj hStart
      simp [hLetter]
    · rfl
  rw [isValid, hScheme]

end ScenarioRunner.Url

namespace ScenarioRunner

open Text Url

theorem toList_sanitizeUrl (value : String) : (sanitizeUrl value).toList = recover value.toList :=
  String.toList_ofList

theorem sanitizeUrl_eq_self_iff {value : String} :
    sanitizeUrl value = value ↔ Intact value.toList := by
  rw [← recover_eq_self_iff, ← toList_sanitizeUrl, String.toList_inj]

/-- How a plain address is written. -/
theorem Url.Plain.spelled {url : String} (h : Plain url.toList) :
    (startsWith url "http://" = true ∨ startsWith url "https://" = true) ∧
      ∀ c ∈ url.toList, isBlank c = false ∧ c ∉ quotes ∧ c ≠ ')' := by
  constructor
  · obtain ⟨opening, hOpening, rest, hUrl, -, -⟩ := h
    simp only [startsWith, List.isPrefixOf_iff_prefix, hUrl]
    rcases List.mem_cons.mp hOpening with rfl | hOpening
    · exact .inr (List.prefix_append _ _)
    · rw [List.mem_singleton.mp hOpening]
      exact .inl (List.prefix_append _ _)
  · intro c hc
    have hAllowed := h.isEmbedded_of_mem c hc
    simp only [isEmbedded, Bool.not_eq_true', Bool.or_eq_false_iff, beq_eq_false_iff_ne] at hAllowed
    simp [quotes, hAllowed]

/-- A text is cleaned to itself, or to a usable address that stands in it and is plain. The first
address of the text is what it is cleaned to, as far as it is usable. Cleaning twice is cleaning
once, and only the empty text is cleaned to nothing. -/
theorem sanitizeUrl_recovers (value : String) :
    let url := sanitizeUrl value
    (url = value ∨ url.toList <:+: value.toList ∧
      (startsWith url "http://" = true ∨ startsWith url "https://" = true) ∧
      isValidUrl url = true ∧ ∀ c ∈ url.toList, isBlank c = false ∧ c ∉ quotes ∧ c ≠ ')') ∧
    (∀ first, First first value.toList → isValid first = true → url.toList = first) ∧
    sanitizeUrl url = url ∧ (value ≠ "" → url ≠ "") := by
  intro url
  have hUrl : url.toList = recover value.toList := toList_sanitizeUrl value
  refine ⟨?_, fun first hFirst hValid => ?_, ?_, fun hFilled => ?_⟩
  · rcases recover_cases value.toList with hSame | ⟨hFirst, hValid⟩
    · exact .inl (String.toList_inj.mp (hUrl.trans hSame))
    · rw [← hUrl] at hFirst hValid
      obtain ⟨hStart, hChars⟩ := hFirst.plain.spelled
      exact .inr ⟨hFirst.isInfix, hStart, hValid, hChars⟩
  · rw [hUrl, recover_eq, embedded?_eq_some_iff.mpr hFirst, Option.filter_some, if_pos hValid,
      Option.getD_some]
  · rw [← String.toList_inj, toList_sanitizeUrl, hUrl, recover_recover]
  · rcases recover_cases value.toList with hSame | ⟨hFirst, -⟩
    · rwa [String.toList_inj.mp (hUrl.trans hSame)]
    · rintro hEmpty
      rw [← hUrl, hEmpty] at hFirst
      exact hFirst.plain.ne_nil rfl

-- prose and an address in backticks; a second address behind a first one that is not usable
example : sanitizeUrl "\x60登录页面 https://example.com/login\x60" = "https://example.com/login" ∧
    sanitizeUrl "https://[bad https://ok.test" = "https://[bad https://ok.test" := by
  decide +kernel

end ScenarioRunner
