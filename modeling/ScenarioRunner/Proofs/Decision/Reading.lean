import Mathlib.Data.List.Permutation
import ScenarioRunner.Proofs.Decision.Prose
import ScenarioRunner.Proofs.Json.Writing

/-! What a reply is read for. -/
namespace ScenarioRunner.Decision

/-! Documents. -/

/-- The reply gives the text as it stands, or in a fence in prose without ticks. -/
inductive Carries (text : List Char) : List Char → Prop
  | plain : Carries text text
  | fenced {before label after : List Char} (hBefore : '\x60' ∉ before) (hAfter : '\x60' ∉ after)
      (hLabel : label ∈ fenceLabels) (hTrim : Text.trim text = text) :
      Carries text (before ++ '\n' :: (fence ++
        (label ++ '\n' :: (text ++ '\n' :: (fence ++ '\n' :: after)))))

/-- No line in a document starts with a tick, so no fence is seen in it. -/
theorem unwrap_document {v : Json} {text reply : List Char} (h : Json.Document v text)
    (hReply : Carries text reply) : unwrap reply = Text.trim text := by
  obtain ⟨hText, -⟩ := h.exists_trim
  have hUnfenced := unfenced_spelled hText
  have hLast := tick_not_mem_getLast? hText
  cases hReply with
  | plain => exact unwrap_unfenced hUnfenced hLast
  | fenced hBefore hAfter hLabel hTrim =>
      rw [hTrim] at hText hUnfenced hLast ⊢
      have hNonempty : text ≠ [] := List.ne_nil_of_length_pos hText.startsWith.length_pos
      exact unwrap_fenced hBefore hLabel hTrim hNonempty hUnfenced hLast

/-- A reply that gives a document is read like the document itself by the strict reader: it is read
for the value, or one of its integers is too long. Around the document blanks, ticks and prose are
removed, and nothing in it is changed. -/
theorem read_document {v : Json} {text reply : List Char} (h : Json.Document v text)
    (hReply : Carries text reply) :
    unwrap reply = Text.trim text ∧
      Json.readDocument false (unwrap reply) = Json.readDocument true text ∧
      (Json.readDocument true text = .ok v ∧ read (String.ofList reply) = .ok v ∨
        ∃ digits, Numeral.maxDigits < digits ∧
          Json.readDocument true text = .error (.longInteger digits) ∧
          read (String.ofList reply) = .error (.integerTooLong digits)) := by
  have hUnwrap := unwrap_document h hReply
  refine ⟨hUnwrap, ?_⟩
  rcases h.outcome with hRead | ⟨digits, hLong, hRead⟩
  · have hFirst : Json.readDocument false (unwrap reply) = .ok v := hUnwrap ▸ (hRead false).2
    refine ⟨hFirst.trans (hRead true).1.symm, .inl ⟨(hRead true).1, ?_⟩⟩
    simp [read, hFirst]
  · have hFirst : Json.readDocument false (unwrap reply) = .error (.longInteger digits) :=
      hUnwrap ▸ (hRead false).2
    refine ⟨hFirst.trans (hRead true).1.symm, .inr ⟨digits, hLong, (hRead true).1, ?_⟩⟩
    simp [read, hFirst]

/-- A document whose string has a fence, a comment and a trailing comma in it. -/
def ticked : List Char := "\x7b\"say\": \"a // b, ]\\n```\", \"n\": [1, 2]\x7d".toList

/-- It is read out of a fence in prose, as it stands. -/
theorem read_document_ticked :
    Carries ticked ("Here:\n```json\n".toList ++ (ticked ++ "\n```\nDone.".toList)) ∧
      Json.Document (.obj [("say", .str "a // b, ]\n```"), ("n", .arr [.int 1, .int 2])]) ticked ∧
      read (String.ofList ("Here:\n```json\n".toList ++ (ticked ++ "\n```\nDone.".toList))) =
        .ok (.obj [("say", .str "a // b, ]\n```"), ("n", .arr [.int 1, .int 2])]) := by
  have hRead : Json.readDocument true ticked =
      .ok (.obj [("say", .str "a // b, ]\n```"), ("n", .arr [.int 1, .int 2])]) := by cbv
  have hDocument := Json.document_of_readDocument hRead
  have hCarries : Carries ticked
      ("Here:".toList ++ '\n' :: (fence ++ ("json".toList ++ '\n' :: (ticked ++
        '\n' :: (fence ++ '\n' :: "Done.".toList))))) :=
    .fenced (by decide) (by decide) (by decide) (by decide)
  refine ⟨hCarries, hDocument, ?_⟩
  obtain ⟨-, -, ⟨-, hReply⟩ | ⟨digits, -, hLong, -⟩⟩ := read_document hDocument hCarries
  · exact hReply
  · rw [hRead] at hLong
    cases hLong

/-- What the writer writes is read as a reply for the same value. -/
theorem read_compact {v : Json} (h : v.Writable) : read v.compact = .ok v := by
  have hRead := h.readDocument_writeIn .compact true
  have hDocument := Json.document_of_readDocument hRead
  have hUnwrap : unwrap v.compact.toList = Text.trim v.compact.toList := by
    rw [Json.compact, String.toList_ofList]
    exact unwrap_document hDocument .plain
  rcases hDocument.outcome with hOutcome | ⟨digits, -, hLong⟩
  · have hFirst : Json.readDocument false (unwrap v.compact.toList) = .ok v := by
      rw [hUnwrap, Json.compact, String.toList_ofList]
      exact (hOutcome false).2
    simp [read, hFirst]
  · cases hRead.symm.trans (hLong true).1

/-! Objects in prose. -/

/-- What a model may write beyond the standard: comments, and commas before closing brackets. Nothing
in a string literal looks like one of them, and no integer has more digits than can be read. -/
def loose : Json.Layout where
  comments := true
  trailing := true
  admits v text := (∀ n, v = .int n → text.countP Json.isAsciiDigit ≤ Numeral.maxDigits) ∧
    ¬ OpensComment text ∧ ¬ TrailsComma text

/-- A literal that holds neither a comment nor a comma before a bracket may be written as it is in
loose spelling. -/
theorem writes_loose {chars raw : List Char} (h : Json.Inside chars raw)
    (hOpens : ¬ OpensComment ('"' :: (raw ++ ['"'])))
    (hTrails : ¬ TrailsComma ('"' :: (raw ++ ['"']))) :
    loose.Writes (.str (String.ofList chars)) ('"' :: (raw ++ ['"'])) := by
  refine ⟨.string h, ?_, hOpens, hTrails⟩
  intro n hn
  cases hn

/-- An integer of the layout is short enough to be read. -/
theorem short_loose : loose.Short := by
  intro negative whole hWhole hAdmits
  have hDigits := hAdmits.1 _ rfl
  rw [List.countP_append, List.countP_eq_length.mpr hWhole.digits] at hDigits
  omega

/-- An object in prose is read for the value it spells, whatever comments and trailing commas stand
in it, when its atoms hold nothing that looks like one. The reply as a whole must not be a document
already: no value starts as its prose does, or the reader refuses it before it is edited. -/
theorem read_loose {before text after : List Char} {fields : List (String × Json)}
    (hText : Json.Spelled loose (.value (.obj fields)) text) (hBefore : Prose true before)
    (hAfter : Prose true after)
    (hLead : (∀ c ∈ (before.dropWhile Text.isBlank).head?, Json.startsValue c = false) ∨
      Json.Refused (Json.readDocument false (unwrap (before ++ (text ++ after))))) :
    read (String.ofList (before ++ (text ++ after))) = .ok (.obj fields) := by
  obtain ⟨rest, hRest, hUnwrap⟩ := exists_unwrap_prose hText hBefore hAfter
  -- the first reading finds the object, where it needs no edits, or refuses the reply
  have hFirst : Json.readDocument false (unwrap (before ++ (text ++ after))) = .ok (.obj fields) ∨
      Json.Refused (Json.readDocument false (unwrap (before ++ (text ++ after)))) := by
    rcases hLead with hLead | hRefused
    · rw [hUnwrap]
      cases hFront : before.dropWhile Text.isBlank with
      | nil => exact hText.ok_or_refused short_loose rfl rest
      | cons c front =>
          have hBlank := List.head?_dropWhile_not Text.isBlank before
          rw [hFront] at hLead hBlank
          have hSpace : Json.isSpace c = false := Json.isSpace_eq_false (by simpa using hBlank)
          exact .inr (Json.readDocument_refused hSpace (hLead c rfl))
    · exact .inr hRefused
  have hRelaxed : Json.readDocument false (relax (unwrap (before ++ (text ++ after)))) =
      .ok (.obj fields) := by
    have hBack := brace_not_mem_dropComments hAfter hRest
    have hSlashes : SparesSlashes loose := fun v text h => h.admitted.2.1
    have hCommas : SparesCommas loose := fun v text h => h.admitted.2.2
    have hFinal := relax_prose hSlashes hCommas hText (prose_dropWhile hBefore) hBack
    rw [hUnwrap]
    exact hFinal.readDocument_eq ⟨rfl, rfl⟩ short_loose
  rcases hFirst with hRead | ⟨complaint, left, hRefused⟩
  · simp [read, hRead]
  · simp [read, hRefused, hRelaxed]

/-- An object with a comment and a trailing comma, and slashes and a comma in its string. -/
def noted : List Char := "\x7b\"a\": \"t://x, y\", // z\n\x7d".toList

/-- It is read out of its prose. -/
theorem read_loose_noted :
    Json.Spelled loose (.value (.obj [("a", .str "t://x, y")])) noted ∧
      Prose true "Here: ".toList ∧ Prose true ".".toList ∧
      read (String.ofList ("Here: ".toList ++ (noted ++ ".".toList))) =
        .ok (.obj [("a", .str "t://x, y")]) := by
  have hKey : loose.Writes (.str "a") "\"a\"".toList :=
    writes_loose (Json.Inside.self (s := "a".toList) (by simp)) (by decide) (by decide)
  have hValue : loose.Writes (.str "t://x, y") "\"t://x, y\"".toList :=
    writes_loose (Json.Inside.self (s := "t://x, y".toList) (by simp)) (by decide) (by decide)
  have hLine : '\n' ∉ " z".toList := by decide
  have hLast : Json.Closing loose '\x7d' ", // z\n\x7d".toList :=
    .comma rfl (.space rfl (.comment rfl hLine .nil))
  have hFields : Json.Spelled loose (.fields [("a", .str "t://x, y")])
      "\"a\": \"t://x, y\", // z\n\x7d".toList :=
    .lastField hKey .nil (.space rfl .nil) (.atom hValue) .nil hLast
  have hText : Json.Spelled loose (.value (.obj [("a", .str "t://x, y")])) noted :=
    .object .nil hFields
  have hBefore : Prose true "Here: ".toList := prose_of_isProse (by simp [isProse])
  have hAfter : Prose true ".".toList := prose_of_isProse (by simp [isProse])
  have hLead : ∀ c ∈ ("Here: ".toList.dropWhile Text.isBlank).head?,
      Json.startsValue c = false := by
    intro c hc
    cases hc
    rfl
  exact ⟨hText, hBefore, hAfter, read_loose hText hBefore hAfter (.inl hLead)⟩

/-- The edits do not stop at string literals. -/
example : read "\x7b\"a\": \"x, ]\",\x7d" = .ok (.obj [("a", .str "x]")]) := by cbv

end ScenarioRunner.Decision
