import ScenarioRunner.Decision.Reply
import ScenarioRunner.Proofs.Json.Spelling

/-! What dropping comments and trailing commas makes of a spelled text. The edits know nothing of
string literals; where they find nothing in them, what is left spells the same value with fewer
liberties. -/
namespace ScenarioRunner.Decision

open Json (Layout Gap Closing Spelled Part isClosing isSpace startsValue StartsWith EndsWith)

/-! Comments. -/

/-- Two slashes stand right behind a character that may precede a comment. -/
def OpensComment (s : List Char) : Prop := ∃ c, precedesComment c = true ∧ [c, '/', '/'] <:+: s

theorem not_opensComment_nil : ¬ OpensComment [] := by
  rintro ⟨c, -, hInfix⟩
  cases List.infix_nil.mp hInfix

/-- A comment opens at the front, where it may, or further on. -/
theorem opensComment_cons {c : Char} {s : List Char} :
    OpensComment (c :: s) ↔
      (precedesComment c = true ∧ ['/', '/'].isPrefixOf s = true) ∨ OpensComment s := by
  rw [List.isPrefixOf_iff_prefix]
  constructor
  · rintro ⟨d, hd, hInfix⟩
    rcases List.infix_cons_iff.mp hInfix with hPrefix | hRest
    · obtain ⟨rfl, hSlashes⟩ := List.cons_prefix_cons.mp hPrefix
      exact .inl ⟨hd, hSlashes⟩
    · exact .inr ⟨d, hd, hRest⟩
  · rintro (⟨hc, hSlashes⟩ | ⟨d, hd, hRest⟩)
    · exact ⟨c, hc, (List.cons_prefix_cons.mpr ⟨rfl, hSlashes⟩).isInfix⟩
    · exact ⟨d, hd, List.infix_cons hRest⟩

instance decidableOpensComment : (s : List Char) → Decidable (OpensComment s)
  | [] => isFalse not_opensComment_nil
  | _ :: s => @decidable_of_iff' _ _ opensComment_cons
      (@instDecidableOr _ _ inferInstance (decidableOpensComment s))

/-- What is no slash is kept, and decides whether a comment may open next. -/
theorem dropComments_cons {c : Char} (hc : c ≠ '/') (mayOpen : Bool) (rest : List Char) :
    dropComments mayOpen false (c :: rest) = c :: dropComments (precedesComment c) false rest := by
  rw [dropComments]
  by_cases hNewline : c = '\n'
  · subst hNewline
    rfl
  · simp [hNewline, hc]

/-- A slash is kept unless it opens a comment with the one behind it. -/
theorem dropComments_slash {mayOpen : Bool} {rest : List Char}
    (h : mayOpen = true → rest.head? ≠ some '/') :
    dropComments mayOpen false ('/' :: rest) = '/' :: dropComments false false rest := by
  have hPrecedes : precedesComment '/' = false := by decide
  rw [dropComments, if_neg (by decide), if_neg (by decide), if_neg, hPrecedes]
  intro hOpens
  simp only [Bool.and_eq_true, beq_iff_eq] at hOpens
  exact h hOpens.1.1 hOpens.2

/-- A comment ends before its newline. -/
theorem dropComments_inComment {text rest : List Char} (h : '\n' ∉ text) :
    dropComments false true (text ++ '\n' :: rest) = '\n' :: dropComments true false rest := by
  induction text with
  | nil => rfl
  | cons c text ih =>
      rw [List.mem_cons, not_or] at h
      rw [List.cons_append, dropComments, if_neg (by simpa using Ne.symm h.1), if_pos rfl, ih h.2]

theorem dropComments_slashes (s : List Char) :
    dropComments true false ('/' :: '/' :: s) = dropComments false true s := by
  rw [dropComments, if_neg (by decide), if_neg (by decide), if_pos (by simp), dropComments,
    if_neg (by decide), if_pos rfl]

/-- A comment is dropped up to its newline. -/
theorem dropComments_comment {text rest : List Char} (h : '\n' ∉ text) :
    dropComments true false ('/' :: '/' :: (text ++ '\n' :: rest)) =
      '\n' :: dropComments true false rest := by
  rw [dropComments_slashes, dropComments_inComment h]

/-- A text in which no comment opens is kept, from its second character on. -/
theorem dropComments_behind {c z : Char} {init : List Char}
    (h : ¬ OpensComment (c :: (init ++ [z]))) (hz : z ≠ '/') (rest : List Char) :
    dropComments (precedesComment c) false (init ++ z :: rest) =
      init ++ z :: dropComments (precedesComment z) false rest := by
  -- whether a comment opens at a slash hangs on the character before it
  induction init generalizing c with
  | nil => exact dropComments_cons hz _ _
  | cons d init ih =>
      have hRest := ih fun hOpens => h (opensComment_cons.mpr (.inr hOpens))
      by_cases hd : d = '/'
      · subst hd
        have hPrecedes : precedesComment '/' = false := by decide
        rw [hPrecedes] at hRest
        rw [List.cons_append, dropComments_slash, hRest]
        · rfl
        · intro hOpen hHead
          apply h
          refine ⟨c, hOpen, ?_⟩
          cases init with
          | nil =>
              cases hHead
              exact absurd rfl hz
          | cons e init =>
              cases hHead
              exact ⟨[], init ++ [z], rfl⟩
      · rw [List.cons_append, dropComments_cons hd, hRest]
        rfl

/-- Wherever the text stands, `left` is what it is without its comments, and `exit` says whether a
comment may start right behind it. -/
def Leaves (text left : List Char) (exit : Bool) : Prop :=
  ∀ mayOpen rest, dropComments mayOpen false (text ++ rest) = left ++ dropComments exit false rest

theorem leaves_char {c : Char} (hc : c ≠ '/') : Leaves [c] [c] (precedesComment c) :=
  fun mayOpen rest => dropComments_cons hc mayOpen rest

/-- A text in which no comment opens is kept. -/
theorem leaves_self {text init : List Char} {z : Char} (hText : text = init ++ [z])
    (hStart : '/' ∉ text.head?) (h : ¬ OpensComment text) (hz : z ≠ '/') :
    Leaves text text (precedesComment z) := by
  intro mayOpen rest
  subst hText
  cases init with
  | nil => exact dropComments_cons hz mayOpen rest
  | cons c init =>
      have hc : c ≠ '/' := by
        rintro rfl
        exact hStart rfl
      have hRest := dropComments_behind h hz rest
      simp only [List.cons_append, List.append_assoc, List.nil_append]
      rw [dropComments_cons hc, hRest]

def withoutComments (L : Layout) : Layout := { L with comments := false }

variable {L : Layout}

/-- A stretch between tokens: characters of a kind, and comments where they may start, each of which
ends its line. -/
inductive Stretch (kind : Char → Bool) : Bool → List Char → Prop
  | nil {mayOpen : Bool} : Stretch kind mayOpen []
  | char {mayOpen : Bool} {c : Char} {s : List Char} (hKind : kind c = true)
      (hRest : Stretch kind (precedesComment c) s) : Stretch kind mayOpen (c :: s)
  | comment {text s : List Char} (hText : '\n' ∉ text) (hRest : Stretch kind true s) :
      Stretch kind true ('/' :: '/' :: (text ++ '\n' :: s))

/-- Gaps in the text of a document are stretches of blanks and comments. -/
theorem stretch_of_gap {mayOpen : Bool} {gap : List Char} (h : Gap L mayOpen gap) :
    Stretch isSpace mayOpen gap := by
  induction h with
  | nil => exact .nil
  | space hSpace hRest ih =>
      apply Stretch.char hSpace
      rwa [precedesComment, Json.isBlank_of_isSpace hSpace]
  | comment hComments hText hRest ih => exact .comment hText ih

/-- A stretch is left without its comments. -/
theorem Stretch.exists_left {kind : Char → Bool} {mayOpen : Bool} {s : List Char}
    (h : Stretch kind mayOpen s) (hSlash : kind '/' = false) (hNewline : kind '\n' = true) :
    ∃ left, (∀ c ∈ left, kind c = true) ∧ ∀ {t t' : List Char} {e : Bool}, Leaves t t' e →
      ∀ rest, dropComments mayOpen false (s ++ (t ++ rest)) =
        left ++ (t' ++ dropComments e false rest) := by
  induction h with
  | nil => exact ⟨[], by simp, fun ht rest => ht _ rest⟩
  | char hKind hRest ih =>
      rename_i mayOpen c s
      obtain ⟨left, hLeft, hDrop⟩ := ih
      refine ⟨c :: left, by simpa using ⟨hKind, hLeft⟩, fun ht rest => ?_⟩
      have hNotSlash : c ≠ '/' := by
        rintro rfl
        simp [hSlash] at hKind
      rw [List.cons_append, dropComments_cons hNotSlash, hDrop ht rest]
      rfl
  | comment hText hRest ih =>
      obtain ⟨left, hLeft, hDrop⟩ := ih
      refine ⟨'\n' :: left, by simpa using ⟨hNewline, hLeft⟩, fun ht rest => ?_⟩
      rw [List.cons_append, List.cons_append, List.append_assoc, List.cons_append,
        dropComments_comment hText, hDrop ht rest]
      rfl

/-- A gap behind a text is left without its comments. -/
theorem Leaves.exists_gap {s s' gap : List Char} {b : Bool} (hs : Leaves s s' b)
    (hGap : Gap L b gap) :
    ∃ gap', Gap (withoutComments L) b gap' ∧ ∀ {t t' : List Char} {e : Bool}, Leaves t t' e →
      Leaves (s ++ (gap ++ t)) (s' ++ (gap' ++ t')) e := by
  obtain ⟨gap', hSpaces, hDrop⟩ := (stretch_of_gap hGap).exists_left rfl rfl
  refine ⟨gap', Json.gap_of_isSpace hSpaces, fun ht mayOpen rest => ?_⟩
  rw [List.append_assoc, hs, List.append_assoc, hDrop ht]
  simp

/-- A gap behind a token of one character. -/
theorem exists_gap_behind (c : Char) {b : Bool} {gap : List Char} (hc : c ≠ '/')
    (hPrecedes : precedesComment c = b) (hGap : Gap L b gap) :
    ∃ gap', Gap (withoutComments L) b gap' ∧ ∀ {t t' : List Char} {e : Bool}, Leaves t t' e →
      Leaves (c :: (gap ++ t)) (c :: (gap' ++ t')) e := by
  subst hPrecedes
  exact (leaves_char hc).exists_gap hGap

theorem precedesComment_of_isClosing {c : Char} (h : isClosing c = true) :
    precedesComment c = true := by
  rcases Json.isClosing_iff.mp h with rfl | rfl <;> decide

/-- A closing bracket is kept, and a comment may open behind it. -/
theorem leaves_bracket {c : Char} (h : isClosing c = true) : Leaves [c] [c] true := by
  have hSlash : c ≠ '/' := by
    rintro rfl
    cases h
  rw [← precedesComment_of_isClosing h]
  exact leaves_char hSlash

/-- What stands before a closing bracket loses its comments and closes the same bracket. -/
theorem leaves_closing {bracket : Char} {last : List Char} (h : Closing L bracket last)
    (hBracket : isClosing bracket = true) :
    ∃ last', Closing (withoutComments L) bracket last' ∧ Leaves last last' true := by
  cases h with
  | bracket => exact ⟨[bracket], .bracket, leaves_bracket hBracket⟩
  | comma hTrailing hGap =>
      obtain ⟨gap', hGap', hLeaves⟩ := exists_gap_behind ',' (by decide) rfl hGap
      exact ⟨_, .comma hTrailing hGap', hLeaves (leaves_bracket hBracket)⟩

/-- A layout writes atoms in which no comment opens. -/
def SparesSlashes (L : Layout) : Prop := ∀ v text, L.Writes v text → ¬ OpensComment text

/-- A value without slashes that open comments is kept as it is. -/
theorem leaves_atom {v : Json} {text : List Char} (h : L.Writes v text)
    (hSpares : SparesSlashes L) : Leaves text text false := by
  obtain ⟨init, z, hText, hz⟩ := h.atom.endsWith
  have hSlash : z ≠ '/' := by
    rintro rfl
    cases hz
  have hStart : '/' ∉ text.head? := by
    obtain ⟨c, rest, rfl, hc⟩ := h.atom.startsWith
    rintro ⟨⟩
    cases hc
  have hPrecedes : precedesComment z = false := by
    have hBlank : Text.isBlank z = false := Text.isBlank_eq_false_of (by decide) hz
    have hOther : ∀ c, Json.endsAtom c = false → z ≠ c := by
      rintro c hc rfl
      simp [hz] at hc
    simp [precedesComment, hBlank, hOther ',' rfl, hOther ']' rfl, hOther '\x7d' rfl]
  rw [← hPrecedes]
  exact leaves_self hText hStart (hSpares v text h) hSlash

/-- A name, its colon and the gaps around it are left without their comments. -/
theorem exists_entry {name : Json} {key before after : List Char} (hKey : L.Writes name key)
    (hSpares : SparesSlashes L) (hBefore : Gap L false before) (hAfter : Gap L false after) :
    ∃ before' after', Gap (withoutComments L) false before' ∧
      Gap (withoutComments L) false after' ∧
      ∀ {t t' : List Char} {e : Bool}, Leaves t t' e →
        Leaves (key ++ (before ++ ':' :: (after ++ t))) (key ++ (before' ++ ':' :: (after' ++ t')))
          e := by
  obtain ⟨before', hBefore', hName⟩ := (leaves_atom hKey hSpares).exists_gap hBefore
  obtain ⟨after', hAfter', hField⟩ := exists_gap_behind ':' (by decide) rfl hAfter
  exact ⟨before', after', hBefore', hAfter', fun ht => hName (hField ht)⟩

/-- Without its comments a spelled text spells the same. -/
theorem leaves_spelled (hSpares : SparesSlashes L) {part : Part} {text : List Char}
    (h : Spelled L part text) :
    ∃ text', Spelled (withoutComments L) part text' ∧ Leaves text text' part.closed := by
  induction h with
  | atom h =>
      refine ⟨_, .atom ⟨h.atom, h.admitted⟩, ?_⟩
      rw [Part.closed, h.atom.closes_eq_false]
      exact leaves_atom h hSpares
  | emptyList hGap hLast =>
      obtain ⟨last', hLast', hLeaves⟩ := leaves_closing hLast rfl
      obtain ⟨gap', hGap', hAll⟩ := exists_gap_behind '[' (by decide) rfl hGap
      exact ⟨_, .emptyList hGap' hLast', hAll hLeaves⟩
  | list hGap hItems ih =>
      obtain ⟨text', hText', hLeaves⟩ := ih
      obtain ⟨gap', hGap', hAll⟩ := exists_gap_behind '[' (by decide) rfl hGap
      exact ⟨_, .list hGap' hText', hAll hLeaves⟩
  | emptyObject hGap hLast =>
      obtain ⟨last', hLast', hLeaves⟩ := leaves_closing hLast rfl
      obtain ⟨gap', hGap', hAll⟩ := exists_gap_behind '\x7b' (by decide) rfl hGap
      exact ⟨_, .emptyObject hGap' hLast', hAll hLeaves⟩
  | object hGap hFields ih =>
      obtain ⟨text', hText', hLeaves⟩ := ih
      obtain ⟨gap', hGap', hAll⟩ := exists_gap_behind '\x7b' (by decide) rfl hGap
      exact ⟨_, .object hGap' hText', hAll hLeaves⟩
  | lastItem hValue hGap hLast ih =>
      obtain ⟨text', hText', hLeaves⟩ := ih
      obtain ⟨last', hLast', hEnd⟩ := leaves_closing hLast rfl
      obtain ⟨gap', hGap', hAll⟩ := hLeaves.exists_gap hGap
      exact ⟨_, .lastItem hText' hGap' hLast', hAll hEnd⟩
  | item hValue hGap hNext hRest ih ihRest =>
      obtain ⟨text', hText', hLeaves⟩ := ih
      obtain ⟨rest', hRest', hEnd⟩ := ihRest
      obtain ⟨next', hNext', hMore⟩ := exists_gap_behind ',' (by decide) rfl hNext
      obtain ⟨gap', hGap', hAll⟩ := hLeaves.exists_gap hGap
      exact ⟨_, .item hText' hGap' hNext' hRest', hAll (hMore hEnd)⟩
  | lastField hKey hBefore hAfter hValue hGap hLast ih =>
      obtain ⟨text', hText', hLeaves⟩ := ih
      obtain ⟨last', hLast', hEnd⟩ := leaves_closing hLast rfl
      obtain ⟨before', after', hBefore', hAfter', hEntry⟩ :=
        exists_entry hKey hSpares hBefore hAfter
      obtain ⟨gap', hGap', hAll⟩ := hLeaves.exists_gap hGap
      exact ⟨_, .lastField ⟨hKey.atom, hKey.admitted⟩ hBefore' hAfter' hText' hGap' hLast',
        hEntry (hAll hEnd)⟩
  | field hKey hBefore hAfter hValue hGap hNext hRest ih ihRest =>
      obtain ⟨text', hText', hLeaves⟩ := ih
      obtain ⟨rest', hRest', hEnd⟩ := ihRest
      obtain ⟨before', after', hBefore', hAfter', hEntry⟩ :=
        exists_entry hKey hSpares hBefore hAfter
      obtain ⟨next', hNext', hMore⟩ := exists_gap_behind ',' (by decide) rfl hNext
      obtain ⟨gap', hGap', hAll⟩ := hLeaves.exists_gap hGap
      exact ⟨_, .field ⟨hKey.atom, hKey.admitted⟩ hBefore' hAfter' hText' hGap' hNext' hRest',
        hEntry (hAll (hMore hEnd))⟩

/-! Trailing commas. -/

/-- A comma stands before a closing bracket, with only blanks between them. -/
def TrailsComma (s : List Char) : Prop :=
  ∃ blanks bracket, (∀ c ∈ blanks, Text.isBlank c = true) ∧ isClosing bracket = true ∧
    ',' :: (blanks ++ [bracket]) <:+: s

theorem isBlank_of_isClosing {c : Char} (h : isClosing c = true) : Text.isBlank c = false := by
  rcases Json.isClosing_iff.mp h with rfl | rfl <;> decide

theorem not_trailsComma_nil : ¬ TrailsComma [] := by
  rintro ⟨blanks, bracket, -, -, hInfix⟩
  cases List.infix_nil.mp hInfix

/-- A comma trails at the front, if only blanks part it from a bracket, or further on. -/
theorem trailsComma_cons {c : Char} {s : List Char} :
    TrailsComma (c :: s) ↔
      (c = ',' ∧ (s.dropWhile Text.isBlank).head?.any isClosing = true) ∨ TrailsComma s := by
  constructor
  · rintro ⟨blanks, bracket, hBlanks, hBracket, hInfix⟩
    rcases List.infix_cons_iff.mp hInfix with hPrefix | hRest
    · obtain ⟨rfl, rest, rfl⟩ := List.cons_prefix_cons.mp hPrefix
      left
      rw [List.append_assoc, List.dropWhile_append_of_pos hBlanks, List.singleton_append,
        List.dropWhile_cons_of_neg (by simp [isBlank_of_isClosing hBracket])]
      exact ⟨rfl, hBracket⟩
    · exact .inr ⟨blanks, bracket, hBlanks, hBracket, hRest⟩
  · rintro (⟨rfl, hNext⟩ | ⟨blanks, bracket, hBlanks, hBracket, hRest⟩)
    · obtain ⟨bracket, hHead, hBracket⟩ := (Option.any_eq_true _ _).mp hNext
      obtain ⟨rest, hDrop⟩ := List.head?_eq_some_iff.mp hHead
      refine ⟨s.takeWhile Text.isBlank, bracket, fun d hd => List.mem_takeWhile_imp hd, hBracket,
        [], rest, ?_⟩
      have hSplit := List.takeWhile_append_dropWhile (p := Text.isBlank) (l := s)
      rw [hDrop] at hSplit
      simp [hSplit]
    · exact ⟨blanks, bracket, hBlanks, hBracket, List.infix_cons hRest⟩

instance decidableTrailsComma : (s : List Char) → Decidable (TrailsComma s)
  | [] => isFalse not_trailsComma_nil
  | _ :: s => @decidable_of_iff' _ _ trailsComma_cons
      (@instDecidableOr _ _ inferInstance (decidableTrailsComma s))

/-- What is no comma is kept. -/
theorem dropCommas_cons {c : Char} (hc : c ≠ ',') (rest : List Char) :
    dropCommas 0 (c :: rest) = c :: dropCommas 0 rest := by
  simp [dropCommas, hc]

/-- Characters that are still to be dropped are passed over first. -/
theorem dropCommas_eq_drop (n : Nat) (s : List Char) :
    dropCommas n s = dropCommas 0 (s.drop n) := by
  induction s generalizing n with
  | nil => simp [dropCommas]
  | cons c s ih =>
      cases n with
      | zero => rfl
      | succ n =>
          rw [dropCommas, ih n]
          rfl

/-- A comma goes, with the blanks behind it, just when a closing bracket comes next. -/
theorem dropCommas_comma {blanks : List Char} {c : Char}
    (hBlanks : ∀ d ∈ blanks, Text.isBlank d = true) (hc : Text.isBlank c = false)
    (rest : List Char) :
    dropCommas 0 (',' :: (blanks ++ c :: rest)) =
      if isClosing c then dropCommas 0 (c :: rest)
      else ',' :: dropCommas 0 (blanks ++ c :: rest) := by
  have hTake : (blanks ++ c :: rest).takeWhile Text.isBlank = blanks := by
    rw [List.takeWhile_append_of_pos hBlanks, List.takeWhile_cons_of_neg (by simp [hc]),
      List.append_nil]
  have hNext : (some c == some '\x7d' || some c == some ']') = isClosing c := by
    rw [isClosing, Bool.or_comm]
    rfl
  rw [dropCommas, hTake]
  simp only [List.drop_left, List.head?_cons, hNext]
  rw [dropCommas_eq_drop blanks.length, List.drop_left]
  rfl

/-- Wherever the text stands, `kept` is what it is without its trailing commas. -/
def Keeps (text kept : List Char) : Prop :=
  ∀ rest, dropCommas 0 (text ++ rest) = kept ++ dropCommas 0 rest

/-- Texts that are kept next to one another are kept together. -/
theorem Keeps.append {s s' t t' : List Char} (hs : Keeps s s') (ht : Keeps t t') :
    Keeps (s ++ t) (s' ++ t') := by
  intro rest
  rw [List.append_assoc, hs, ht, List.append_assoc]

theorem keeps_char {c : Char} (hc : c ≠ ',') : Keeps [c] [c] := dropCommas_cons hc

/-- A text without commas is kept as it is. -/
theorem keeps_of_comma_not_mem {s : List Char} (h : ',' ∉ s) : Keeps s s := by
  induction s with
  | nil => exact fun _ => rfl
  | cons c s ih =>
      rw [List.mem_cons, not_or] at h
      exact (keeps_char (Ne.symm h.1)).append (ih h.2)

/-- A comma is kept where something else than a closing bracket comes next. -/
theorem keeps_comma {blanks text kept : List Char}
    (hBlanks : ∀ d ∈ blanks, Text.isBlank d = true) (hStart : StartsWith startsValue text)
    (h : Keeps text kept) : Keeps (',' :: (blanks ++ text)) (',' :: (blanks ++ kept)) := by
  intro rest
  have hNoComma : ',' ∉ blanks := fun hMem => by cases hBlanks _ hMem
  have hRest := (keeps_of_comma_not_mem hNoComma).append h rest
  obtain ⟨c, tail, rfl, hc⟩ := hStart
  have hClosing : isClosing c = false := by
    cases hEq : isClosing c with
    | false => rfl
    | true =>
        rcases Json.isClosing_iff.mp hEq with rfl | rfl <;> cases hc
  have hComma :=
    dropCommas_comma hBlanks (Json.isBlank_eq_false_of_startsValue hc) (tail ++ rest)
  simp only [hClosing, List.append_assoc, List.cons_append] at hComma hRest ⊢
  rw [hComma, if_neg (by decide), hRest]

/-- A comma is dropped where a closing bracket comes next. -/
theorem keeps_trailing {blanks : List Char} {bracket : Char}
    (hBlanks : ∀ d ∈ blanks, Text.isBlank d = true) (hBracket : isClosing bracket = true) :
    Keeps (',' :: (blanks ++ [bracket])) [bracket] := by
  intro rest
  have hComma : bracket ≠ ',' := by
    rintro rfl
    cases hBracket
  have hDrop := dropCommas_comma hBlanks (isBlank_of_isClosing hBracket) rest
  rw [List.cons_append, List.append_assoc, List.singleton_append, hDrop, if_pos hBracket,
    dropCommas_cons hComma]
  rfl

/-- A text that is not all blank has a first character that is not. -/
theorem exists_blanks {s : List Char} {z : Char} (hMem : z ∈ s) (hz : Text.isBlank z = false) :
    ∃ blanks d tail, s = blanks ++ d :: tail ∧ (∀ c ∈ blanks, Text.isBlank c = true) ∧
      Text.isBlank d = false := by
  cases hDrop : s.dropWhile Text.isBlank with
  | nil =>
      have hAll := List.dropWhile_eq_nil_iff.mp hDrop z hMem
      simp [hz] at hAll
  | cons d tail =>
      have hHead := List.head?_dropWhile_not Text.isBlank s
      rw [hDrop] at hHead
      refine ⟨s.takeWhile Text.isBlank, d, tail, ?_, fun c hc => List.mem_takeWhile_imp hc, ?_⟩
      · rw [← hDrop, List.takeWhile_append_dropWhile]
      · simpa using hHead

/-- A text with no trailing comma is kept. -/
theorem keeps_self {init : List Char} {z : Char} (h : ¬ TrailsComma (init ++ [z]))
    (hBlank : Text.isBlank z = false) (hComma : z ≠ ',') : Keeps (init ++ [z]) (init ++ [z]) := by
  induction init with
  | nil => exact keeps_char hComma
  | cons c init ih =>
      have hRest := ih fun hTrails => h (trailsComma_cons.mpr (.inr hTrails))
      by_cases hc : c = ','
      · subst hc
        obtain ⟨blanks, d, tail, hSplit, hBlanks, hd⟩ :=
          exists_blanks (List.mem_append_right init (List.mem_singleton_self z)) hBlank
        have hClosing : isClosing d = false := by
          by_contra hBracket
          rw [Bool.not_eq_false] at hBracket
          refine h ⟨blanks, d, hBlanks, hBracket, [], tail, ?_⟩
          simp [hSplit]
        intro rest
        have hDrop := dropCommas_comma hBlanks hd (tail ++ rest)
        have hBehind := hRest rest
        rw [hSplit] at hBehind
        simp only [List.append_assoc, List.cons_append] at hBehind
        rw [List.cons_append, hSplit, List.cons_append, List.append_assoc, List.cons_append, hDrop,
          hClosing, if_neg (by decide), hBehind]
        simp
      · exact (keeps_char hc).append hRest

def withoutTrailing (L : Layout) : Layout := { L with trailing := false }

/-- A layout writes atoms with no trailing comma in them. -/
def SparesCommas (L : Layout) : Prop := ∀ v text, L.Writes v text → ¬ TrailsComma text

section

variable (hComments : L.comments = false)

include hComments

theorem isSpace_of_mem_gap {b : Bool} {gap : List Char} (h : Gap L b gap) :
    ∀ c ∈ gap, isSpace c = true := by
  induction h with
  | nil => simp
  | space hSpace hRest ih =>
      intro c hc
      rcases List.mem_cons.mp hc with rfl | hc
      · exact hSpace
      · exact ih c hc
  | comment hAllowed hText hRest ih => simp [hComments] at hAllowed

theorem isBlank_of_mem_gap {b : Bool} {gap : List Char} (h : Gap L b gap) :
    ∀ c ∈ gap, Text.isBlank c = true :=
  fun c hc => Json.isBlank_of_isSpace (isSpace_of_mem_gap hComments h c hc)

/-- A gap holds no comma, so it is kept, and it needs no trailing one. -/
theorem keeps_gap {b : Bool} {gap : List Char} (h : Gap L b gap) :
    Keeps gap gap ∧ Gap (withoutTrailing L) b gap := by
  have hSpaces := isSpace_of_mem_gap hComments h
  have hNoComma : ',' ∉ gap := fun hMem => by cases hSpaces _ hMem
  exact ⟨keeps_of_comma_not_mem hNoComma, Json.gap_of_isSpace hSpaces⟩

/-- A trailing comma goes, with the gap behind it, and only the bracket is left. -/
theorem keeps_closing {bracket : Char} {last : List Char} (h : Closing L bracket last)
    (hBracket : isClosing bracket = true) : Keeps last [bracket] := by
  cases h with
  | bracket =>
      apply keeps_char
      rintro rfl
      cases hBracket
  | comma hTrailing hGap => exact keeps_trailing (isBlank_of_mem_gap hComments hGap) hBracket

end

/-- A value without trailing commas in its strings is kept as it is. -/
theorem keeps_atom {v : Json} {text : List Char} (h : L.Writes v text) (hSpares : SparesCommas L) :
    Keeps text text := by
  obtain ⟨init, z, rfl, hz⟩ := h.atom.endsWith
  have hBlank : Text.isBlank z = false := Text.isBlank_eq_false_of (by decide) hz
  apply keeps_self (hSpares v _ h) hBlank
  rintro rfl
  cases hz

/-- A token of one character, and a gap behind it, are kept. -/
theorem keeps_behind (c : Char) (hc : c ≠ ',') {gap t t' : List Char} (hGap : Keeps gap gap)
    (ht : Keeps t t') : Keeps (c :: (gap ++ t)) (c :: (gap ++ t')) :=
  (keeps_char hc).append (hGap.append ht)

/-- A name, its colon and the gaps around it are kept. -/
theorem keeps_entry {name : Json} {key before after t t' : List Char} (hKey : L.Writes name key)
    (hSpares : SparesCommas L) (hBefore : Keeps before before) (hAfter : Keeps after after)
    (ht : Keeps t t') :
    Keeps (key ++ (before ++ ':' :: (after ++ t))) (key ++ (before ++ ':' :: (after ++ t'))) :=
  (keeps_atom hKey hSpares).append (hBefore.append (keeps_behind ':' (by decide) hAfter ht))

/-- Without its trailing commas a spelled text spells the same. -/
theorem keeps_spelled (hComments : L.comments = false) (hSpares : SparesCommas L) {part : Part}
    {text : List Char} (h : Spelled L part text) :
    ∃ text', Spelled (withoutTrailing L) part text' ∧ Keeps text text' := by
  induction h with
  | atom h => exact ⟨_, .atom ⟨h.atom, h.admitted⟩, keeps_atom h hSpares⟩
  | emptyList hGap hLast =>
      obtain ⟨hKeeps, hGap'⟩ := keeps_gap hComments hGap
      exact ⟨_, .emptyList hGap' .bracket,
        keeps_behind '[' (by decide) hKeeps (keeps_closing hComments hLast rfl)⟩
  | list hGap hItems ih =>
      obtain ⟨text', hText', hItemsKept⟩ := ih
      obtain ⟨hKeeps, hGap'⟩ := keeps_gap hComments hGap
      exact ⟨_, .list hGap' hText', keeps_behind '[' (by decide) hKeeps hItemsKept⟩
  | emptyObject hGap hLast =>
      obtain ⟨hKeeps, hGap'⟩ := keeps_gap hComments hGap
      exact ⟨_, .emptyObject hGap' .bracket,
        keeps_behind '\x7b' (by decide) hKeeps (keeps_closing hComments hLast rfl)⟩
  | object hGap hFields ih =>
      obtain ⟨text', hText', hFieldsKept⟩ := ih
      obtain ⟨hKeeps, hGap'⟩ := keeps_gap hComments hGap
      exact ⟨_, .object hGap' hText', keeps_behind '\x7b' (by decide) hKeeps hFieldsKept⟩
  | lastItem hValue hGap hLast ih =>
      obtain ⟨text', hText', hKept⟩ := ih
      obtain ⟨hKeeps, hGap'⟩ := keeps_gap hComments hGap
      exact ⟨_, .lastItem hText' hGap' .bracket,
        hKept.append (hKeeps.append (keeps_closing hComments hLast rfl))⟩
  | item hValue hGap hNext hRest ih ihRest =>
      obtain ⟨text', hText', hKept⟩ := ih
      obtain ⟨rest', hRest', hMore⟩ := ihRest
      obtain ⟨hKeeps, hGap'⟩ := keeps_gap hComments hGap
      obtain ⟨-, hNext'⟩ := keeps_gap hComments hNext
      have hComma := keeps_comma (isBlank_of_mem_gap hComments hNext) hRest.startsWith hMore
      exact ⟨_, .item hText' hGap' hNext' hRest', hKept.append (hKeeps.append hComma)⟩
  | lastField hKey hBefore hAfter hValue hGap hLast ih =>
      obtain ⟨text', hText', hKept⟩ := ih
      obtain ⟨hKeeps, hGap'⟩ := keeps_gap hComments hGap
      obtain ⟨hKeepsBefore, hBefore'⟩ := keeps_gap hComments hBefore
      obtain ⟨hKeepsAfter, hAfter'⟩ := keeps_gap hComments hAfter
      have hValue' := hKept.append (hKeeps.append (keeps_closing hComments hLast rfl))
      exact ⟨_, .lastField ⟨hKey.atom, hKey.admitted⟩ hBefore' hAfter' hText' hGap' .bracket,
        keeps_entry hKey hSpares hKeepsBefore hKeepsAfter hValue'⟩
  | field hKey hBefore hAfter hValue hGap hNext hRest ih ihRest =>
      obtain ⟨text', hText', hKept⟩ := ih
      obtain ⟨rest', hRest', hMore⟩ := ihRest
      obtain ⟨hKeeps, hGap'⟩ := keeps_gap hComments hGap
      obtain ⟨-, hNext'⟩ := keeps_gap hComments hNext
      obtain ⟨hKeepsBefore, hBefore'⟩ := keeps_gap hComments hBefore
      obtain ⟨hKeepsAfter, hAfter'⟩ := keeps_gap hComments hAfter
      have hComma := keeps_comma (isBlank_of_mem_gap hComments hNext) hRest.startsWith hMore
      have hValue' := hKept.append (hKeeps.append hComma)
      exact ⟨_, .field ⟨hKey.atom, hKey.admitted⟩ hBefore' hAfter' hText' hGap' hNext' hRest',
        keeps_entry hKey hSpares hKeepsBefore hKeepsAfter hValue'⟩

end ScenarioRunner.Decision
