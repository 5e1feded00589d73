import ScenarioRunner.Json.Reader
import ScenarioRunner.Proofs.Text.Blank

/-! How JSON values are spelled. An atom is a word, a number or a string literal; lists and objects
are made of values with gaps between their tokens. A layout says what may stand in a text beyond the
standard: comments in the gaps, and a comma before a closing bracket. -/
namespace ScenarioRunner.Json

/-! String literals. -/

/-- Four hexadecimal digits spell a code unit. -/
inductive CodeUnit : List Char → Nat → Prop
  | digits {a b c d : Char} {i j k l : Nat} (ha : hexValue? a = some i) (hb : hexValue? b = some j)
      (hc : hexValue? c = some k) (hd : hexValue? d = some l) :
      CodeUnit [a, b, c, d] (((i * 16 + j) * 16 + k) * 16 + l)

/-- Is the first of two code units that stand for one character. -/
def IsHigh (n : Nat) : Prop := 0xD800 ≤ n ∧ n ≤ 0xDBFF

def IsLow (n : Nat) : Prop := 0xDC00 ≤ n ∧ n ≤ 0xDFFF

def unitEscape (digits : List Char) : List Char := '\\' :: 'u' :: digits

/-- What a string literal stands for, and what is written between its quotes. Control characters are
written as escapes; a code unit stands alone unless it makes a pair with the next one. -/
inductive Inside : List Char → List Char → Prop
  | nil : Inside [] []
  | plain {c : Char} {chars raw : List Char} (hQuote : c ≠ '"') (hBackslash : c ≠ '\\')
      (hControl : ¬ c.toNat < 0x20) (hRest : Inside chars raw) : Inside (c :: chars) (c :: raw)
  | letter {c e : Char} {chars raw : List Char} (hLetter : escapeLetter? c = some e)
      (hRest : Inside chars raw) : Inside (e :: chars) ('\\' :: c :: raw)
  | pair {first second chars raw : List Char} {high low : Nat} (hFirst : CodeUnit first high)
      (hHigh : IsHigh high) (hSecond : CodeUnit second low) (hLow : IsLow low)
      (hRest : Inside chars raw) :
      Inside (Char.ofNat (0x10000 + (high - 0xD800) * 0x400 + (low - 0xDC00)) :: chars)
        (unitEscape first ++ (unitEscape second ++ raw))
  | unit {digits chars raw : List Char} {n : Nat} (hDigits : CodeUnit digits n)
      (hLone : IsHigh n → ∀ second low rest, CodeUnit second low → IsLow low →
        raw ≠ unitEscape second ++ rest)
      (hRest : Inside chars raw) : Inside (unitChar n :: chars) (unitEscape digits ++ raw)

/-- Plain characters spell themselves. -/
theorem Inside.self {s : List Char} (h : ∀ c ∈ s, c ≠ '"' ∧ c ≠ '\\' ∧ ¬ c.toNat < 0x20) :
    Inside s s := by
  induction s with
  | nil => exact .nil
  | cons c s ih =>
      obtain ⟨hQuote, hBackslash, hControl⟩ := h c List.mem_cons_self
      exact .plain hQuote hBackslash hControl (ih fun d hd => h d (List.mem_cons_of_mem c hd))

/-! Numbers. -/

/-- Digits before a point: a zero, or digits that do not start with one. -/
structure IsWhole (ds : List Char) : Prop where
  nonempty : ds ≠ []
  digits : ∀ c ∈ ds, isAsciiDigit c = true
  zero : ds.head? = some '0' → ds = ['0']

structure IsDigits (ds : List Char) : Prop where
  nonempty : ds ≠ []
  digits : ∀ c ∈ ds, isAsciiDigit c = true

/-- A fraction and its places, or nothing. -/
inductive Fraction : List Char → List Char → Prop
  | none : Fraction [] []
  | places {ds : List Char} (h : IsDigits ds) : Fraction ('.' :: ds) ds

/-- How the sign of an exponent may be written. -/
inductive ExponentSign : List Char → Bool → Prop
  | none : ExponentSign [] false
  | plus : ExponentSign ['+'] false
  | minus : ExponentSign ['-'] true

def signed (negative : Bool) (n : Nat) : Int := if negative then -(n : Int) else n

/-- An exponent and its value, or nothing. -/
inductive Exponent : List Char → Int → Prop
  | none : Exponent [] 0
  | power {mark : Char} {sign ds : List Char} {negative : Bool} (hMark : mark = 'e' ∨ mark = 'E')
      (hSign : ExponentSign sign negative) (h : IsDigits ds) :
      Exponent (mark :: (sign ++ ds)) (signed negative (naturalOf ds))

def minus (negative : Bool) : List Char := if negative then ['-'] else []

/-! Values. -/

/-- What an atom stands for, and how it is written. -/
inductive Atom : Json → List Char → Prop
  | word {text : List Char} {v : Json} (h : (text, v) ∈ words) : Atom v text
  | integer {negative : Bool} {whole : List Char} (hWhole : IsWhole whole) :
      Atom (.int (signed negative (naturalOf whole))) (minus negative ++ whole)
  | decimal {negative : Bool} {whole fraction places exponent : List Char} {power : Int}
      (hWhole : IsWhole whole) (hFraction : Fraction fraction places)
      (hExponent : Exponent exponent power) (hPart : fraction ++ exponent ≠ []) :
      Atom (.float (.ofDecimal negative (naturalOf (whole ++ places)) (power - places.length)))
        (minus negative ++ (whole ++ (fraction ++ exponent)))
  | string {chars raw : List Char} (h : Inside chars raw) :
      Atom (.str (String.ofList chars)) ('"' :: (raw ++ ['"']))

/-- What may stand in a text. -/
structure Layout where
  /-- Comments may stand in gaps. -/
  comments : Bool := false
  /-- A comma may stand before a closing bracket. -/
  trailing : Bool := false
  /-- The texts that may stand for an atom. -/
  admits : Json → List Char → Prop := fun _ _ => True

def standard : Layout := {}

/-- A gap between tokens: blank space, and comments if the layout has them. A comment starts behind
blank space, or where the flag says that it may, and ends its line. -/
inductive Gap (L : Layout) : Bool → List Char → Prop
  | nil {mayOpen : Bool} : Gap L mayOpen []
  | space {mayOpen : Bool} {c : Char} {gap : List Char} (hSpace : isSpace c = true)
      (hRest : Gap L true gap) : Gap L mayOpen (c :: gap)
  | comment {text gap : List Char} (hComments : L.comments = true) (hText : '\n' ∉ text)
      (hRest : Gap L true gap) : Gap L true ('/' :: '/' :: (text ++ '\n' :: gap))

/-- The bracket that closes a list or an object, perhaps behind a comma. -/
inductive Closing (L : Layout) (bracket : Char) : List Char → Prop
  | bracket : Closing L bracket [bracket]
  | comma {gap : List Char} (hTrailing : L.trailing = true) (hGap : Gap L true gap) :
      Closing L bracket (',' :: (gap ++ [bracket]))

/-- A part of a document: a value, or all of a list or an object from its first entry on. -/
inductive Part
  | value (v : Json)
  | items (l : List Json)
  | fields (l : List (String × Json))

def closes : Json → Bool
  | .arr _ | .obj _ => true
  | _ => false

/-- A layout lets a text stand for an atom. -/
structure Layout.Writes (L : Layout) (v : Json) (text : List Char) : Prop where
  atom : Atom v text
  admitted : L.admits v text

/-- The texts of the parts of a document. -/
inductive Spelled (L : Layout) : Part → List Char → Prop
  | atom {v : Json} {text : List Char} (h : L.Writes v text) : Spelled L (.value v) text
  | emptyList {gap last : List Char} (hGap : Gap L false gap) (hLast : Closing L ']' last) :
      Spelled L (.value (.arr [])) ('[' :: (gap ++ last))
  | list {l : List Json} {gap text : List Char} (hGap : Gap L false gap)
      (hItems : Spelled L (.items l) text) : Spelled L (.value (.arr l)) ('[' :: (gap ++ text))
  | emptyObject {gap last : List Char} (hGap : Gap L false gap) (hLast : Closing L '\x7d' last) :
      Spelled L (.value (.obj [])) ('\x7b' :: (gap ++ last))
  | object {l : List (String × Json)} {gap text : List Char} (hGap : Gap L false gap)
      (hFields : Spelled L (.fields l) text) :
      Spelled L (.value (.obj (Assoc.ofPairs l))) ('\x7b' :: (gap ++ text))
  | lastItem {v : Json} {text gap last : List Char} (hValue : Spelled L (.value v) text)
      (hGap : Gap L (closes v) gap) (hLast : Closing L ']' last) :
      Spelled L (.items [v]) (text ++ (gap ++ last))
  | item {v : Json} {l : List Json} {text gap next rest : List Char}
      (hValue : Spelled L (.value v) text) (hGap : Gap L (closes v) gap) (hNext : Gap L true next)
      (hRest : Spelled L (.items l) rest) :
      Spelled L (.items (v :: l)) (text ++ (gap ++ ',' :: (next ++ rest)))
  | lastField {name : String} {v : Json} {key before after text gap last : List Char}
      (hKey : L.Writes (.str name) key) (hBefore : Gap L false before) (hAfter : Gap L false after)
      (hValue : Spelled L (.value v) text) (hGap : Gap L (closes v) gap)
      (hLast : Closing L '\x7d' last) :
      Spelled L (.fields [(name, v)]) (key ++ (before ++ ':' :: (after ++ (text ++ (gap ++ last)))))
  | field {name : String} {v : Json} {l : List (String × Json)}
      {key before after text gap next rest : List Char} (hKey : L.Writes (.str name) key)
      (hBefore : Gap L false before) (hAfter : Gap L false after)
      (hValue : Spelled L (.value v) text) (hGap : Gap L (closes v) gap) (hNext : Gap L true next)
      (hRest : Spelled L (.fields l) rest) :
      Spelled L (.fields ((name, v) :: l))
        (key ++ (before ++ ':' :: (after ++ (text ++ (gap ++ ',' :: (next ++ rest))))))

/-- A text is a document: a value between blank space. -/
inductive Document (v : Json) : List Char → Prop
  | spelled {before text after : List Char} (hBefore : ∀ c ∈ before, isSpace c = true)
      (hText : Spelled standard (.value v) text) (hAfter : ∀ c ∈ after, isSpace c = true) :
      Document v (before ++ (text ++ after))

/-! The first and the last character of a text. -/

def startsValue (c : Char) : Bool :=
  isAsciiDigit c || ['"', '\x7b', '[', '-', 'n', 't', 'f', 'N', 'I'].contains c

def endsAtom (c : Char) : Bool := isAsciiDigit c || ['"', 'l', 'e', 'N', 'y'].contains c

def isClosing (c : Char) : Bool := c == ']' || c == '\x7d'

theorem isClosing_iff {c : Char} : isClosing c = true ↔ c = ']' ∨ c = '\x7d' := by
  simp [isClosing]

theorem isSpace_iff {c : Char} : isSpace c = true ↔ c = ' ' ∨ c = '\t' ∨ c = '\n' ∨ c = '\r' := by
  simp [isSpace, or_assoc]

theorem isBlank_of_isSpace {c : Char} (h : isSpace c = true) : Text.isBlank c = true := by
  rcases isSpace_iff.mp h with rfl | rfl | rfl | rfl <;> decide

theorem isBlank_eq_false_of_startsValue {c : Char} (h : startsValue c = true) :
    Text.isBlank c = false :=
  Text.isBlank_eq_false_of (by decide) h

theorem isSpace_eq_false {c : Char} (h : Text.isBlank c = false) : isSpace c = false := by
  cases hSpace : isSpace c with
  | false => rfl
  | true => simp [isBlank_of_isSpace hSpace] at h

/-- Spaces alone are a gap in every layout. -/
theorem gap_of_isSpace {L : Layout} {mayOpen : Bool} {gap : List Char}
    (h : ∀ c ∈ gap, isSpace c = true) : Gap L mayOpen gap := by
  induction gap generalizing mayOpen with
  | nil => exact .nil
  | cons c gap ih =>
      exact .space (h c List.mem_cons_self) (ih fun d hd => h d (List.mem_cons_of_mem c hd))

def StartsWith (p : Char → Bool) (s : List Char) : Prop := ∃ c rest, s = c :: rest ∧ p c = true

def EndsWith (p : Char → Bool) (s : List Char) : Prop := ∃ init c, s = init ++ [c] ∧ p c = true

theorem StartsWith.append {p : Char → Bool} {s : List Char} (h : StartsWith p s)
    (after : List Char) : StartsWith p (s ++ after) := by
  obtain ⟨c, rest, rfl, hc⟩ := h
  exact ⟨c, rest ++ after, rfl, hc⟩

theorem IsWhole.startsWith {ds : List Char} (h : IsWhole ds) : StartsWith isAsciiDigit ds := by
  cases ds with
  | nil => exact absurd rfl h.nonempty
  | cons d ds => exact ⟨d, ds, rfl, h.digits d List.mem_cons_self⟩

theorem startsWith_number {negative : Bool} {whole : List Char} (h : IsWhole whole)
    (rest : List Char) :
    StartsWith startsValue (minus negative ++ (whole ++ rest)) := by
  obtain ⟨d, ds, rfl, hd⟩ := h.startsWith
  cases negative with
  | true => exact ⟨'-', _, rfl, rfl⟩
  | false => exact ⟨d, _, rfl, by simp [startsValue, hd]⟩

/-- An atom starts as values do. -/
theorem Atom.startsWith {v : Json} {text : List Char} (h : Atom v text) :
    StartsWith startsValue text := by
  cases h with
  | word h =>
      simp only [words, List.mem_cons, Prod.mk.injEq, List.not_mem_nil, or_false] at h
      rcases h with h | h | h | h | h | h <;> rw [h.1] <;> exact ⟨_, _, rfl, rfl⟩
  | integer h => simpa using startsWith_number h []
  | decimal h => exact startsWith_number h _
  | string h => exact ⟨'"', _, rfl, rfl⟩

/-- A list, an object and their parts start as values do, too. -/
theorem Spelled.startsWith {L : Layout} {part : Part} {text : List Char} (h : Spelled L part text) :
    StartsWith startsValue text := by
  induction h with
  | atom h => exact h.atom.startsWith
  | emptyList hGap hLast => exact ⟨'[', _, rfl, rfl⟩
  | list hGap hItems ih => exact ⟨'[', _, rfl, rfl⟩
  | emptyObject hGap hLast => exact ⟨'\x7b', _, rfl, rfl⟩
  | object hGap hFields ih => exact ⟨'\x7b', _, rfl, rfl⟩
  | lastItem hValue hGap hLast ih => exact ih.append _
  | item hValue hGap hNext hRest ih ihRest => exact ih.append _
  | lastField hKey hBefore hAfter hValue hGap hLast ih => exact hKey.atom.startsWith.append _
  | field hKey hBefore hAfter hValue hGap hNext hRest ih ihRest =>
      exact hKey.atom.startsWith.append _

theorem EndsWith.prepend {p : Char → Bool} {s : List Char} (h : EndsWith p s) (before : List Char) :
    EndsWith p (before ++ s) := by
  obtain ⟨init, c, rfl, hc⟩ := h
  exact ⟨before ++ init, c, (List.append_assoc ..).symm, hc⟩

theorem IsDigits.endsWith {ds : List Char} (h : IsDigits ds) : EndsWith endsAtom ds := by
  obtain ⟨init, d, rfl⟩ := List.eq_nil_or_concat' ds |>.resolve_left h.nonempty
  exact ⟨init, d, rfl, by simp [endsAtom, h.digits d (by simp)]⟩

/-- An exponent that is there ends with a digit. -/
theorem Exponent.endsWith {text : List Char} {power : Int} (h : Exponent text power)
    (hText : text ≠ []) : EndsWith endsAtom text := by
  cases h with
  | none => exact absurd rfl hText
  | power hMark hSign h =>
      rename_i mark sign ds negative
      exact h.endsWith.prepend (mark :: sign)

/-- A fraction that is there ends with a digit. -/
theorem Fraction.endsWith {text places : List Char} (h : Fraction text places)
    (hText : text ≠ []) : EndsWith endsAtom text := by
  cases h with
  | none => exact absurd rfl hText
  | places h => exact h.endsWith.prepend ['.']

/-- The text of an atom ends with none of the brackets. -/
theorem Atom.endsWith {v : Json} {text : List Char} (h : Atom v text) :
    EndsWith endsAtom text := by
  cases h with
  | word h =>
      simp only [words, List.mem_cons, Prod.mk.injEq, List.not_mem_nil, or_false] at h
      rcases h with h | h | h | h | h | h <;> rw [h.1]
      · exact ⟨"nul".toList, 'l', rfl, rfl⟩
      · exact ⟨"tru".toList, 'e', rfl, rfl⟩
      · exact ⟨"fals".toList, 'e', rfl, rfl⟩
      · exact ⟨"Na".toList, 'N', rfl, rfl⟩
      · exact ⟨"Infinit".toList, 'y', rfl, rfl⟩
      · exact ⟨"-Infinit".toList, 'y', rfl, rfl⟩
  | integer h => exact IsDigits.endsWith ⟨h.nonempty, h.digits⟩ |>.prepend _
  | decimal hWhole hFraction hExponent hPart =>
      rename_i negative whole fraction places exponent power
      apply EndsWith.prepend
      apply EndsWith.prepend
      by_cases hNone : exponent = []
      · subst hNone
        rw [List.append_nil] at hPart ⊢
        exact hFraction.endsWith hPart
      · exact (hExponent.endsWith hNone).prepend _
  | string h =>
      rename_i chars raw
      exact ⟨'"' :: raw, '"', rfl, rfl⟩

/-- What closes a list or an object ends with its bracket. -/
theorem Closing.endsWith {L : Layout} {bracket : Char} {text : List Char}
    (h : Closing L bracket text) : EndsWith (· == bracket) text := by
  cases h with
  | bracket => exact ⟨[], bracket, rfl, beq_self_eq_true bracket⟩
  | comma hTrailing hGap =>
      rename_i gap
      exact ⟨',' :: gap, bracket, rfl, beq_self_eq_true bracket⟩

def Part.closed : Part → Bool
  | .value v => closes v
  | .items _ | .fields _ => true

def Part.ends : Part → Char → Bool
  | .value (.arr _) | .items _ => (· == ']')
  | .value (.obj _) | .fields _ => (· == '\x7d')
  | .value _ => endsAtom

/-- An atom is never closed by a bracket. -/
theorem Atom.closes_eq_false {v : Json} {text : List Char} (h : Atom v text) :
    closes v = false := by
  cases h with
  | word h =>
      simp only [words, List.mem_cons, Prod.mk.injEq, List.not_mem_nil, or_false] at h
      rcases h with h | h | h | h | h | h <;> rw [h.2] <;> rfl
  | integer h => rfl
  | decimal hWhole hFraction hExponent hPart => rfl
  | string h => rfl

theorem Atom.ends_eq {v : Json} {text : List Char} (h : Atom v text) :
    (Part.value v).ends = endsAtom := by
  have hCloses := h.closes_eq_false
  cases v with
  | arr items => cases hCloses
  | obj fields => cases hCloses
  | _ => rfl

/-- Each part of a document ends as its kind does. -/
theorem Spelled.endsWith {L : Layout} {part : Part} {text : List Char} (h : Spelled L part text) :
    EndsWith part.ends text := by
  induction h with
  | atom h =>
      rw [h.atom.ends_eq]
      exact h.atom.endsWith
  | emptyList hGap hLast => exact hLast.endsWith.prepend _ |>.prepend ['[']
  | list hGap hItems ih => exact ih.prepend _ |>.prepend ['[']
  | emptyObject hGap hLast => exact hLast.endsWith.prepend _ |>.prepend ['\x7b']
  | object hGap hFields ih => exact ih.prepend _ |>.prepend ['\x7b']
  | lastItem hValue hGap hLast ih => exact hLast.endsWith.prepend _ |>.prepend _
  | item hValue hGap hNext hRest ih ihRest =>
      exact ihRest.prepend _ |>.prepend [','] |>.prepend _ |>.prepend _
  | lastField hKey hBefore hAfter hValue hGap hLast ih =>
      exact hLast.endsWith.prepend _ |>.prepend _ |>.prepend _ |>.prepend [':'] |>.prepend _
        |>.prepend _
  | field hKey hBefore hAfter hValue hGap hNext hRest ih ihRest =>
      exact ihRest.prepend _ |>.prepend [','] |>.prepend _ |>.prepend _ |>.prepend _
        |>.prepend [':'] |>.prepend _ |>.prepend _

/-- The text of an object stands between braces. -/
theorem Spelled.exists_braces {L : Layout} {fields : List (String × Json)} {text : List Char}
    (h : Spelled L (.value (.obj fields)) text) :
    ∃ inner, text = '\x7b' :: (inner ++ ['\x7d']) := by
  have hStart : text.head? = some '\x7b' := by
    cases h with
    | atom h => cases h.atom.closes_eq_false
    | emptyObject hGap hLast => rfl
    | object hGap hFields => rfl
  obtain ⟨init, z, rfl, hz⟩ := h.endsWith
  obtain rfl : z = '\x7d' := by simpa [Part.ends] using hz
  cases init with
  | nil => cases hStart
  | cons c inner =>
      cases hStart
      exact ⟨inner, rfl⟩

/-- A part ends with a closing bracket or as an atom does. -/
theorem Part.ends_cases {part : Part} {c : Char} (h : part.ends c = true) :
    isClosing c = true ∨ endsAtom c = true := by
  unfold Part.ends at h
  split at h
  · exact .inl (by simp [isClosing, h])
  · exact .inl (by simp [isClosing, h])
  · exact .inl (by simp [isClosing, h])
  · exact .inl (by simp [isClosing, h])
  · exact .inr h

/-- No part ends with a blank. -/
theorem isBlank_eq_false_of_ends {part : Part} {c : Char} (h : part.ends c = true) :
    Text.isBlank c = false := by
  rcases part.ends_cases h with hClosing | hAtom
  · exact Text.isBlank_eq_false_of (by decide) hClosing
  · exact Text.isBlank_eq_false_of (by decide) hAtom

/-- Around a spelled text, trimming works on what stands before it and behind it. -/
theorem Spelled.trim_append {L : Layout} {part : Part} {text : List Char} (h : Spelled L part text)
    (before after : List Char) :
    Text.trim (before ++ (text ++ after)) =
      before.dropWhile Text.isBlank ++ (text ++ Text.trimEnd after) := by
  obtain ⟨init, z, hText, hz⟩ := h.endsWith
  have hEnd : Text.trimEnd (before.dropWhile Text.isBlank ++ (text ++ after)) =
      before.dropWhile Text.isBlank ++ (text ++ Text.trimEnd after) := by
    have hLast := Text.trimEnd_append_cons (isBlank_eq_false_of_ends hz)
      (before.dropWhile Text.isBlank ++ init) after
    simpa [hText] using hLast
  obtain ⟨c, rest, rfl, hc⟩ := h.startsWith
  rw [← hEnd]
  exact Text.trim_append_cons (isBlank_eq_false_of_startsValue hc) before (rest ++ after)

/-! No atom is written on more than one line. -/

theorem newline_not_mem_unitEscape {digits : List Char} {n : Nat} (h : CodeUnit digits n) :
    '\n' ∉ unitEscape digits := by
  have hHex : ∀ {c : Char} {i : Nat}, hexValue? c = some i → '\n' ≠ c := by
    rintro c i hc rfl
    cases hc
  cases h with
  | digits ha hb hc hd => simp [unitEscape, hHex ha, hHex hb, hHex hc, hHex hd]

/-- The inside of a string holds no newline, since none may stand there unescaped. -/
theorem Inside.newline_not_mem {chars raw : List Char} (h : Inside chars raw) : '\n' ∉ raw := by
  induction h with
  | nil => simp
  | plain hQuote hBackslash hControl hRest ih =>
      rw [List.mem_cons, not_or]
      refine ⟨?_, ih⟩
      rintro rfl
      exact hControl (by decide)
  | letter hLetter hRest ih =>
      rename_i c e chars raw
      have hNewline : '\n' ≠ c := by
        rintro rfl
        cases hLetter
      simp [hNewline, ih]
  | pair hFirst hHigh hSecond hLow hRest ih =>
      rw [List.mem_append, List.mem_append, not_or, not_or]
      exact ⟨newline_not_mem_unitEscape hFirst, newline_not_mem_unitEscape hSecond, ih⟩
  | unit hDigits hLone hRest ih =>
      rw [List.mem_append, not_or]
      exact ⟨newline_not_mem_unitEscape hDigits, ih⟩

theorem newline_not_mem_digits {ds : List Char} (h : ∀ c ∈ ds, isAsciiDigit c = true) :
    '\n' ∉ ds := fun hMem => by cases h _ hMem

theorem newline_not_mem_minus (negative : Bool) : '\n' ∉ minus negative := by
  cases negative <;> simp [minus]

theorem Fraction.newline_not_mem {text places : List Char} (h : Fraction text places) :
    '\n' ∉ text := by
  cases h with
  | none => simp
  | places h => simp [newline_not_mem_digits h.digits]

theorem Exponent.newline_not_mem {text : List Char} {power : Int} (h : Exponent text power) :
    '\n' ∉ text := by
  cases h with
  | none => simp
  | power hMark hSign h =>
      rw [List.mem_cons, List.mem_append, not_or, not_or]
      refine ⟨?_, ?_, newline_not_mem_digits h.digits⟩
      · rcases hMark with rfl | rfl <;> decide
      · cases hSign <;> decide

/-- An atom is spelled on one line. -/
theorem Atom.newline_not_mem {v : Json} {text : List Char} (h : Atom v text) : '\n' ∉ text := by
  cases h with
  | word h =>
      simp only [words, List.mem_cons, Prod.mk.injEq, List.not_mem_nil, or_false] at h
      rcases h with h | h | h | h | h | h <;> rw [h.1] <;> decide
  | integer h =>
      rw [List.mem_append, not_or]
      exact ⟨newline_not_mem_minus _, newline_not_mem_digits h.digits⟩
  | decimal hWhole hFraction hExponent hPart =>
      simp only [List.mem_append, not_or]
      exact ⟨newline_not_mem_minus _, newline_not_mem_digits hWhole.digits,
        hFraction.newline_not_mem, hExponent.newline_not_mem⟩
  | string h => simp [h.newline_not_mem]

end ScenarioRunner.Json
