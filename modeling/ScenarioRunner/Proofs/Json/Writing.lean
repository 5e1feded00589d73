import ScenarioRunner.Json.Writer
import ScenarioRunner.Proofs.Assoc
import ScenarioRunner.Proofs.Json.Document

/-! What the writer writes is read back. A text that is written in either style is a spelling of its
value in the standard layout: escapes stand for the characters that they were made of, the digits of an
integer for that integer, and what sets items apart is blank space. Numbers with fractions are left
out. -/
namespace ScenarioRunner

namespace Json

/-! Characters. -/

theorem hexValue?_hexDigit {d : Nat} (hd : d < 16) : hexValue? (Text.hexDigit d) = some d := by
  revert d
  decide

/-- Four digits are written for a code unit, which they spell. -/
theorem codeUnit_hex {n : Nat} (hn : n < 0x10000) : CodeUnit (Text.hex 4 n) n := by
  have hUnit := CodeUnit.digits (hexValue?_hexDigit (d := n / 16 / 16 / 16 % 16) (by omega))
    (hexValue?_hexDigit (d := n / 16 / 16 % 16) (by omega))
    (hexValue?_hexDigit (d := n / 16 % 16) (by omega)) (hexValue?_hexDigit (d := n % 16) (by omega))
  have hCode : (((n / 16 / 16 / 16 % 16) * 16 + n / 16 / 16 % 16) * 16 + n / 16 % 16) * 16 +
      n % 16 = n := by omega
  rw [hCode] at hUnit
  exact hUnit

/-- What is written for a character stands for it. -/
theorem Inside.escaped {chars raw : List Char} (hRest : Inside chars raw) (c : Char) :
    Inside (c :: chars) (escapedChar c ++ raw) := by
  unfold escapedChar
  split_ifs with hQuote hBackslash hNewline hReturn hTab hBack hFeed hControl
  · obtain rfl := eq_of_beq hQuote
    exact .letter rfl hRest
  · obtain rfl := eq_of_beq hBackslash
    exact .letter rfl hRest
  · obtain rfl := eq_of_beq hNewline
    exact .letter rfl hRest
  · obtain rfl := eq_of_beq hReturn
    exact .letter rfl hRest
  · obtain rfl := eq_of_beq hTab
    exact .letter rfl hRest
  · obtain rfl := eq_of_beq hBack
    exact .letter rfl hRest
  · obtain rfl := eq_of_beq hFeed
    exact .letter rfl hRest
  · have hLone : ¬ IsHigh c.toNat := fun hHigh => by
      have := hHigh.1
      omega
    have hChar : unitChar c.toNat = c := by
      rw [unitChar, if_neg, Char.ofNat_toNat]
      simp only [Bool.and_eq_true, decide_eq_true_eq]
      omega
    have hUnit := Inside.unit (codeUnit_hex (n := c.toNat) (by omega))
      (fun hHigh => absurd hHigh hLone) hRest
    rwa [hChar] at hUnit
  · exact .plain (fun h => hQuote (beq_iff_eq.mpr h)) (fun h => hBackslash (beq_iff_eq.mpr h))
      hControl hRest

/-- Characters that are escaped one by one make the inside of a string. -/
theorem inside_flatMap_escapedChar (chars : List Char) :
    Inside chars (chars.flatMap escapedChar) := by
  induction chars with
  | nil => exact .nil
  | cons c chars ih => exact ih.escaped c

/-- A literal is a string by the grammar. -/
theorem atom_literal (s : String) : Atom (.str s) (literal s) := by
  have hAtom := Atom.string (inside_flatMap_escapedChar s.toList)
  rwa [String.ofList_toList] at hAtom

/-! Integers. -/

theorem isAsciiDigit_of_isDigit {c : Char} (h : c.isDigit = true) : isAsciiDigit c = true := h

/-- A number is read back from its digits. -/
theorem naturalOf_toDigits (n : Nat) : naturalOf (Nat.toDigits 10 n) = n := by
  rw [naturalOf, Numeral.ofDigits, List.foldl_map]
  exact Nat.ofDigitChars_toDigits (by decide) (by decide)

/-- The digits of a number start with a zero only if it is zero. -/
theorem toDigits_eq_of_head? {n : Nat} (hZero : (Nat.toDigits 10 n).head? = some '0') :
    Nat.toDigits 10 n = ['0'] := by
  induction n using Nat.strongRecOn with
  | ind n ih =>
      rcases Nat.lt_or_ge n 10 with hLess | hMore
      · rw [Nat.toDigits_of_lt_base hLess] at hZero ⊢
        rw [Option.some.inj hZero]
      · rw [Nat.toDigits_of_base_le (by decide) hMore,
          List.head?_append_of_ne_nil _ Nat.toDigits_ne_nil] at hZero
        have hFront := naturalOf_toDigits (n / 10)
        rw [ih (n / 10) (by omega) hZero] at hFront
        have hNone : naturalOf ['0'] = 0 := rfl
        omega

/-- The digits of a number are a whole part without leading zeros. -/
theorem isWhole_toDigits (n : Nat) : IsWhole (Nat.toDigits 10 n) where
  nonempty := Nat.toDigits_ne_nil
  digits _ hc := isAsciiDigit_of_isDigit (Nat.isDigit_of_mem_toDigits (by decide) (by decide) hc)
  zero := toDigits_eq_of_head?

/-- The text of an integer is a minus, if it is negative, and the digits of its size. -/
theorem toList_toString (n : Int) :
    (toString n).toList = minus (decide (n < 0)) ++ Nat.toDigits 10 n.natAbs := by
  have hRepr (m : Nat) : m.repr.toList = Nat.toDigits 10 m := by
    rw [Nat.repr_eq_ofList_toDigits, String.toList_ofList]
  rw [Int.toString_eq_repr]
  cases n with
  | ofNat m => exact hRepr m
  | negSucc m =>
      show ("-" ++ (m + 1).repr).toList = _
      rw [String.toList_append, hRepr, decide_eq_true (Int.negSucc_lt_zero m)]
      rfl

/-- An integer that is written is a number by the grammar. -/
theorem atom_toString (n : Int) : Atom (.int n) (toString n).toList := by
  have hAtom := @Atom.integer (decide (n < 0)) _ (isWhole_toDigits n.natAbs)
  have hValue : signed (decide (n < 0)) (naturalOf (Nat.toDigits 10 n.natAbs)) = n := by
    rw [naturalOf_toDigits, signed]
    split
    · rename_i hNegative
      have hLess := of_decide_eq_true hNegative
      omega
    · rename_i hOther
      have hLeast := mt decide_eq_true hOther
      omega
  rw [hValue, ← toList_toString] at hAtom
  exact hAtom

/-! Values. -/

/-- The integer has no more digits than are read. -/
def IsPrintable (n : Int) : Prop := (Nat.toDigits 10 n.natAbs).length ≤ Numeral.maxDigits

instance (n : Int) : Decidable (IsPrintable n) := inferInstanceAs (Decidable (_ ≤ _))

/-- The value can be written and read back: it has no number with a fraction, no integer with more
digits than are read, and no two fields of one name. -/
inductive Writable : Json → Prop
  | null : Writable .null
  | bool (b : Bool) : Writable (.bool b)
  | int {n : Int} (hDigits : IsPrintable n) : Writable (.int n)
  | str (s : String) : Writable (.str s)
  | arr {items : List Json} (hItems : ∀ v ∈ items, Writable v) : Writable (.arr items)
  | obj {fields : List (String × Json)} (hNames : (Assoc.keys fields).Nodup)
      (hFields : ∀ field ∈ fields, Writable field.2) : Writable (.obj fields)

/-- What the writer makes use of: the standard layout with integers that can be read. -/
def brief : Layout where
  admits v text := ∀ n, v = .int n → text.countP isAsciiDigit ≤ Numeral.maxDigits

theorem short_brief : brief.Short := by
  intro negative whole hWhole hAdmits
  have hDigits := hAdmits _ rfl
  rw [List.countP_append, List.countP_eq_length.mpr hWhole.digits] at hDigits
  omega

/-- A string may be written as a literal in the brief spelling. -/
theorem writes_literal (s : String) : brief.Writes (.str s) (literal s) :=
  ⟨atom_literal s, fun n hn => by cases hn⟩

/-- An integer may be written by its digits, unless there are too many. -/
theorem writes_toString {n : Int} (h : IsPrintable n) :
    brief.Writes (.int n) (toString n).toList := by
  refine ⟨atom_toString n, fun m _ => ?_⟩
  have hMinus : (minus (decide (n < 0))).countP isAsciiDigit = 0 := by
    cases decide (n < 0) <;> rfl
  rw [toList_toString, List.countP_append, hMinus, Nat.zero_add]
  exact Nat.le_trans List.countP_le_length h

/-! Layouts. Items are set apart by blanks and newlines. -/

/-- A line break with its indentation is a gap. -/
theorem gap_newline (style : Style) (mayOpen : Bool) : Gap brief mayOpen style.newline := by
  apply gap_of_isSpace
  intro c hc
  cases style with
  | compact => cases hc
  | indented depth =>
      rcases List.mem_cons.mp hc with rfl | hc
      · rfl
      · rw [List.eq_of_mem_replicate hc]
        rfl

/-- Items are parted by a comma and a gap. -/
theorem exists_comma (style : Style) : ∃ gap, style.comma = ',' :: gap ∧ Gap brief true gap := by
  cases style with
  | compact => exact ⟨[' '], rfl, .space rfl .nil⟩
  | indented depth => exact ⟨_, rfl, gap_newline (.indented depth) true⟩

/-- Items that are spelled one by one are spelled with commas between them. -/
theorem spelled_items {style : Style} (outer : Style) {v : Json} {rest : List Json}
    (h : ∀ u ∈ v :: rest, Spelled brief (.value u) (writeIn style u)) :
    Spelled brief (.items (v :: rest))
      (writeIn style v ++ (writeItems style rest ++ (outer.newline ++ [']']))) := by
  -- the gap behind the last item is that of the style outside of the list
  induction rest generalizing v with
  | nil =>
      have hLast := Spelled.lastItem (h v List.mem_cons_self) (gap_newline outer (closes v)) .bracket
      simpa [writeItems] using hLast
  | cons u rest ih =>
      obtain ⟨gap, hComma, hGap⟩ := exists_comma style
      have hRest := ih fun w hw => h w (List.mem_cons_of_mem v hw)
      have hItem := Spelled.item (h v List.mem_cons_self) .nil hGap hRest
      simpa [writeItems, hComma] using hItem

/-- The fields of an object are spelled one by one, given that their values are. -/
theorem spelled_fields {style : Style} (outer : Style) {name : String} {v : Json}
    {rest : List (String × Json)}
    (h : ∀ field ∈ (name, v) :: rest, Spelled brief (.value field.2) (writeIn style field.2)) :
    Spelled brief (.fields ((name, v) :: rest))
      (literal name ++ (':' :: ' ' :: (writeIn style v ++
        (writeFields style rest ++ (outer.newline ++ ['\x7d']))))) := by
  have hBlank : Gap brief false [' '] := .space rfl .nil
  induction rest generalizing name v with
  | nil =>
      have hLast := Spelled.lastField (writes_literal name) .nil hBlank (h _ List.mem_cons_self)
        (gap_newline outer (closes v)) .bracket
      simpa [writeFields] using hLast
  | cons field rest ih =>
      obtain ⟨next, u⟩ := field
      obtain ⟨gap, hComma, hGap⟩ := exists_comma style
      have hRest := ih fun w hw => h w (List.mem_cons_of_mem _ hw)
      have hField := Spelled.field (writes_literal name) .nil hBlank (h _ List.mem_cons_self) .nil
        hGap hRest
      simpa [writeFields, hComma] using hField

/-- What is written for a value spells it. -/
theorem Writable.spelled {v : Json} (h : Writable v) (style : Style) :
    Spelled brief (.value v) (writeIn style v) := by
  have hWord {text : List Char} {v : Json} (hText : (text, v) ∈ words) (hOther : ∀ n, v ≠ .int n) :
      Spelled brief (.value v) text := .atom ⟨.word hText, fun n hn => absurd hn (hOther n)⟩
  induction h generalizing style with
  | null => exact hWord (by simp [words, writeIn]) (by simp)
  | bool b => cases b <;> exact hWord (by simp [words, writeIn]) (by simp)
  | int hDigits => exact .atom (writes_toString hDigits)
  | str s => exact .atom (writes_literal s)
  | @arr items hItems ih =>
      cases items with
      | nil => exact .emptyList .nil .bracket
      | cons v rest =>
          have hList := Spelled.list (gap_newline style.deeper false)
            (spelled_items style fun u hu => ih u hu style.deeper)
          simpa [writeIn] using hList
  | @obj fields hNames hFields ih =>
      cases fields with
      | nil => exact .emptyObject .nil .bracket
      | cons field rest =>
          obtain ⟨name, v⟩ := field
          have hObject := Spelled.object (gap_newline style.deeper false)
            (spelled_fields style fun field hField => ih field hField style.deeper)
          rw [Assoc.ofPairs_eq_self hNames] at hObject
          simpa [writeIn] using hObject

/-- What is written for a value is read back, whichever the style and the reader. -/
theorem Writable.readDocument_writeIn {v : Json} (h : Writable v) (style : Style) (strict : Bool) :
    readDocument strict (writeIn style v) = .ok v :=
  (h.spelled style).readDocument_eq ⟨rfl, rfl⟩ short_brief

/-! Newlines are the only line ends that are written. -/

/-- An escaped character is never a carriage return. -/
theorem return_not_mem_escapedChar (c : Char) : '\r' ∉ escapedChar c := by
  unfold escapedChar
  split_ifs with hQuote hBackslash hNewline hReturn hTab hBack hFeed hControl
  iterate 7 decide
  · rw [List.mem_append, not_or]
    exact ⟨by decide, Text.not_mem_hex (by decide) 4 c.toNat⟩
  · rw [List.mem_singleton]
    rintro rfl
    exact hReturn rfl

theorem return_not_mem_literal (s : String) : '\r' ∉ literal s := by
  have hInside : '\r' ∉ s.toList.flatMap escapedChar := by
    rw [List.mem_flatMap]
    rintro ⟨c, -, hc⟩
    exact return_not_mem_escapedChar c hc
  simpa [literal] using hInside

theorem return_not_mem_newline (style : Style) : '\r' ∉ style.newline := by
  cases style <;> simp [Style.newline]

theorem return_not_mem_comma (style : Style) : '\r' ∉ style.comma := by
  cases style <;> simp [Style.comma, Style.newline]

/-- Items hold no carriage return if none of them does. -/
theorem return_not_mem_writeItems {style : Style} {items : List Json}
    (h : ∀ v ∈ items, '\r' ∉ writeIn style v) : '\r' ∉ writeItems style items := by
  induction items with
  | nil => simp [writeItems]
  | cons v rest ih =>
      have hRest := ih fun u hu => h u (List.mem_cons_of_mem v hu)
      simp [writeItems, return_not_mem_comma, h v List.mem_cons_self, hRest]

/-- Fields hold no carriage return if none of their values does. -/
theorem return_not_mem_writeFields {style : Style} {fields : List (String × Json)}
    (h : ∀ field ∈ fields, '\r' ∉ writeIn style field.2) : '\r' ∉ writeFields style fields := by
  induction fields with
  | nil => simp [writeFields]
  | cons field rest ih =>
      have hRest := ih fun u hu => h u (List.mem_cons_of_mem field hu)
      simp [writeFields, return_not_mem_comma, return_not_mem_literal, h field List.mem_cons_self,
        hRest]

/-- Data that is written holds no carriage return, so it comes back from a file as it was. -/
theorem Writable.return_not_mem {v : Json} (h : Writable v) (style : Style) :
    '\r' ∉ writeIn style v := by
  induction h generalizing style with
  | null => simp [writeIn]
  | bool b => cases b <;> simp [writeIn]
  | @int n hDigits =>
      rw [writeIn, toList_toString, List.mem_append, not_or]
      constructor
      · cases decide (n < 0) <;> decide
      · intro hMem
        cases (isWhole_toDigits n.natAbs).digits '\r' hMem
  | str s => exact return_not_mem_literal s
  | @arr items hItems ih =>
      cases items with
      | nil => simp [writeIn]
      | cons v rest =>
          have hRest := return_not_mem_writeItems fun u hu =>
            ih u (List.mem_cons_of_mem v hu) style.deeper
          simp [writeIn, return_not_mem_newline, ih v List.mem_cons_self style.deeper, hRest]
  | @obj fields hNames hFields ih =>
      cases fields with
      | nil => simp [writeIn]
      | cons field rest =>
          obtain ⟨name, v⟩ := field
          have hRest := return_not_mem_writeFields fun u hu =>
            ih u (List.mem_cons_of_mem _ hu) style.deeper
          simp [writeIn, return_not_mem_newline, return_not_mem_literal,
            ih _ List.mem_cons_self style.deeper, hRest]

end Json

end ScenarioRunner
