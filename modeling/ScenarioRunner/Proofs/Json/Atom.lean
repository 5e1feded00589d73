import Mathlib.Data.List.TakeWhile
import ScenarioRunner.Proofs.Json.Spelling

/-! The reader of atoms takes just what is spelled as one: string literals, numbers and words, from
the first character to the last, whatever stands behind them. -/
namespace ScenarioRunner.Json

/-! String literals. -/

/-- Four hexadecimal digits stand for their code unit. -/
theorem hexFour?_of_codeUnit {digits rest : List Char} {n : Nat} (h : CodeUnit digits n)
    (hRest : rest ≠ []) : hexFour? (digits ++ rest) = some (n, rest) := by
  cases rest with
  | nil => exact absurd rfl hRest
  | cons c rest =>
      cases h with
      | digits ha hb hc hd => simp [hexFour?, ha, hb, hc, hd]

/-- An escaped code unit is seen to follow. -/
theorem unitFollows_unitEscape {digits rest : List Char} {n : Nat} (h : CodeUnit digits n)
    (hRest : rest ≠ []) : unitFollows (unitEscape digits ++ rest) = true := by
  cases rest with
  | nil => exact absurd rfl hRest
  | cons c rest =>
      cases h
      rfl

/-- Where an escaped code unit seems to follow, the inside of the literal goes on with one. -/
theorem Inside.exists_unitEscape {chars raw rest : List Char} (h : Inside chars raw)
    (hFollows : unitFollows (raw ++ '"' :: rest) = true) :
    ∃ digits n after, CodeUnit digits n ∧ raw = unitEscape digits ++ after := by
  cases h with
  | nil => simp [unitFollows] at hFollows
  | plain hQuote hBackslash hControl hRest => simp [unitFollows, hBackslash] at hFollows
  | letter hLetter hRest =>
      rename_i c e chars raw
      have hNotU : c ≠ 'u' := by
        rintro rfl
        simp [escapeLetter?] at hLetter
      simp [unitFollows, hNotU] at hFollows
  | pair hFirst hHigh hSecond hLow hRest => exact ⟨_, _, _, hFirst, rfl⟩
  | unit hDigits hLone hRest => exact ⟨_, _, _, hDigits, rfl⟩

section

variable {strict : Bool} {opened rest chars after later s : List Char} {fuel high low n : Nat}

/-- The two halves of a surrogate pair are one character. -/
theorem readChars_pair (hFirst : hexFour? s = some (high, after)) (hHigh : IsHigh high)
    (hFollows : unitFollows after = true) (hSecond : hexFour? (after.drop 2) = some (low, later))
    (hLow : IsLow low) (hRest : readChars strict opened fuel later = .ok (chars, rest)) :
    readChars strict opened (fuel + 1) ('\\' :: 'u' :: s) =
      .ok (Char.ofNat (0x10000 + (high - 0xD800) * 0x400 + (low - 0xDC00)) :: chars, rest) := by
  simp only [readChars, hFirst, hSecond, hRest]
  rw [if_pos (by simp [hHigh.1, hHigh.2, hFollows]), if_pos (by simp [hLow.1, hLow.2])]
  rfl

/-- A code unit is a character of its own unless it and the next are the halves of a pair. -/
theorem readChars_unit (hUnit : hexFour? s = some (n, after))
    (hLone : IsHigh n → unitFollows after = true →
      ∃ low later, hexFour? (after.drop 2) = some (low, later) ∧ ¬ IsLow low)
    (hRest : readChars strict opened fuel after = .ok (chars, rest)) :
    readChars strict opened (fuel + 1) ('\\' :: 'u' :: s) = .ok (unitChar n :: chars, rest) := by
  simp only [readChars, hUnit, hRest]
  split
  · rename_i hPair
    simp only [Bool.and_eq_true, decide_eq_true_eq] at hPair
    obtain ⟨low, later, hSecond, hNotLow⟩ := hLone hPair.1 hPair.2
    simp only [hSecond]
    rw [if_neg (by simpa [IsLow] using hNotLow)]
    rfl
  · rfl

/-- The reader follows the inside of a literal up to the quote behind it. -/
theorem readChars_inside {raw : List Char} (h : Inside chars raw) (hFuel : raw.length < fuel) :
    readChars strict opened fuel (raw ++ '"' :: rest) = .ok (chars, rest) := by
  induction h generalizing fuel with
  | nil =>
      cases fuel with
      | zero => omega
      | succ fuel => rfl
  | plain hQuote hBackslash hControl hRest ih =>
      obtain ⟨fuel, rfl⟩ := Nat.exists_eq_add_one_of_ne_zero (Nat.ne_zero_of_lt hFuel)
      rw [List.cons_append, readChars, if_neg (by simp [hControl]), ih (by simpa using hFuel)]
      · rfl
      all_goals simp [hQuote, hBackslash]
  | letter hLetter hRest ih =>
      obtain ⟨fuel, rfl⟩ := Nat.exists_eq_add_one_of_ne_zero (Nat.ne_zero_of_lt hFuel)
      rw [List.length_cons, List.length_cons] at hFuel
      rw [List.cons_append, List.cons_append, readChars, hLetter]
      · dsimp only
        rw [ih (by omega)]
        rfl
      · rintro rfl
        simp [escapeLetter?] at hLetter
  | pair hFirst hHigh hSecond hLow hRest ih =>
      obtain ⟨fuel, rfl⟩ := Nat.exists_eq_add_one_of_ne_zero (Nat.ne_zero_of_lt hFuel)
      simp only [unitEscape, List.length_append, List.length_cons] at hFuel
      rw [List.append_assoc, List.append_assoc]
      apply readChars_pair (hexFour?_of_codeUnit hFirst (by simp [unitEscape])) hHigh
        (unitFollows_unitEscape hSecond (by simp)) (hexFour?_of_codeUnit hSecond (by simp)) hLow
      exact ih (by omega)
  | unit hDigits hLone hRest ih =>
      obtain ⟨fuel, rfl⟩ := Nat.exists_eq_add_one_of_ne_zero (Nat.ne_zero_of_lt hFuel)
      simp only [unitEscape, List.length_append, List.length_cons] at hFuel
      rw [List.append_assoc]
      apply readChars_unit (hexFour?_of_codeUnit hDigits (by simp)) _ (ih (by omega))
      intro hHigh hFollows
      obtain ⟨second, low, after, hSecond, rfl⟩ := hRest.exists_unitEscape hFollows
      rw [List.append_assoc]
      exact ⟨low, _, hexFour?_of_codeUnit hSecond (by simp),
        fun hLow => hLone hHigh second low after hSecond hLow rfl⟩

/-- A code unit is read off four hexadecimal digits. -/
theorem codeUnit_of_hexFour? (h : hexFour? s = some (n, rest)) :
    ∃ digits, CodeUnit digits n ∧ s = digits ++ rest := by
  unfold hexFour? at h
  split at h
  · rename_i a b c d next after
    cases ha : hexValue? a <;> cases hb : hexValue? b <;> cases hc : hexValue? c <;>
      cases hd : hexValue? d <;> simp [ha, hb, hc, hd] at h
    obtain ⟨rfl, rfl⟩ := h
    exact ⟨[a, b, c, d], .digits ha hb hc hd, rfl⟩
  · cases h

/-- A successful read of one more character. -/
theorem exists_of_readChars_bind {c : Char} {fuel : Nat} {s : List Char}
    (h : (do let (s, rest) ← readChars strict opened fuel s; return (c :: s, rest)) =
      Except.ok (chars, rest)) :
    ∃ more, readChars strict opened fuel s = .ok (more, rest) ∧ chars = c :: more := by
  cases hRead : readChars strict opened fuel s with
  | error refusal => simp [hRead] at h
  | ok reading =>
      rw [hRead] at h
      cases h
      exact ⟨reading.1, rfl, rfl⟩

theorem eq_of_unitFollows (h : unitFollows s = true) : s = '\\' :: 'u' :: s.drop 2 := by
  unfold unitFollows at h
  split at h
  · rfl
  · cases h

/-- What the strict reader takes is the inside of a literal. -/
theorem inside_of_readChars (h : readChars strict opened fuel s = .ok (chars, rest))
    (hStrict : strict = true) : ∃ raw, s = raw ++ '"' :: rest ∧ Inside chars raw := by
  fun_induction readChars strict opened fuel s generalizing chars
  -- the closing quote
  case case3 =>
    cases h
    exact ⟨[], rfl, .nil⟩
  -- two code units that make a pair
  case case7 hFirst hPair _ _ hSecond hLow ih =>
    simp only [Bool.and_eq_true, decide_eq_true_eq] at hPair hLow
    obtain ⟨first, hDigits, rfl⟩ := codeUnit_of_hexFour? hFirst
    obtain ⟨second, hSecondDigits, hAfter⟩ := codeUnit_of_hexFour? hSecond
    obtain ⟨more, hRead, rfl⟩ := exists_of_readChars_bind h
    obtain ⟨raw, rfl, hInside⟩ := ih hRead
    refine ⟨_, ?_, .pair hDigits hPair.1 hSecondDigits hLow hInside⟩
    rw [eq_of_unitFollows hPair.2, hAfter]
    simp [unitEscape]
  -- the first of a pair, with an escape behind it that is not the second
  case case8 unit after hFirst hPair low later hSecond hLow ih =>
    obtain ⟨first, hDigits, rfl⟩ := codeUnit_of_hexFour? hFirst
    obtain ⟨more, hRead, rfl⟩ := exists_of_readChars_bind h
    obtain ⟨raw, rfl, hInside⟩ := ih hRead
    refine ⟨_, by simp [unitEscape], .unit hDigits ?_ hInside⟩
    rintro - second low' tail hUnit hIsLow rfl
    rw [List.append_assoc] at hSecond
    have hSame := (hexFour?_of_codeUnit hUnit (by simp)).symm.trans hSecond
    cases hSame
    exact hLow (by simp [hIsLow.1, hIsLow.2])
  -- any other code unit
  case case9 unit after hFirst hPair ih =>
    obtain ⟨first, hDigits, rfl⟩ := codeUnit_of_hexFour? hFirst
    obtain ⟨more, hRead, rfl⟩ := exists_of_readChars_bind h
    obtain ⟨raw, rfl, hInside⟩ := ih hRead
    refine ⟨_, by simp [unitEscape], .unit hDigits ?_ hInside⟩
    rintro hHigh second low tail hUnit hIsLow rfl
    apply hPair
    rw [List.append_assoc, unitFollows_unitEscape hUnit (by simp)]
    simp [hHigh.1, hHigh.2]
  -- an escape of one letter
  case case11 hLetter ih =>
    obtain ⟨more, hRead, rfl⟩ := exists_of_readChars_bind h
    obtain ⟨raw, rfl, hInside⟩ := ih hRead
    exact ⟨_, rfl, .letter hLetter hInside⟩
  -- a character that stands for itself
  case case13 c s hQuote hLast hUnit hLetter hControl ih =>
    obtain ⟨more, hRead, rfl⟩ := exists_of_readChars_bind h
    obtain ⟨raw, rfl, hInside⟩ := ih hRead
    have hBackslash : c ≠ '\\' := by
      intro hEq
      cases hRest : raw ++ '"' :: rest with
      | nil => exact hLast hEq hRest
      | cons d tail => exact hLetter d tail hEq hRest
    exact ⟨_, rfl, .plain hQuote hBackslash (by simpa [hStrict] using hControl) hInside⟩
  all_goals cases h

end

/-! Numbers. -/

/-- A number may go on with this character. -/
def isNumeral (c : Char) : Bool := isAsciiDigit c || c == '.' || c == 'e' || c == 'E'

/-- No number goes on into this text. -/
def Follows (rest : List Char) : Prop := ∀ c ∈ rest.head?, isNumeral c = false

/-- What may follow a number does not go on with digits. -/
theorem Follows.isAsciiDigit_eq_false {rest : List Char} (h : Follows rest) :
    ∀ c ∈ rest.head?, isAsciiDigit c = false := by
  intro c hc
  have hNumeral := h c hc
  simp only [isNumeral, Bool.or_eq_false_iff] at hNumeral
  exact hNumeral.1.1.1

/-- Digits are taken up to the first character that is none. -/
theorem takeWhile_digits {ds rest : List Char} (h : ∀ c ∈ ds, isAsciiDigit c = true)
    (hRest : ∀ c ∈ rest.head?, isAsciiDigit c = false) :
    (ds ++ rest).takeWhile isAsciiDigit = ds ∧ (ds ++ rest).dropWhile isAsciiDigit = rest := by
  rw [List.takeWhile_append_of_pos h, List.dropWhile_append_of_pos h]
  cases rest with
  | nil => simp
  | cons c rest => simp [hRest c rfl]

/-- The whole part of a number is taken up to the end of its digits. -/
theorem wholePart?_append {ds rest : List Char} (h : IsWhole ds)
    (hRest : ∀ c ∈ rest.head?, isAsciiDigit c = false) :
    wholePart? (ds ++ rest) = some (ds, rest) := by
  obtain ⟨hNonempty, hDigits, hZero⟩ := h
  cases ds with
  | nil => exact absurd rfl hNonempty
  | cons c ds =>
      by_cases hc : c = '0'
      · subst hc
        cases hZero rfl
        rfl
      · obtain ⟨hTake, hDrop⟩ :=
          takeWhile_digits (fun d hd => hDigits d (List.mem_cons_of_mem c hd)) hRest
        rw [List.cons_append, wholePart?, if_pos (hDigits c List.mem_cons_self), hTake, hDrop]
        exact hc

theorem fraction?_eq_none {rest : List Char} (h : '.' ∉ rest.head?) : fraction? rest = none := by
  unfold fraction?
  split
  · simp at h
  · rfl

theorem fraction?_places {ds rest : List Char} (h : IsDigits ds)
    (hRest : ∀ c ∈ rest.head?, isAsciiDigit c = false) :
    fraction? ('.' :: (ds ++ rest)) = some (ds, rest) := by
  obtain ⟨hTake, hDrop⟩ := takeWhile_digits h.digits hRest
  simp [fraction?, hTake, hDrop, h.nonempty]

theorem exponent?_eq_none {rest : List Char} (h : ∀ c ∈ rest.head?, c ≠ 'e' ∧ c ≠ 'E') :
    exponent? rest = none := by
  cases rest with
  | nil => rfl
  | cons c rest => simp [exponent?, h c rfl]

/-- An exponent is read with its sign and all of its digits. -/
theorem exponent?_power {mark : Char} {sign ds rest : List Char} {negative : Bool}
    (hMark : mark = 'e' ∨ mark = 'E') (hSign : ExponentSign sign negative) (h : IsDigits ds)
    (hRest : ∀ c ∈ rest.head?, isAsciiDigit c = false) :
    exponent? (mark :: (sign ++ (ds ++ rest))) = some (signed negative (naturalOf ds), rest) := by
  obtain ⟨hTake, hDrop⟩ := takeWhile_digits h.digits hRest
  have hMark' : (mark == 'e' || mark == 'E') = true := by simpa using hMark
  cases hSign with
  | none =>
      cases ds with
      | nil => exact absurd rfl h.nonempty
      | cons d ds =>
        have hDigit := h.digits d List.mem_cons_self
        have hMinus : d ≠ '-' := by
          rintro rfl
          cases hDigit
        have hPlus : d ≠ '+' := by
          rintro rfl
          cases hDigit
        rw [List.cons_append] at hTake hDrop
        simp [exponent?, hMark', hMinus, hPlus, hTake, hDrop, signed]
  | plus => simp [exponent?, hMark', hTake, hDrop, signed, h.nonempty]
  | minus => simp [exponent?, hMark', hTake, hDrop, signed, h.nonempty]

/-- The sign and the whole part of a number are read first. -/
theorem readNumber_whole {negative : Bool} {whole rest : List Char} (h : IsWhole whole)
    (hRest : ∀ c ∈ rest.head?, isAsciiDigit c = false) :
    readNumber (minus negative ++ (whole ++ rest)) = readMagnitude negative whole rest := by
  have hWhole := wholePart?_append h hRest
  cases negative with
  | true => simp [readNumber, minus, hWhole]
  | false =>
      cases whole with
      | nil => exact absurd rfl h.nonempty
      | cons d ds =>
          have hMinus : d ≠ '-' := by
            rintro rfl
            cases h.digits '-' List.mem_cons_self
          rw [List.cons_append] at hWhole
          simp [readNumber, minus, hWhole, hMinus]

/-- A number without fraction and exponent is an integer, as long as it is not too long. -/
theorem readNumber_integer {negative : Bool} {whole rest : List Char} (h : IsWhole whole)
    (hRest : Follows rest) :
    readNumber (minus negative ++ (whole ++ rest)) =
      if Numeral.maxDigits < whole.length then .error (.longInteger whole.length)
      else .ok (.int (signed negative (naturalOf whole)), rest) := by
  have hNoPoint : '.' ∉ rest.head? := by
    intro hc
    cases hRest _ hc
  have hNoMark : ∀ c ∈ rest.head?, c ≠ 'e' ∧ c ≠ 'E' := by
    intro c hc
    constructor <;> rintro rfl <;> cases hRest _ hc
  rw [readNumber_whole h hRest.isAsciiDigit_eq_false]
  simp [readMagnitude, fraction?_eq_none hNoPoint, exponent?_eq_none hNoMark, signed]

/-- A number with a fraction or an exponent is the nearest floating-point number. -/
theorem readNumber_decimal {negative : Bool} {whole fraction places exponent rest : List Char}
    {power : Int} (hWhole : IsWhole whole) (hFraction : Fraction fraction places)
    (hExponent : Exponent exponent power) (hPart : fraction ++ exponent ≠ [])
    (hRest : Follows rest) :
    readNumber (minus negative ++ (whole ++ (fraction ++ (exponent ++ rest)))) =
      .ok (.float (.ofDecimal negative (naturalOf (whole ++ places)) (power - places.length)),
        rest) := by
  have hNoMark : ∀ c ∈ rest.head?, c ≠ 'e' ∧ c ≠ 'E' := by
    intro c hc
    constructor <;> rintro rfl <;> cases hRest _ hc
  have hExponentHead : ∀ c ∈ (exponent ++ rest).head?, isAsciiDigit c = false := by
    cases hExponent with
    | none => exact hRest.isAsciiDigit_eq_false
    | power hMark hSign h => rcases hMark with rfl | rfl <;> simp [isAsciiDigit]
  have hFractionHead : ∀ c ∈ (fraction ++ (exponent ++ rest)).head?, isAsciiDigit c = false := by
    cases hFraction with
    | none => exact hExponentHead
    | places h => simp [isAsciiDigit]
  rw [readNumber_whole hWhole hFractionHead]
  cases hFraction with
  | none =>
      cases hExponent with
      | none => exact absurd rfl hPart
      | power hMark hSign h =>
          rename_i mark sign ds signNegative
          have hNoPoint : '.' ∉ (mark :: (sign ++ (ds ++ rest))).head? := by
            rcases hMark with rfl | rfl <;> simp
          rw [List.nil_append, List.cons_append, List.append_assoc]
          simp only [readMagnitude, fraction?_eq_none hNoPoint, Option.elim,
            exponent?_power hMark hSign h hRest.isAsciiDigit_eq_false]
  | places hPlaces =>
      rw [List.cons_append]
      cases hExponent with
      | none =>
          simp only [List.nil_append, readMagnitude, Option.elim,
            fraction?_places hPlaces hRest.isAsciiDigit_eq_false, exponent?_eq_none hNoMark]
      | power hMark hSign h =>
          rw [List.cons_append, List.append_assoc] at *
          simp only [readMagnitude, fraction?_places hPlaces hExponentHead, Option.elim,
            exponent?_power hMark hSign h hRest.isAsciiDigit_eq_false]

theorem isDigits_takeWhile {s : List Char} (h : s.takeWhile isAsciiDigit ≠ []) :
    IsDigits (s.takeWhile isAsciiDigit) :=
  ⟨h, fun _ hc => List.mem_takeWhile_imp hc⟩

/-- What is taken as a whole part is one, and stands at the front. -/
theorem isWhole_of_wholePart? {s whole rest : List Char} (h : wholePart? s = some (whole, rest)) :
    IsWhole whole ∧ s = whole ++ rest := by
  unfold wholePart? at h
  split at h
  · cases h
    exact ⟨⟨by simp, by simp [isAsciiDigit], fun _ => rfl⟩, rfl⟩
  · rename_i c s hZero
    split at h
    · rename_i hDigit
      cases h
      refine ⟨⟨by simp, ?_, ?_⟩, by simp⟩
      · intro d hd
        rcases List.mem_cons.mp hd with rfl | hd
        · exact hDigit
        · exact List.mem_takeWhile_imp hd
      · intro hHead
        cases hHead
        exact absurd rfl hZero
    · cases h
  · cases h

/-- What is read as a fraction stands at the front, behind its point. -/
theorem fraction_of_fraction? {s places rest : List Char} (h : fraction? s = some (places, rest)) :
    Fraction ('.' :: places) places ∧ s = '.' :: (places ++ rest) := by
  unfold fraction? at h
  split at h
  · rename_i s
    simp only [List.isEmpty_iff] at h
    split at h
    · cases h
    · rename_i hNonempty
      cases h
      exact ⟨.places (isDigits_takeWhile hNonempty), by simp⟩
  · cases h

/-- What is read as an exponent stands at the front, with its mark and sign. -/
theorem exponent_of_exponent? {s rest : List Char} {power : Int}
    (h : exponent? s = some (power, rest)) :
    ∃ text, text ≠ [] ∧ Exponent text power ∧ s = text ++ rest := by
  unfold exponent? at h
  split at h
  · rename_i mark s
    split at h
    · rename_i hMark
      split at h
      rename_i negative digits hRead
      simp only [List.isEmpty_iff] at h
      split at h
      · cases h
      · rename_i hNonempty
        cases h
        have hSign : ∃ sign, ExponentSign sign negative ∧ s = sign ++ digits := by
          split at hRead <;> cases hRead
          · exact ⟨_, .minus, rfl⟩
          · exact ⟨_, .plus, rfl⟩
          · exact ⟨_, .none, rfl⟩
        obtain ⟨sign, hSign, rfl⟩ := hSign
        have hMark : mark = 'e' ∨ mark = 'E' := by simpa using hMark
        exact ⟨_, by simp, .power hMark hSign (isDigits_takeWhile hNonempty), by simp⟩
    · cases h
  · cases h

/-- A number that is read is one by the grammar, and the rest is what stands behind it. -/
theorem atom_of_readMagnitude {negative : Bool} {whole s rest : List Char} {v : Json}
    (hWhole : IsWhole whole) (h : readMagnitude negative whole s = .ok (v, rest)) :
    ∃ text, Atom v (minus negative ++ (whole ++ text)) ∧ s = text ++ rest := by
  cases hFraction : fraction? s with
  | none =>
      cases hExponent : exponent? s with
      | none =>
          simp only [readMagnitude, hFraction, Option.elim, hExponent] at h
          split at h
          · cases h
          · cases h
            refine ⟨[], ?_, rfl⟩
            rw [List.append_nil]
            exact .integer hWhole
      | some power =>
          simp only [readMagnitude, hFraction, Option.elim, hExponent] at h
          cases h
          obtain ⟨text, hText, hPower, rfl⟩ := exponent_of_exponent? hExponent
          exact ⟨text, .decimal hWhole .none hPower (by simpa using hText), rfl⟩
  | some places =>
      obtain ⟨hPlaces, rfl⟩ := fraction_of_fraction? hFraction
      cases hExponent : exponent? places.2 with
      | none =>
          simp only [readMagnitude, hFraction, Option.elim, hExponent] at h
          cases h
          refine ⟨_, .decimal hWhole hPlaces .none (by simp), by simp⟩
      | some power =>
          simp only [readMagnitude, hFraction, Option.elim, hExponent] at h
          cases h
          obtain ⟨text, hText, hPower, hEq⟩ := exponent_of_exponent? hExponent
          refine ⟨_, .decimal hWhole hPlaces hPower (by simp), by simp [hEq]⟩

/-- No number begins with anything but a digit or a minus sign. -/
theorem readNumber_eq_refuse {c : Char} {s : List Char} (hMinus : c ≠ '-')
    (hDigit : isAsciiDigit c = false) :
    readNumber (c :: s) = refuse .expectingValue (c :: s) := by
  have hWhole : wholePart? (c :: s) = none := by
    cases h : wholePart? (c :: s) with
    | none => rfl
    | some reading =>
        obtain ⟨hWhole, hEq⟩ := isWhole_of_wholePart? h
        obtain ⟨d, ds, hds, hd⟩ := hWhole.startsWith
        rw [hds] at hEq
        cases hEq
        simp [hd] at hDigit
  simp [readNumber, hMinus, hWhole]

/-- What is read as a number is the text of one. -/
theorem atom_of_readNumber {s rest : List Char} {v : Json} (h : readNumber s = .ok (v, rest)) :
    ∃ text, Atom v text ∧ s = text ++ rest := by
  have hMagnitude : ∃ negative whole after, s = minus negative ++ (whole ++ after) ∧ IsWhole whole ∧
      readMagnitude negative whole after = .ok (v, rest) := by
    unfold readNumber at h
    split at h
    rename_i negative digits hSign
    split at h
    · rename_i whole after hPart
      obtain ⟨hWhole, rfl⟩ := isWhole_of_wholePart? hPart
      split at hSign <;> cases hSign
      · exact ⟨true, whole, after, rfl, hWhole, h⟩
      · exact ⟨false, whole, after, rfl, hWhole, h⟩
    · cases h
  obtain ⟨negative, whole, after, rfl, hWhole, hRead⟩ := hMagnitude
  obtain ⟨text, hText, rfl⟩ := atom_of_readMagnitude hWhole hRead
  exact ⟨_, hText, by simp⟩

/-! Words. -/

/-- A constant that is read is spelled at the front. -/
theorem mem_words_of_readWord? {s rest : List Char} {v : Json}
    (h : readWord? s = some (v, rest)) : ∃ text, (text, v) ∈ words ∧ s = text ++ rest := by
  obtain ⟨⟨text, value⟩, hMem, hWord⟩ := List.exists_of_findSome?_eq_some h
  simp only at hWord
  split at hWord
  · rename_i hPrefix
    cases hWord
    obtain ⟨rest, rfl⟩ := List.isPrefixOf_iff_prefix.mp hPrefix
    exact ⟨text, hMem, by simp⟩
  · cases hWord

theorem readWord?_eq_none {c : Char} {s : List Char} (h : c ∉ ['n', 't', 'f', 'N', 'I', '-']) :
    readWord? (c :: s) = none := by
  simp only [List.mem_cons, List.not_mem_nil, or_false, not_or] at h
  simp [readWord?, words, Ne.symm h.1, Ne.symm h.2.1, Ne.symm h.2.2.1, Ne.symm h.2.2.2.1,
    Ne.symm h.2.2.2.2.1, Ne.symm h.2.2.2.2.2]

/-- A number is not taken for a constant. -/
theorem readWord?_number {negative : Bool} {whole rest : List Char} (h : IsWhole whole) :
    readWord? (minus negative ++ (whole ++ rest)) = none := by
  obtain ⟨d, ds, rfl, hd⟩ := h.startsWith
  cases negative with
  | true =>
      have hLetter : 'I' ≠ d := by
        rintro rfl
        cases hd
      simp [readWord?, words, minus, hLetter]
  | false =>
      apply readWord?_eq_none
      intro hMem
      simp only [List.mem_cons, List.not_mem_nil, or_false] at hMem
      rcases hMem with rfl | rfl | rfl | rfl | rfl | rfl <;> cases hd

end ScenarioRunner.Json
