import Mathlib.Data.List.Chain
import ScenarioRunner.Decision.Reply
import ScenarioRunner.Proofs.Json.Document

/-! A reply without a fence in it is taken as it stands, and out of a fence comes what is written
inside. Neither the ticks nor the blanks around a text change it. -/
namespace ScenarioRunner.Decision

/-! Texts in which no fence opens. -/

/-- No line that starts behind `c` or later starts with a tick. -/
def UnfencedFrom (c : Char) (s : List Char) : Prop :=
  (c :: s).IsChain fun c d => c = '\n' → d ≠ '\x60'

def Unfenced (s : List Char) : Prop := UnfencedFrom '\n' s

/-- No line may begin with a tick, here or further on. -/
theorem unfencedFrom_cons {c d : Char} {s : List Char} :
    UnfencedFrom c (d :: s) ↔ (c = '\n' → d ≠ '\x60') ∧ UnfencedFrom d s :=
  List.isChain_cons_cons

theorem unfencedFrom_nil (c : Char) : UnfencedFrom c [] := .singleton c

/-- What is right behind any character is right behind a newline, but for a tick. -/
theorem UnfencedFrom.mono {c d : Char} {s : List Char} (h : UnfencedFrom c s)
    (hc : c = '\n' ∨ d ≠ '\n') : UnfencedFrom d s := by
  cases s with
  | nil => exact unfencedFrom_nil d
  | cons e s =>
      obtain ⟨hTick, hRest⟩ := unfencedFrom_cons.mp h
      refine unfencedFrom_cons.mpr ⟨fun hd => ?_, hRest⟩
      exact hTick (hc.resolve_right (fun hNe => hNe hd))

/-- Texts without a fence have none when they are put together. -/
theorem UnfencedFrom.append {c : Char} {a b : List Char} (ha : UnfencedFrom c a) (hb : Unfenced b) :
    UnfencedFrom c (a ++ b) := by
  induction a generalizing c with
  | nil => exact hb.mono (.inl rfl)
  | cons d a ih =>
      obtain ⟨hTick, hRest⟩ := unfencedFrom_cons.mp ha
      exact unfencedFrom_cons.mpr ⟨hTick, ih hRest⟩

theorem Unfenced.append {a b : List Char} (ha : Unfenced a) (hb : Unfenced b) :
    Unfenced (a ++ b) := UnfencedFrom.append ha hb

theorem Unfenced.cons {c : Char} {s : List Char} (hc : c ≠ '\x60') (hs : Unfenced s) :
    Unfenced (c :: s) :=
  unfencedFrom_cons.mpr ⟨fun _ => hc, hs.mono (.inl rfl)⟩

/-- A text without a fence does not start with a tick. -/
theorem Unfenced.tick_not_mem_head? {s : List Char} (h : Unfenced s) : '\x60' ∉ s.head? := by
  cases s with
  | nil => simp
  | cons c s =>
      rintro ⟨⟩
      exact (unfencedFrom_cons.mp h).1 rfl rfl

/-- A single line that starts with another character. -/
theorem unfenced_of_newline_not_mem {c : Char} {s : List Char} (hc : c ≠ '\x60')
    (h : '\n' ∉ c :: s) : Unfenced (c :: s) := by
  have hFrom : ∀ {s : List Char} {d : Char}, '\n' ∉ d :: s → UnfencedFrom d s := by
    intro s
    induction s with
    | nil => exact fun _ => unfencedFrom_nil _
    | cons e s ih =>
        intro d hd
        rw [List.mem_cons, not_or] at hd
        exact unfencedFrom_cons.mpr ⟨fun hEq => absurd hEq.symm hd.1, ih hd.2⟩
  exact unfencedFrom_cons.mpr ⟨fun _ => hc, hFrom h⟩

/-- No fence starts with anything but a tick. -/
theorem isPrefixOf_fence_eq_false {c : Char} {s : List Char} (h : c ≠ '\x60') :
    fence.isPrefixOf (c :: s) = false := by
  simp [fence, List.isPrefixOf, Ne.symm h]

/-- Where no line starts with a tick no fence is found. -/
theorem fenced?_eq_none {c : Char} {s : List Char} (h : UnfencedFrom c s) :
    fenced? (c == '\n') s = none := by
  -- the scan is told by the character before it whether a line starts here
  induction s generalizing c with
  | nil => rfl
  | cons d s ih =>
      obtain ⟨hTick, hRest⟩ := unfencedFrom_cons.mp h
      have hHere : (c == '\n' && fence.isPrefixOf (d :: s)) = false := by
        by_cases hc : c = '\n'
        · rw [isPrefixOf_fence_eq_false (hTick hc), Bool.and_false]
        · simp [hc]
      rw [fenced?, ih hRest, hHere]
      rfl

/-- The text up to the first closing line is all of a text in which no line starts with a tick. -/
theorem untilClose_append {c : Char} {s after : List Char} (h : UnfencedFrom c s)
    (hAfter : closes after = true) :
    untilClose (s ++ '\n' :: (fence ++ after)) = some s := by
  induction s generalizing c with
  | nil =>
      have hPrefix : fence.isPrefixOf (fence ++ after) = true :=
        List.isPrefixOf_iff_prefix.mpr (List.prefix_append ..)
      rw [List.nil_append, untilClose, hPrefix, List.drop_left, hAfter]
      rfl
  | cons d s ih =>
      obtain ⟨-, hRest⟩ := unfencedFrom_cons.mp h
      rw [List.cons_append, untilClose, ih hRest, if_neg]
      · rfl
      · simp only [Bool.and_eq_true, beq_iff_eq, not_and, Bool.not_eq_true]
        rintro ⟨rfl, hPrefix⟩
        exfalso
        cases s with
        | nil =>
            rw [List.nil_append, isPrefixOf_fence_eq_false (by decide)] at hPrefix
            cases hPrefix
        | cons e s =>
            have hTick : e ≠ '\x60' := (unfencedFrom_cons.mp hRest).1 rfl
            rw [List.cons_append, isPrefixOf_fence_eq_false hTick] at hPrefix
            cases hPrefix

/-! Spelled texts. -/

section

variable {L : Json.Layout}

theorem ne_tick_of_startsValue {c : Char} (h : Json.startsValue c = true) : c ≠ '\x60' := by
  rintro rfl
  cases h

/-- The text of a number, a string or a constant has no line that begins with a tick. -/
theorem unfenced_atom {v : Json} {text : List Char} (h : Json.Atom v text) : Unfenced text := by
  have hNewline := h.newline_not_mem
  obtain ⟨c, rest, rfl, hc⟩ := h.startsWith
  exact unfenced_of_newline_not_mem (ne_tick_of_startsValue hc) hNewline

/-- Neither does a gap between two values. -/
theorem unfenced_gap {mayOpen : Bool} {gap : List Char} (h : Json.Gap L mayOpen gap) :
    Unfenced gap := by
  induction h with
  | nil => exact unfencedFrom_nil _
  | space hSpace hRest ih =>
      apply Unfenced.cons _ ih
      rintro rfl
      cases hSpace
  | comment hComments hText hRest ih =>
      rename_i text gap
      have hLine : Unfenced ('/' :: '/' :: text) :=
        unfenced_of_newline_not_mem (by decide) (by simpa using hText)
      have hWhole : '/' :: '/' :: (text ++ '\n' :: gap) =
          ('/' :: '/' :: text) ++ ('\n' :: gap) := rfl
      rw [hWhole]
      exact hLine.append (ih.cons (by decide))

/-- Nor does what closes a list or an object. -/
theorem unfenced_closing {bracket : Char} {last : List Char} (h : Json.Closing L bracket last)
    (hBracket : Json.isClosing bracket = true) : Unfenced last := by
  have hTick : bracket ≠ '\x60' := by
    rintro rfl
    cases hBracket
  have hLast : Unfenced [bracket] := Unfenced.cons hTick (unfencedFrom_nil _)
  cases h with
  | bracket => exact hLast
  | comma hTrailing hGap => exact ((unfenced_gap hGap).append hLast).cons (by decide)

/-- Line breaks stand only in gaps, and no gap and no token starts with a tick. -/
theorem unfenced_spelled {part : Json.Part} {text : List Char} (h : Json.Spelled L part text) :
    Unfenced text := by
  induction h with
  | atom h => exact unfenced_atom h.atom
  | emptyList hGap hLast =>
      exact ((unfenced_gap hGap).append (unfenced_closing hLast rfl)).cons (by decide)
  | list hGap hItems ih => exact ((unfenced_gap hGap).append ih).cons (by decide)
  | emptyObject hGap hLast =>
      exact ((unfenced_gap hGap).append (unfenced_closing hLast rfl)).cons (by decide)
  | object hGap hFields ih => exact ((unfenced_gap hGap).append ih).cons (by decide)
  | lastItem hValue hGap hLast ih =>
      exact ih.append ((unfenced_gap hGap).append (unfenced_closing hLast rfl))
  | item hValue hGap hNext hRest ih ihRest =>
      have hTail := ((unfenced_gap hNext).append ihRest).cons (c := ',') (by decide)
      exact ih.append ((unfenced_gap hGap).append hTail)
  | lastField hKey hBefore hAfter hValue hGap hLast ih =>
      have hEntry := ih.append ((unfenced_gap hGap).append (unfenced_closing hLast rfl))
      have hTail := ((unfenced_gap hAfter).append hEntry).cons (c := ':') (by decide)
      exact (unfenced_atom hKey.atom).append ((unfenced_gap hBefore).append hTail)
  | field hKey hBefore hAfter hValue hGap hNext hRest ih ihRest =>
      have hMore := ((unfenced_gap hNext).append ihRest).cons (c := ',') (by decide)
      have hEntry := ih.append ((unfenced_gap hGap).append hMore)
      have hTail := ((unfenced_gap hAfter).append hEntry).cons (c := ':') (by decide)
      exact (unfenced_atom hKey.atom).append ((unfenced_gap hBefore).append hTail)

theorem ne_tick_of_ends {part : Json.Part} {c : Char} (h : part.ends c = true) : c ≠ '\x60' := by
  rintro rfl
  rcases Json.Part.ends_cases h with h | h <;> cases h

/-- The text of a value does not end with a tick. -/
theorem tick_not_mem_getLast? {part : Json.Part} {text : List Char} (h : Json.Spelled L part text) :
    '\x60' ∉ text.getLast? := by
  obtain ⟨init, z, rfl, hz⟩ := h.endsWith
  rw [List.getLast?_concat]
  rintro ⟨⟩
  exact ne_tick_of_ends hz rfl

end

/-! Fences. -/

def fenceLabels : List (List Char) := ["".toList, "json".toList, "javascript".toList]

/-- A label between the fence and its line goes. -/
theorem dropLabel_append {label s : List Char} (h : label ∈ fenceLabels) :
    dropLabel (label ++ '\n' :: s) = '\n' :: s := by
  simp only [fenceLabels, List.mem_cons, List.not_mem_nil, or_false] at h
  rcases h with rfl | rfl | rfl <;> rfl

/-- What is written inside a fence. -/
theorem inside?_append {label s after : List Char} (hLabel : label ∈ fenceLabels)
    (hStart : ∀ c ∈ s.head?, Text.isBlank c = false) (hText : s ≠ []) (hs : Unfenced s)
    (hAfter : closes after = true) :
    inside? (label ++ '\n' :: (s ++ '\n' :: (fence ++ after))) = some s := by
  obtain ⟨c, s, rfl⟩ := List.exists_cons_of_ne_nil hText
  have hBlank : Text.isBlank c = false := hStart c rfl
  have hNewline : Text.isBlank '\n' = true := by decide
  unfold inside?
  simp only [dropLabel_append hLabel, List.cons_append]
  simp only [List.takeWhile_cons, hNewline, if_true, hBlank, List.dropWhile_cons]
  have hUntil : untilClose (c :: (s ++ '\n' :: (fence ++ after))) = some (c :: s) :=
    untilClose_append hs hAfter
  simp [hUntil]

/-- Behind a text without ticks the search for a fence goes on. -/
theorem fenced?_append {before s : List Char} (h : '\x60' ∉ before) (fresh : Bool) :
    fenced? fresh (before ++ s) = fenced? (before.getLast?.elim fresh (· == '\n')) s := by
  induction before generalizing fresh with
  | nil => rfl
  | cons c before ih =>
      rw [List.mem_cons, not_or] at h
      rw [List.cons_append, fenced?, isPrefixOf_fence_eq_false (Ne.symm h.1), Bool.and_false]
      show fenced? (c == '\n') (before ++ s) = _
      rw [ih h.2]
      cases before with
      | nil => rfl
      | cons d before =>
          rw [List.getLast?_cons_cons, List.getLast?_cons]
          rfl

/-- The first fence of a text is the one that opens behind what has no ticks. -/
theorem fenced?_of_inside? {before s text : List Char} (h : '\x60' ∉ before)
    (hLine : before = [] ∨ before.getLast? = some '\n') (hInside : inside? s = some text) :
    fenced? true (before ++ (fence ++ s)) = some text := by
  have hFresh : before.getLast?.elim true (· == '\n') = true := by
    rcases hLine with rfl | hLast
    · rfl
    · rw [hLast]
      rfl
  have hPrefix : fence.isPrefixOf (fence ++ s) = true :=
    List.isPrefixOf_iff_prefix.mpr (List.prefix_append ..)
  have hFence : fence ++ s = '\x60' :: ('\x60' :: '\x60' :: s) := rfl
  rw [fenced?_append h, hFresh]
  rw [hFence] at hPrefix ⊢
  rw [fenced?, hPrefix, ← hFence, List.drop_left, hInside]
  rfl

/-! Unwrapping. -/

/-- A text that does not end with a tick does not end with a fence. -/
theorem not_isSuffixOf_fence {s : List Char} (h : '\x60' ∉ s.getLast?) :
    fence.isSuffixOf s = false := by
  cases hSuffix : fence.isSuffixOf s with
  | false => rfl
  | true =>
      obtain ⟨init, rfl⟩ := List.isSuffixOf_iff_suffix.mp hSuffix
      exfalso
      apply h
      simp [fence]

def stripTicks (s : List Char) : List Char :=
  if fence.isPrefixOf s || fence.isSuffixOf s then Text.trim (Text.trimWhere (· == '\x60') s) else s

/-- Unwrapping takes what is inside of a fence, if there is one, and strips the ticks that are left.
-/
theorem unwrap_eq_stripTicks (s : List Char) :
    unwrap s = stripTicks ((fenced? true (Text.trim s)).elim (Text.trim s) Text.trim) := by
  rw [unwrap]
  cases fenced? true (Text.trim s) <;> rfl

/-- Nothing is stripped from a text without ticks at its ends. -/
theorem stripTicks_eq {s : List Char} (hHead : '\x60' ∉ s.head?) (hLast : '\x60' ∉ s.getLast?) :
    stripTicks s = s := by
  have hPrefix : fence.isPrefixOf s = false := by
    cases s with
    | nil => rfl
    | cons c s => exact isPrefixOf_fence_eq_false fun hc => hHead (by rw [hc]; rfl)
  rw [stripTicks, hPrefix, not_isSuffixOf_fence hLast]
  rfl

/-- A text that is trimmed already, with no fence in it, is not changed. -/
theorem unwrap_unfenced {s : List Char} (h : Unfenced (Text.trim s))
    (hLast : '\x60' ∉ (Text.trim s).getLast?) : unwrap s = Text.trim s := by
  have hNone : fenced? true (Text.trim s) = none := fenced?_eq_none h
  rw [unwrap_eq_stripTicks, hNone]
  exact stripTicks_eq h.tick_not_mem_head? hLast

/-- Trimming takes blanks before and behind a fenced text and leaves what is inside. -/
theorem trim_fence (before inner after : List Char) :
    Text.trim (before ++ (fence ++ (inner ++ (fence ++ after)))) =
      before.dropWhile Text.isBlank ++ (fence ++ (inner ++ (fence ++ Text.trimEnd after))) := by
  have hTick : Text.isBlank '\x60' = false := by decide
  have hFirst : before ++ (fence ++ (inner ++ (fence ++ after))) =
      before ++ '\x60' :: (['\x60', '\x60'] ++ (inner ++ (fence ++ after))) := by
    simp [fence]
  rw [hFirst, Text.trim_append_cons hTick]
  have hLast := Text.trimEnd_append_cons hTick
    (before.dropWhile Text.isBlank ++ (fence ++ (inner ++ ['\x60', '\x60']))) after
  simpa [fence] using hLast

/-- What is left of a line break in front of the ticks. -/
theorem dropWhile_newline (before : List Char) :
    (before ++ ['\n']).dropWhile Text.isBlank = [] ∨
      ((before ++ ['\n']).dropWhile Text.isBlank).getLast? = some '\n' := by
  obtain ⟨init, hSuffix⟩ := List.dropWhile_suffix Text.isBlank (l := before ++ ['\n'])
  by_cases hNil : (before ++ ['\n']).dropWhile Text.isBlank = []
  · exact .inl hNil
  · right
    rw [← List.getLast?_append_of_ne_nil init hNil, hSuffix]
    simp

/-- A new line behind the ticks closes the fence. -/
theorem closes_trimEnd (after : List Char) : closes (Text.trimEnd ('\n' :: after)) = true := by
  have hPrefix := Text.trimEnd_isPrefix ('\n' :: after)
  cases hTrim : Text.trimEnd ('\n' :: after) with
  | nil => rfl
  | cons c rest =>
      rw [hTrim, List.cons_prefix_cons] at hPrefix
      obtain ⟨rfl, -⟩ := hPrefix
      have hNewline : Text.isBlank '\n' = true := by decide
      simp [closes, hNewline]

/-- Out of a fence in prose without ticks comes the text between its ticks. -/
theorem unwrap_fenced {before label text after : List Char} (hBefore : '\x60' ∉ before)
    (hLabel : label ∈ fenceLabels) (hTrim : Text.trim text = text) (hText : text ≠ [])
    (hUnfenced : Unfenced text) (hLast : '\x60' ∉ text.getLast?) :
    unwrap (before ++ '\n' :: (fence ++
      (label ++ '\n' :: (text ++ '\n' :: (fence ++ '\n' :: after))))) = text := by
  have hInner : before ++ '\n' :: (fence ++
      (label ++ '\n' :: (text ++ '\n' :: (fence ++ '\n' :: after)))) =
      (before ++ ['\n']) ++ (fence ++
        ((label ++ '\n' :: (text ++ ['\n'])) ++ (fence ++ '\n' :: after))) := by simp
  have hTicks : '\x60' ∉ (before ++ ['\n']).dropWhile Text.isBlank := by
    intro hMem
    have hMem := (List.dropWhile_sublist _).subset hMem
    simp [hBefore] at hMem
  have hInside := inside?_append hLabel (Text.isBlank_head_of_trim hTrim) hText hUnfenced
    (closes_trimEnd after)
  have hFound : fenced? true (Text.trim (before ++ '\n' :: (fence ++
      (label ++ '\n' :: (text ++ '\n' :: (fence ++ '\n' :: after)))))) = some text := by
    rw [hInner, trim_fence]
    apply fenced?_of_inside? hTicks (dropWhile_newline before)
    simpa using hInside
  rw [unwrap_eq_stripTicks, hFound]
  show stripTicks (Text.trim text) = text
  rw [hTrim, stripTicks_eq hUnfenced.tick_not_mem_head? hLast]

end ScenarioRunner.Decision
