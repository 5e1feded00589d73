import Mathlib.Data.List.Infix
import Mathlib.Data.List.TakeWhile
import ScenarioRunner.Slot

/-! Filling slots part by part. A character that can stand in no slot parts the slots before it from
those after it, so a text is filled as its parts are. -/
namespace ScenarioRunner.SlotMark

/-- The sign that closes a slot ends its name. -/
def ClosesNames (m : SlotMark) : Prop := m.inName m.closing = false

/-- The character stands in no slot: not in its signs and not in its name. -/
structure Apart (m : SlotMark) (c : Char) : Prop where
  opening : c ∉ m.opening
  closing : c ≠ m.closing
  inName : m.inName c = false

structure IsName (m : SlotMark) (name : List Char) : Prop where
  nonempty : name ≠ []
  inName : ∀ c ∈ name, m.inName c = true

instance (m : SlotMark) (name : List Char) : Decidable (m.IsName name) :=
  decidable_of_iff (name ≠ [] ∧ name.all m.inName = true)
    ⟨fun h => ⟨h.1, List.all_eq_true.mp h.2⟩, fun h => ⟨h.nonempty, List.all_eq_true.mpr h.inName⟩⟩

def written (m : SlotMark) (name : List Char) : List Char := m.opening ++ (name ++ [m.closing])

variable {m : SlotMark}

theorem IsName.takeWhile {name : List Char} (h : m.IsName name) (hClosing : m.ClosesNames)
    (rest : List Char) : (name ++ m.closing :: rest).takeWhile m.inName = name := by
  have hStop : m.inName m.closing = false := hClosing
  rw [List.takeWhile_append_of_pos h.inName, List.takeWhile_cons_of_neg (by simp [hStop]),
    List.append_nil]

theorem IsName.dropWhile {name : List Char} (h : m.IsName name) (hClosing : m.ClosesNames)
    (rest : List Char) : (name ++ m.closing :: rest).dropWhile m.inName = m.closing :: rest := by
  have hStop : m.inName m.closing = false := hClosing
  rw [List.dropWhile_append_of_pos h.inName, List.dropWhile_cons_of_neg (by simp [hStop])]

/-- A text starts with a slot exactly if it starts with the way the slot is written. -/
theorem name?_eq_some_iff (hClosing : m.ClosesNames) {s name : List Char} :
    m.name? s = some name ↔ m.IsName name ∧ m.written name <+: s := by
  constructor
  · intro h
    simp only [name?, List.isPrefixOf_iff_prefix] at h
    split at h
    · rename_i hOpening
      obtain ⟨inside, rfl⟩ := hOpening
      rw [List.drop_left] at h
      split at h
      · rename_i hNamed
        obtain ⟨hNonempty, hClosed⟩ := by simpa using hNamed
        obtain ⟨rest, hRest⟩ := List.head?_eq_some_iff.mp hClosed
        cases h
        refine ⟨⟨by simpa using hNonempty, fun c hc => List.mem_takeWhile_imp hc⟩, rest, ?_⟩
        simp only [written, List.append_assoc, List.singleton_append]
        rw [← hRest, List.takeWhile_append_dropWhile]
      · simp at h
    · simp at h
  · rintro ⟨hName, rest, rfl⟩
    have hNonempty := hName.nonempty
    simp [name?, written, hName.takeWhile hClosing, hName.dropWhile hClosing, hNonempty]

/-- A text that does not hold `c` starts a text with `c` in it exactly if it starts the part before
that `c`. -/
theorem prefix_append_cons_iff {part s rest : List Char} {c : Char} (h : c ∉ part) :
    part <+: s ++ c :: rest ↔ part <+: s := by
  refine ⟨fun hLong => ?_, fun hShort => hShort.trans (List.prefix_append _ _)⟩
  by_cases hLength : part.length ≤ s.length
  · exact List.prefix_of_prefix_length_le hLong (List.prefix_append _ _) hLength
  · -- a longer part would reach over `c`
    have hOver : s ++ [c] <+: part := by
      refine List.prefix_of_prefix_length_le ⟨rest, by simp⟩ hLong ?_
      rw [List.length_append, List.length_singleton]
      omega
    exact absurd (hOver.subset (by simp)) h

theorem Apart.not_mem_written {c : Char} (h : m.Apart c) {name : List Char}
    (hName : m.IsName name) : c ∉ m.written name := by
  intro hMem
  rcases List.mem_append.mp hMem with hMem | hMem
  · exact h.opening hMem
  · rcases List.mem_append.mp hMem with hMem | hMem
    · simpa [h.inName] using hName.inName c hMem
    · exact h.closing (by simpa using hMem)

/-- Whether a slot starts a text is settled before a character that is apart. -/
theorem name?_append (hClosing : m.ClosesNames) {c : Char} (h : m.Apart c) (s rest : List Char) :
    m.name? (s ++ c :: rest) = m.name? s := by
  apply Option.ext
  intro name
  simp only [name?_eq_some_iff hClosing]
  exact and_congr_right fun hName => prefix_append_cons_iff (h.not_mem_written hName)

theorem tail_le (hClosing : m.ClosesNames) {c : Char} {s name : List Char}
    (h : m.name? (c :: s) = some name) : m.tail name ≤ s.length := by
  have hLength := ((name?_eq_some_iff hClosing).mp h).2.length_le
  simp only [written, List.length_append, List.length_cons, List.length_nil] at hLength
  rw [tail]
  omega

/-- The pieces before a character that is apart do not depend on what follows. -/
theorem piecesFrom_append (hClosing : m.ClosesNames) {c : Char} (h : m.Apart c)
    (s rest : List Char) (covered : Nat) (hCovered : covered ≤ s.length) :
    m.piecesFrom covered (s ++ c :: rest) =
      m.piecesFrom covered s ++ .plain c :: m.piecesFrom 0 rest := by
  induction s generalizing covered with
  | nil =>
      obtain rfl : covered = 0 := by simpa using hCovered
      -- a slot that starts here would have to start before `c`, where nothing is left
      have hNone : m.name? (c :: rest) = none := by
        have hStart := name?_append hClosing h [] rest
        rw [List.nil_append] at hStart
        rw [hStart, Option.eq_none_iff_forall_ne_some]
        intro name hName
        have hPrefix := ((name?_eq_some_iff hClosing).mp hName).2
        simp [written] at hPrefix
      simp [piecesFrom, hNone]
  | cons x s ih =>
      cases covered with
      | succ covered => exact ih covered (by simpa using hCovered)
      | zero =>
          have hSame := name?_append hClosing h (x :: s) rest
          rw [List.cons_append] at hSame
          simp only [List.cons_append, piecesFrom, hSame]
          cases hName : m.name? (x :: s) with
          | none => simp [ih 0 (Nat.zero_le _)]
          | some name => simp [ih _ (tail_le hClosing hName)]

/-- A slot covers all that is left of a text that is no longer. -/
theorem piecesFrom_of_length_le {s : List Char} {covered : Nat} (h : s.length ≤ covered) :
    m.piecesFrom covered s = [] := by
  induction s generalizing covered with
  | nil => simp [piecesFrom]
  | cons c s ih =>
      cases covered with
      | zero => simp at h
      | succ covered => exact ih (by simpa using h)

variable (m)

/-- What a piece becomes when slots are filled. -/
def expand (value? : String → Option String) : Piece → List Char
  | .plain c => [c]
  | .slot name =>
    match value? name with
    | some value => value.toList
    | none => m.source (.slot name)

def filled (value? : String → Option String) (s : List Char) : List Char :=
  (m.piecesFrom 0 s).flatMap (m.expand value?)

theorem toList_fill (value? : String → Option String) (s : String) :
    (m.fill value? s).toList = m.filled value? s.toList := by
  rw [fill, String.toList_ofList, filled, pieces]
  congr 1
  funext piece
  cases piece <;> rfl

variable {m} {value? : String → Option String}

@[simp] theorem filled_nil : m.filled value? [] = [] := by simp [filled, piecesFrom]

/-- A text is filled on both sides of a character that is apart. -/
theorem filled_append (hClosing : m.ClosesNames) {c : Char} (h : m.Apart c) (s rest : List Char) :
    m.filled value? (s ++ c :: rest) = m.filled value? s ++ c :: m.filled value? rest := by
  simp [filled, piecesFrom_append hClosing h s rest 0 (Nat.zero_le _), expand]

/-- A character that opens no slot stays as it is. -/
theorem filled_cons {c : Char} (h : ∀ s, ¬ m.opening <+: c :: s) (s : List Char) :
    m.filled value? (c :: s) = c :: m.filled value? s := by
  have hNone : m.name? (c :: s) = none := by simp [name?, List.isPrefixOf_iff_prefix, h s]
  simp [filled, piecesFrom, hNone, expand]

/-- A text in which no slot is opened stays as it is. -/
theorem filled_of_not_infix {s : List Char} (h : ¬ m.opening <:+: s) : m.filled value? s = s := by
  induction s with
  | nil => simp
  | cons c s ih =>
      have hNone : m.name? (c :: s) = none := by
        have hStart : ¬ m.opening <+: c :: s := fun hPrefix => h hPrefix.isInfix
        simp [name?, List.isPrefixOf_iff_prefix, hStart]
      have hRest := ih fun hInfix => h (hInfix.trans (List.suffix_cons c s).isInfix)
      rw [filled] at hRest
      simp [filled, piecesFrom, hNone, expand, hRest]

/-- A text that is one slot becomes the value of the slot. -/
theorem filled_written (hClosing : m.ClosesNames) {name value : String}
    (hName : m.IsName name.toList) (hValue : value? name = some value) :
    m.filled value? (m.written name.toList) = value.toList := by
  have hRead : m.name? (m.written name.toList) = some name.toList :=
    (name?_eq_some_iff hClosing).mpr ⟨hName, List.prefix_refl _⟩
  cases hWritten : m.written name.toList with
  | nil => simp [written] at hWritten
  | cons c rest =>
      have hLength : rest.length ≤ m.tail name.toList := by
        have hSum := congrArg List.length hWritten
        simp only [written, List.length_append, List.length_cons, List.length_nil] at hSum
        rw [tail]
        omega
      rw [hWritten] at hRead
      simp [filled, piecesFrom, hRead, piecesFrom_of_length_le hLength, expand, hValue]

/-! The slots of a text as a whole. -/

theorem piecesFrom_append_apart (hClosing : m.ClosesNames) (s : List Char) {after : List Char}
    (h : ∀ c ∈ after, m.Apart c) :
    m.piecesFrom 0 (s ++ after) = m.piecesFrom 0 s ++ after.map .plain := by
  induction after generalizing s with
  | nil => simp
  | cons c after ih =>
      have hRest := ih [] fun d hd => h d (List.mem_cons_of_mem c hd)
      rw [List.nil_append] at hRest
      rw [piecesFrom_append hClosing (h c List.mem_cons_self) s after 0 (Nat.zero_le _), hRest]
      simp [piecesFrom]

theorem piecesFrom_apart_append (hClosing : m.ClosesNames) (s : List Char) {before : List Char}
    (h : ∀ c ∈ before, m.Apart c) :
    m.piecesFrom 0 (before ++ s) = before.map .plain ++ m.piecesFrom 0 s := by
  induction before with
  | nil => rfl
  | cons c before ih =>
      have hFirst := piecesFrom_append hClosing (h c List.mem_cons_self) [] (before ++ s) 0
        (Nat.zero_le _)
      rw [List.nil_append] at hFirst
      rw [List.cons_append, hFirst, ih fun d hd => h d (List.mem_cons_of_mem c hd)]
      simp [piecesFrom]

theorem mem_names_iff {s : String} {name : String} :
    name ∈ m.names s ↔ .slot name ∈ m.pieces s := by
  rw [names, List.mem_eraseDups, List.mem_filterMap]
  constructor
  · rintro ⟨piece, hPiece, hSlot⟩
    cases piece with
    | plain c => cases hSlot
    | slot other =>
        cases hSlot
        exact hPiece
  · exact fun hPiece => ⟨_, hPiece, rfl⟩

/-- Characters that are apart, at the ends of a text, hold no slots. -/
theorem names_of_apart_ends (hClosing : m.ClosesNames) {s t : String} {before after : List Char}
    (hEnds : s.toList = before ++ t.toList ++ after) (hBefore : ∀ c ∈ before, m.Apart c)
    (hAfter : ∀ c ∈ after, m.Apart c) : m.names s = m.names t := by
  rw [names, names, pieces, pieces, hEnds, piecesFrom_append_apart hClosing _ hAfter,
    piecesFrom_apart_append hClosing _ hBefore, List.filterMap_append, List.filterMap_append]
  simp [List.filterMap_map]

/-- What a text is filled with hangs only on the values of the names in it. -/
theorem fill_congr {first second : String → Option String} {s : String}
    (h : ∀ name ∈ m.names s, first name = second name) : m.fill first s = m.fill second s := by
  rw [fill, fill]
  congr 1
  refine List.flatMap_congr fun piece hPiece => ?_
  cases piece with
  | plain c => rfl
  | slot name =>
      dsimp only
      rw [h name (mem_names_iff.mpr hPiece)]

/-! Slots as one finds them who reads from left to right. -/

/-- The pieces of a text, read from left to right: where a slot is written it is taken as a whole and
the reader goes on behind it, and everywhere else a character stands for itself. -/
inductive Scans (m : SlotMark) : List Char → List Piece → Prop
  | nil : Scans m [] []
  | slot {name : String} {rest : List Char} {pieces : List Piece} (hName : m.IsName name.toList)
      (hRest : Scans m rest pieces) :
      Scans m (m.written name.toList ++ rest) (.slot name :: pieces)
  | plain {c : Char} {rest : List Char} {pieces : List Piece}
      (hNone : ∀ name, m.IsName name → ¬ m.written name <+: c :: rest)
      (hRest : Scans m rest pieces) : Scans m (c :: rest) (.plain c :: pieces)

theorem piecesFrom_eq_drop (covered : Nat) (s : List Char) :
    m.piecesFrom covered s = m.piecesFrom 0 (s.drop covered) := by
  induction covered generalizing s with
  | zero => rfl
  | succ covered ih =>
      cases s with
      | nil => simp [piecesFrom]
      | cons c rest => simpa [piecesFrom] using ih rest

/-- A text that starts with a slot has it as its first piece. -/
theorem piecesFrom_written (hClosing : m.ClosesNames) {name : String} (hName : m.IsName name.toList)
    (rest : List Char) :
    m.piecesFrom 0 (m.written name.toList ++ rest) = .slot name :: m.piecesFrom 0 rest := by
  have hRead : m.name? (m.written name.toList ++ rest) = some name.toList :=
    (name?_eq_some_iff hClosing).mpr ⟨hName, List.prefix_append _ _⟩
  have hLength : (m.written name.toList).length = m.tail name.toList + 1 := by
    simp only [written, tail, List.length_append, List.length_cons, List.length_nil]
    omega
  cases hText : m.written name.toList with
  | nil => simp [hText] at hLength
  | cons c inside =>
      rw [hText, List.cons_append] at hRead
      have hTail : m.tail name.toList = inside.length := by simpa [hText] using hLength.symm
      simp [piecesFrom, hRead, hTail, piecesFrom_eq_drop inside.length]

/-- Where no slot starts, a character is a piece. -/
theorem piecesFrom_plain (hClosing : m.ClosesNames) {c : Char} {rest : List Char}
    (hNone : ∀ name, m.IsName name → ¬ m.written name <+: c :: rest) :
    m.piecesFrom 0 (c :: rest) = .plain c :: m.piecesFrom 0 rest := by
  have hRead : m.name? (c :: rest) = none := by
    rw [Option.eq_none_iff_forall_ne_some]
    intro name hName
    obtain ⟨hIsName, hPrefix⟩ := (name?_eq_some_iff hClosing).mp hName
    exact hNone name hIsName hPrefix
  simp [piecesFrom, hRead]

theorem scans_piecesFrom (hClosing : m.ClosesNames) (s : List Char) :
    m.Scans s (m.piecesFrom 0 s) := by
  induction hLength : s.length using Nat.strong_induction_on generalizing s with
  | _ n ih =>
      cases s with
      | nil => simpa [piecesFrom] using Scans.nil
      | cons c rest =>
          by_cases hSlot : ∃ name, m.IsName name ∧ m.written name <+: c :: rest
          · obtain ⟨name, hName, after, hText⟩ := hSlot
            have hShorter : after.length < n := by
              have hSum := congrArg List.length hText
              simp only [written, List.length_append, List.length_cons, List.length_nil] at hSum
              simp only [List.length_cons] at hLength
              omega
            have hNamed : m.IsName (String.ofList name).toList := by simpa using hName
            have hStart := piecesFrom_written hClosing hNamed after
            rw [String.toList_ofList] at hStart
            rw [← hText, hStart]
            simpa using Scans.slot hNamed (ih _ hShorter after rfl)
          · have hNone : ∀ name, m.IsName name → ¬ m.written name <+: c :: rest := by
              intro name hName hPrefix
              exact hSlot ⟨name, hName, hPrefix⟩
            rw [piecesFrom_plain hClosing hNone]
            exact .plain hNone (ih _ (by simp [← hLength]) rest rfl)

/-- A text has just one reading. -/
theorem Scans.eq_piecesFrom (hClosing : m.ClosesNames) {s : List Char} {pieces : List Piece}
    (h : m.Scans s pieces) : pieces = m.piecesFrom 0 s := by
  induction h with
  | nil => simp [piecesFrom]
  | slot hName hRest ih => rw [piecesFrom_written hClosing hName, ih]
  | plain hNone hRest ih => rw [piecesFrom_plain hClosing hNone, ih]

theorem scans_iff (hClosing : m.ClosesNames) {s : List Char} {pieces : List Piece} :
    m.Scans s pieces ↔ pieces = m.piecesFrom 0 s :=
  ⟨fun h => h.eq_piecesFrom hClosing, fun h => h ▸ scans_piecesFrom hClosing s⟩

/-- The pieces of a text are all of it. -/
theorem Scans.flatMap_source {s : List Char} {pieces : List Piece} (h : m.Scans s pieces) :
    pieces.flatMap m.source = s := by
  induction h with
  | nil => rfl
  | slot hName hRest ih => simp [source, written, ih]
  | plain hNone hRest ih => simp [source, ih]

/-- What a text names are names. -/
theorem Scans.isName {s : List Char} {pieces : List Piece} (h : m.Scans s pieces) {name : String}
    (hSlot : .slot name ∈ pieces) : m.IsName name.toList := by
  induction h with
  | nil => cases hSlot
  | slot hName hRest ih =>
      rcases List.mem_cons.mp hSlot with hFirst | hLater
      · obtain rfl := Piece.slot.inj hFirst
        exact hName
      · exact ih hLater
  | plain hNone hRest ih =>
      rcases List.mem_cons.mp hSlot with hFirst | hLater
      · cases hFirst
      · exact ih hLater

def slotName? : Piece → Option String
  | .plain _ => none
  | .slot name => some name

theorem names_eq (s : String) : m.names s = ((m.pieces s).filterMap slotName?).eraseDups := by
  rw [names]
  congr 2

@[simp] theorem filterMap_slotName?_plain (c : Char) (pieces : List Piece) :
    (Piece.plain c :: pieces).filterMap slotName? = pieces.filterMap slotName? := rfl

@[simp] theorem filterMap_slotName?_slot (name : String) (pieces : List Piece) :
    (Piece.slot name :: pieces).filterMap slotName? = name :: pieces.filterMap slotName? := rfl

/-- Names that pass a test stand in the order in which they first appear. -/
theorem pairwise_eraseDups_slotNames (pieces : List Piece) (p : String → Bool) :
    ((pieces.filterMap slotName?).filter p).eraseDups.Pairwise
      fun a b => pieces.idxOf (.slot a) < pieces.idxOf (.slot b) := by
  induction pieces generalizing p with
  | nil => simp
  | cons piece pieces ih =>
      cases piece with
      | plain c => simpa [List.idxOf_cons] using ih p
      | slot name =>
          -- behind its first appearance a name is passed over, so the others count from there
          have hLater : ∀ q : String → Bool, q name = false →
              ((pieces.filterMap slotName?).filter q).eraseDups.Pairwise fun a b =>
                (Piece.slot name :: pieces).idxOf (.slot a) <
                  (Piece.slot name :: pieces).idxOf (.slot b) := by
            intro q hq
            have hNe : ∀ other ∈ ((pieces.filterMap slotName?).filter q).eraseDups,
                (Piece.slot name == Piece.slot other) = false := by
              intro other hOther
              have hPasses := (List.mem_filter.mp (List.mem_eraseDups.mp hOther)).2
              have hDiffers : name ≠ other := by
                rintro rfl
                simp [hq] at hPasses
              simpa using hDiffers
            apply (ih q).imp_of_mem
            intro a b ha hb hLt
            simp [List.idxOf_cons, hNe a ha, hNe b hb, hLt]
          by_cases hName : p name = true
          · rw [filterMap_slotName?_slot, List.filter_cons_of_pos hName, List.eraseDups_cons,
              List.filter_filter, List.pairwise_cons]
            constructor
            · intro other hOther
              have hDiffers := (List.mem_filter.mp (List.mem_eraseDups.mp hOther)).2
              simp only [Bool.and_eq_true, Bool.not_eq_true', beq_eq_false_iff_ne] at hDiffers
              have hNe : (Piece.slot name == Piece.slot other) = false := by
                simpa using fun h => hDiffers.1 h.symm
              simp [List.idxOf_cons, hNe]
            · exact hLater _ (by simp)
          · rw [filterMap_slotName?_slot, List.filter_cons_of_neg hName]
            exact hLater p (by simpa using hName)

end ScenarioRunner.SlotMark
