import ScenarioRunner.Proofs.Decision.Relaxing
import ScenarioRunner.Proofs.Decision.Unwrapping

/-! An object in prose. No fence is seen around it, the edits leave no brace outside of it, and so
it is what is found between the outermost braces. -/
namespace ScenarioRunner.Decision

open Json (Spelled StartsWith startsValue)

def isProse (c : Char) : Bool := c != '\x7b' && c != '\x7d' && c != '\x60' && c != '/'

/-- Prose, with comments in it where they may start. -/
def Prose (mayOpen : Bool) (s : List Char) : Prop := Stretch isProse mayOpen s

/-- Text without the marks of a fence or a comment is prose. -/
theorem prose_of_isProse {mayOpen : Bool} {s : List Char} (h : ∀ c ∈ s, isProse c = true) :
    Prose mayOpen s := by
  induction s generalizing mayOpen with
  | nil => exact .nil
  | cons c s ih =>
      exact .char (h c List.mem_cons_self) (ih fun d hd => h d (List.mem_cons_of_mem c hd))

/-! Unwrapping. -/

/-- Prose opens no fence of code. -/
theorem unfenced_prose {mayOpen : Bool} {s : List Char} (h : Prose mayOpen s) : Unfenced s := by
  induction h with
  | nil => exact unfencedFrom_nil _
  | char hKind hRest ih =>
      apply Unfenced.cons _ ih
      rintro rfl
      cases hKind
  | comment hText hRest ih =>
      rename_i text s
      have hLine : Unfenced ('/' :: '/' :: text) :=
        unfenced_of_newline_not_mem (by decide) (by simpa using hText)
      exact hLine.append (ih.cons (c := '\n') (by decide))

/-- Blanks in front of prose may go. -/
theorem prose_dropWhile {mayOpen : Bool} {s : List Char} (h : Prose mayOpen s) :
    Prose true (s.dropWhile Text.isBlank) := by
  induction h with
  | nil => exact .nil
  | char hKind hRest ih =>
      rename_i mayOpen c s
      cases hBlank : Text.isBlank c with
      | true =>
          rw [List.dropWhile_cons_of_pos hBlank]
          exact ih
      | false =>
          rw [List.dropWhile_cons_of_neg (by simp [hBlank])]
          exact .char hKind hRest
  | comment hText hRest ih =>
      rw [List.dropWhile_cons_of_neg (by decide)]
      exact .comment hText hRest

/-- The front of a text without a fence has none either. -/
theorem unfenced_of_isPrefix {s t : List Char} (h : s <+: t) (ht : Unfenced t) : Unfenced s := by
  obtain ⟨rest, rfl⟩ := h
  exact List.IsChain.left_of_append ht

theorem dropWhile_eq_self {p : Char → Bool} {front back : List Char} {z : Char}
    (h : ∀ c ∈ (front ++ [z]).head?, p c = false) :
    (front ++ z :: back).dropWhile p = front ++ z :: back := by
  cases front with
  | nil => exact List.dropWhile_cons_of_neg (by simp [h z rfl])
  | cons c front => exact List.dropWhile_cons_of_neg (by simp [h c rfl])

/-- From a text that starts with another character, only ticks and blanks at its end go. -/
theorem exists_stripTicks {front : List Char} {z : Char} (hTick : z ≠ '\x60')
    (hBlank : Text.isBlank z = false)
    (hHead : ∀ c ∈ (front ++ [z]).head?, Text.isBlank c = false ∧ c ≠ '\x60')
    (back : List Char) :
    ∃ rest, rest <+: back ∧ stripTicks (front ++ z :: back) = front ++ z :: rest := by
  unfold stripTicks
  split
  · have hTicks : Text.trimWhere (· == '\x60') (front ++ z :: back) =
        front ++ z :: (back.reverse.dropWhile (· == '\x60')).reverse := by
      rw [Text.trimWhere, dropWhile_eq_self fun c hc => by simpa using (hHead c hc).2]
      exact Text.reverse_dropWhile_append_cons (by simpa using hTick) front back
    have hBlanks : ∀ s, Text.trim (front ++ z :: s) = front ++ z :: Text.trimEnd s := by
      intro s
      rw [Text.trim, dropWhile_eq_self fun c hc => (hHead c hc).1]
      exact Text.trimEnd_append_cons hBlank front s
    rw [hTicks, hBlanks]
    refine ⟨_, (Text.trimEnd_isPrefix _).trans ?_, rfl⟩
    rw [← List.reverse_suffix, List.reverse_reverse]
    exact List.dropWhile_suffix _
  · exact ⟨back, List.prefix_refl back, rfl⟩

/-- An object in prose is unwrapped with the prose around it, but for blanks and ticks at the
ends. -/
theorem exists_unwrap_prose {L : Json.Layout} {part : Json.Part} {before text after : List Char}
    {b e : Bool} (hText : Spelled L part text) (hBefore : Prose b before) (hAfter : Prose e after) :
    ∃ rest, rest <+: after ∧
      unwrap (before ++ (text ++ after)) = before.dropWhile Text.isBlank ++ (text ++ rest) := by
  have hTrim := hText.trim_append before after
  have hFront := unfenced_prose (prose_dropWhile hBefore)
  have hBack := unfenced_of_isPrefix (Text.trimEnd_isPrefix after) (unfenced_prose hAfter)
  have hUnfenced := hFront.append ((unfenced_spelled hText).append hBack)
  have hNone : fenced? true (Text.trim (before ++ (text ++ after))) = none := by
    rw [hTrim]
    exact fenced?_eq_none hUnfenced
  obtain ⟨init, z, hInit, hz⟩ := hText.endsWith
  have hHead : ∀ c ∈ (before.dropWhile Text.isBlank ++ init ++ [z]).head?,
      Text.isBlank c = false ∧ c ≠ '\x60' := by
    intro c hc
    rw [List.append_assoc, ← hInit] at hc
    cases hRest : before.dropWhile Text.isBlank with
    | nil =>
        obtain ⟨d, tail, rfl, hd⟩ := hText.startsWith
        rw [hRest] at hc
        cases hc
        exact ⟨Json.isBlank_eq_false_of_startsValue hd, ne_tick_of_startsValue hd⟩
    | cons d rest =>
        have hBlank := List.head?_dropWhile_not Text.isBlank before
        rw [hRest] at hc hBlank hFront
        cases hc
        exact ⟨by simpa using hBlank, (unfencedFrom_cons.mp hFront).1 rfl⟩
  obtain ⟨rest, hRest, hStrip⟩ :=
    exists_stripTicks (ne_tick_of_ends hz) (Json.isBlank_eq_false_of_ends hz) hHead
      (Text.trimEnd after)
  refine ⟨rest, hRest.trans (Text.trimEnd_isPrefix after), ?_⟩
  rw [unwrap_eq_stripTicks, hNone, Option.elim, hTrim, hInit]
  simpa using hStrip

/-! Relaxing. -/

/-- A comment that is not ended takes the rest of the text. -/
theorem dropComments_line {s : List Char} (h : '\n' ∉ s) : dropComments false true s = [] := by
  induction s with
  | nil => rfl
  | cons c s ih =>
      rw [List.mem_cons, not_or] at h
      rw [dropComments, if_neg (by simpa using Ne.symm h.1), if_pos rfl, ih h.2]

/-- Where prose breaks off, what is left of it holds no brace. -/
theorem brace_not_mem_dropComments {b : Bool} {s x : List Char} (h : Prose b s) (hx : x <+: s) :
    '\x7d' ∉ dropComments b false x := by
  induction h generalizing x with
  | nil =>
      rw [List.prefix_nil.mp hx]
      exact List.not_mem_nil
  | char hKind hRest ih =>
      rename_i mayOpen c s
      cases x with
      | nil => exact List.not_mem_nil
      | cons d x =>
          obtain ⟨rfl, hPrefix⟩ := List.cons_prefix_cons.mp hx
          have hSlash : d ≠ '/' := by
            rintro rfl
            cases hKind
          rw [dropComments_cons hSlash, List.mem_cons, not_or]
          refine ⟨?_, ih hPrefix⟩
          rintro rfl
          cases hKind
  | comment hText hRest ih =>
      rename_i text s
      -- what breaks off inside of the comment leaves nothing behind it
      match x, hx with
      | [], _ => exact List.not_mem_nil
      | [c], hx =>
          obtain ⟨rfl, -⟩ := List.cons_prefix_cons.mp hx
          decide
      | c :: d :: x, hx =>
          obtain ⟨hFirst, hx⟩ := List.cons_prefix_cons.mp hx
          obtain ⟨hSecond, hx⟩ := List.cons_prefix_cons.mp hx
          rw [hFirst, hSecond, dropComments_slashes]
          rcases List.prefix_or_prefix_of_prefix hx (List.prefix_append text _) with hLine | hWhole
          · rw [dropComments_line fun hMem => hText (hLine.subset hMem)]
            exact List.not_mem_nil
          · obtain ⟨rest, rfl⟩ := hWhole
            cases rest with
            | nil =>
                rw [List.append_nil, dropComments_line hText]
                exact List.not_mem_nil
            | cons e rest =>
                obtain ⟨rfl, hRest'⟩ := List.cons_prefix_cons.mp
                  ((List.prefix_append_right_inj text).mp hx)
                rw [dropComments_inComment hText]
                simpa using ih hRest'

/-- The edits write no characters of their own. -/
theorem mem_of_mem_dropCommas {n : Nat} {s : List Char} {c : Char} (h : c ∈ dropCommas n s) :
    c ∈ s := by
  induction s generalizing n with
  | nil => simp [dropCommas] at h
  | cons d s ih =>
      cases n with
      | succ n => exact List.mem_cons_of_mem d (ih h)
      | zero =>
          rw [dropCommas] at h
          split at h
          · exact List.mem_cons_of_mem d (ih h)
          · rcases List.mem_cons.mp h with rfl | h
            · exact List.mem_cons_self
            · exact List.mem_cons_of_mem d (ih h)

theorem takeWhile_append_cons {p : Char → Bool} {front rest : List Char} {c : Char}
    (h : p c = false) : (front ++ c :: rest).takeWhile p = front.takeWhile p := by
  rw [List.takeWhile_append, List.takeWhile_cons_of_neg (by simp [h]), List.append_nil]
  split
  · rename_i hLength
    exact (List.takeWhile_prefix p |>.eq_of_length hLength).symm
  · rfl

/-- What stands before a character that is no blank is edited by itself. -/
theorem exists_dropCommas_front {front rest : List Char} {c : Char}
    (hc : Text.isBlank c = false) {n : Nat} (hn : n ≤ (front.takeWhile Text.isBlank).length) :
    ∃ front', (∀ d ∈ front', d ∈ front) ∧
      dropCommas n (front ++ c :: rest) = front' ++ dropCommas 0 (c :: rest) := by
  -- the blanks that a comma covers end before `c`, so `n` reaches no further than they do
  induction front generalizing n with
  | nil =>
      obtain rfl : n = 0 := Nat.le_zero.mp hn
      exact ⟨[], by simp, rfl⟩
  | cons d front ih =>
      cases n with
      | succ n =>
          have hBlank : Text.isBlank d = true := by
            by_contra hBlank
            rw [List.takeWhile_cons_of_neg hBlank] at hn
            cases hn
          rw [List.takeWhile_cons_of_pos hBlank] at hn
          obtain ⟨front', hMem, hDrop⟩ := ih (Nat.le_of_succ_le_succ hn)
          exact ⟨front', fun e he => List.mem_cons_of_mem d (hMem e he), hDrop⟩
      | zero =>
          rw [List.cons_append, dropCommas, takeWhile_append_cons hc]
          split
          · obtain ⟨front', hMem, hDrop⟩ := ih (Nat.le_refl _)
            exact ⟨front', fun e he => List.mem_cons_of_mem d (hMem e he), hDrop⟩
          · obtain ⟨front', hMem, hDrop⟩ := ih (Nat.zero_le _)
            refine ⟨d :: front', fun e he => ?_, by rw [hDrop]; rfl⟩
            rcases List.mem_cons.mp he with rfl | he
            · exact List.mem_cons_self
            · exact List.mem_cons_of_mem d (hMem e he)

/-- Between the outermost braces stands the object. -/
theorem braced_append {front init back : List Char} (hFront : '\x7b' ∉ front)
    (hBack : '\x7d' ∉ back) :
    braced (front ++ '\x7b' :: (init ++ '\x7d' :: back)) = '\x7b' :: (init ++ ['\x7d']) := by
  have hStart : (front ++ '\x7b' :: (init ++ '\x7d' :: back)).dropWhile (· != '\x7b') =
      '\x7b' :: (init ++ '\x7d' :: back) := by
    rw [List.dropWhile_append_of_pos]
    · exact List.dropWhile_cons_of_neg (by decide)
    · intro c hc
      simp only [bne_iff_ne, ne_eq]
      rintro rfl
      exact hFront hc
  have hEnd : (back.reverse.dropWhile (· != '\x7d')).reverse = [] := by
    rw [List.reverse_eq_nil_iff, List.dropWhile_eq_nil_iff]
    intro c hc
    simp only [bne_iff_ne, ne_eq]
    rintro rfl
    exact hBack (List.mem_reverse.mp hc)
  have hBody := Text.reverse_dropWhile_append_cons (p := (· != '\x7d')) (c := '\x7d') (by decide)
    ('\x7b' :: init) back
  rw [hEnd] at hBody
  simp only [braced, hStart]
  rw [← List.cons_append, hBody]
  rfl

/-- Relaxing a reply leaves an object that stands in prose, spelled without comments and trailing
commas, and nothing else. -/
theorem relax_prose {L : Json.Layout} {fields : List (String × Json)}
    {front text back : List Char} (hSlashes : SparesSlashes L) (hCommas : SparesCommas L)
    (hText : Spelled L (.value (.obj fields)) text) (hFront : Prose true front)
    (hBack : '\x7d' ∉ dropComments true false back) :
    Spelled (withoutTrailing (withoutComments L)) (.value (.obj fields))
      (relax (front ++ (text ++ back))) := by
  -- first the comments go, then the commas; the object is spelled with less each time, and no
  -- opening brace is left before it
  obtain ⟨left, hLeft, hDrop⟩ := Stretch.exists_left hFront rfl rfl
  obtain ⟨kept, hKept, hLeaves⟩ := leaves_spelled hSlashes hText
  have hCommas' : SparesCommas (withoutComments L) :=
    fun v text h => hCommas v text ⟨h.atom, h.admitted⟩
  obtain ⟨final, hFinal, hKeeps⟩ := keeps_spelled rfl hCommas' hKept
  obtain ⟨inner, rfl⟩ := hKept.exists_braces
  obtain ⟨core, rfl⟩ := hFinal.exists_braces
  have hRelax : relax (front ++ (text ++ back)) = '\x7b' :: (core ++ ['\x7d']) := by
    generalize hRest : dropComments true false back = rest at hBack
    have hComments : dropComments true false (front ++ (text ++ back)) =
        left ++ '\x7b' :: (inner ++ ['\x7d'] ++ rest) := by
      rw [hDrop hLeaves back, ← hRest]
      rfl
    obtain ⟨front', hMem, hEdited⟩ : ∃ front', (∀ d ∈ front', d ∈ left) ∧
        dropCommas 0 (left ++ '\x7b' :: (inner ++ ['\x7d'] ++ rest)) =
          front' ++ dropCommas 0 ('\x7b' :: (inner ++ ['\x7d'] ++ rest)) :=
      exists_dropCommas_front (by decide) (Nat.zero_le _)
    have hObject : dropCommas 0 ('\x7b' :: (inner ++ ['\x7d'] ++ rest)) =
        '\x7b' :: (core ++ '\x7d' :: dropCommas 0 rest) := by
      simpa using hKeeps rest
    have hBrace : '\x7b' ∉ front' := fun h => by cases hLeft _ (hMem _ h)
    rw [relax, hComments, hEdited, hObject]
    exact braced_append hBrace fun h => hBack (mem_of_mem_dropCommas h)
  rw [hRelax]
  exact hFinal

end ScenarioRunner.Decision
