import Mathlib.Logic.Relation
import ScenarioRunner.Proofs.Regex.Reading

/-! What is read of a source that starts with a caret and ends in a dollar sign. A sequence is read
sign by sign, and from what one sign does it follows what a whole sequence keeps: the anchor that it
starts with, and the dollar sign at the end of the source. Both belong to one alternative only, the
caret to the first one and the dollar sign to the last. -/
namespace ScenarioRunner.Regex

def Node.branches : Node → List Node
  | .either left right => left :: right.branches
  | n => [n]

/-- Whatever an expression reads, it starts at the start of the text. -/
def Node.opens : Node → Bool
  | .anchor .textStart => true
  | .seq first _ => first.opens
  | .either left right => left.opens && right.opens
  | .group _ body => body.opens
  | .atomic body => body.opens
  | _ => false

/-- Whatever an expression reads, it ends at the end of the text, or before one newline there. -/
def Node.closes : Node → Bool
  | .anchor .lastLineEnd => true
  | .anchor .textEnd => true
  | .seq _ second => second.closes
  | .either left right => left.closes && right.closes
  | .group _ body => body.closes
  | .atomic body => body.closes
  | _ => false

/-- The last sign of a source is a dollar sign, which no backslash escapes. -/
def endsInDollar : List Char → Bool
  | [] => false
  | ['$'] => true
  | '\\' :: _ :: rest => endsInDollar rest
  | _ :: rest => endsInDollar rest

/-! One sign, and a sequence of them. -/

/-- What a sign does to the parts that were read. -/
inductive Changes (o : Options) (sign : List Char) :
    List Node → Standing → List Node → Standing → Prop
  | anchor {a : Anchor} (h : anchorSign? o sign = some a) (parts : List Node)
      (standing : Standing) : Changes o sign parts standing (.anchor a :: parts) .anchored
  | part (h : anchorSign? o sign = none) (node : Node) (parts : List Node)
      (standing after : Standing) : Changes o sign parts standing (node :: parts) after
  | nothing (h : anchorSign? o sign = none) (parts : List Node) (standing : Standing) :
      Changes o sign parts standing parts standing
  | again (h : anchorSign? o sign = none) (greed : Greed) (least : Nat) (most : Option Nat)
      (body : Node) (parts : List Node) :
      Changes o sign (body :: parts) .free (.again greed least most body :: parts) .repeated

/-- A place inside a sequence: what is left of the source, and the parts that were read. -/
structure Reading where
  rest : List Char
  parts : List Node
  standing : Standing

/-- One sign is read, and what belongs to it. -/
def Reads (o : Options) (r r' : Reading) : Prop :=
  ∃ sign, Starts r.rest (some sign) ∧ Leads o (r.rest.drop sign.length) r'.rest ∧
    Changes o sign r.parts r.standing r'.parts r'.standing

/-- What every sign keeps is kept from any place to a later one. -/
theorem holds_of_run {o : Options} {I : Reading → Prop} {r r' : Reading}
    (hStep : ∀ {r r'}, Reads o r r' → I r → I r')
    (hRun : Relation.ReflTransGen (Reads o) r r') (hStart : I r) : I r' := by
  induction hRun with
  | refl => exact hStart
  | tail _ hLast ih => exact hStep hLast ih

/-- A repetition follows something that stands free, and wraps it. -/
theorem repetition_step {o : Options} {fuel : Nat} {parts : List Node} {standing : Standing}
    {least : Nat} {most : Option Nat} {p q : Progress} {n : Node}
    (hRun : (repetition o (fuel + 1) parts standing least most).run p = .ok (n, q)) :
    ∃ body earlier greed p', parts = body :: earlier ∧ standing = .free ∧
      (sequence o fuel (.again greed least most body :: earlier) .repeated).run p' = .ok (n, q) ∧
      Leads o p.rest p'.rest := by
  rw [repetition.eq_def] at hRun
  dsimp only at hRun
  split at hRun
  · have hLeads {d : Char} (hEscape : d ≠ '\\') (hDollar : d ≠ '$') {p₁ p₂ : Progress} {found}
        (hAccept : (accept d).run p₁ = .ok (found, p₂)) : Leads o p₁.rest p₂.rest :=
      leads_of_keeps (fun I hI => keeps_accept hI hEscape hDollar) hAccept
    obtain ⟨mark, p₁, hMark, hRun⟩ := run_bind_eq_ok_iff.mp hRun
    have hFirst := hLeads (by decide) (by decide) hMark
    rcases run_ite_eq_ok_iff.mp hRun with ⟨-, hRun⟩ | ⟨-, hRun⟩
    · rw [pure_bind] at hRun
      exact ⟨_, _, _, p₁, rfl, rfl, hRun, hFirst⟩
    obtain ⟨plus, p₂, hPlus, hRun⟩ := run_bind_eq_ok_iff.mp hRun
    have hSecond := leads_trans hFirst (hLeads (by decide) (by decide) hPlus)
    rcases run_ite_eq_ok_iff.mp hRun with ⟨-, hRun⟩ | ⟨-, hRun⟩
    · rw [pure_bind] at hRun
      exact ⟨_, _, _, p₂, rfl, rfl, hRun, hSecond⟩
    · rw [pure_bind] at hRun
      exact ⟨_, _, _, p₂, rfl, rfl, hRun, hSecond⟩
  · simp at hRun

/-- A sequence is read sign by sign, and is what was read up to an end or to a closing sign. -/
theorem sequence_run {o : Options} {fuel : Nat} {parts : List Node} {standing : Standing}
    {p q : Progress} {n : Node}
    (hRun : (sequence o fuel parts standing).run p = .ok (n, q)) :
    ∃ parts' standing', Relation.ReflTransGen (Reads o) ⟨p.rest, parts, standing⟩
      ⟨q.rest, parts', standing'⟩ ∧ n = Node.ofList parts'.reverse ∧ Stops q.rest := by
  induction fuel using Nat.strong_induction_on generalizing parts standing p with
  | h fuel ih =>
      cases fuel with
      | zero => simp [sequence] at hRun
      | succ fuel =>
          have hOn {p' : Progress} {parts' : List Node} {standing' : Standing} {k : Nat}
              (hLess : k < fuel + 1)
              (hStep : Reads o ⟨p.rest, parts, standing⟩ ⟨p'.rest, parts', standing'⟩)
              (hRun : (sequence o k parts' standing').run p' = .ok (n, q)) :
              ∃ last after, Relation.ReflTransGen (Reads o) ⟨p.rest, parts, standing⟩
                ⟨q.rest, last, after⟩ ∧ n = Node.ofList last.reverse ∧ Stops q.rest := by
            obtain ⟨last, after, hSteps, hEnd⟩ := ih k hLess hRun
            exact ⟨last, after, .head hStep hSteps, hEnd⟩
          rcases sequence_step (reads_on fuel) hRun with
            ⟨rfl, hEnd⟩ | ⟨sign, p', x, hStart, hNext, hRun, hLeads⟩
          · exact ⟨parts, standing, .refl, hEnd⟩
          cases hNext with
          | anchor h => exact hOn (by omega) ⟨sign, hStart, hLeads, .anchor h _ _⟩ hRun
          | part h node after => exact hOn (by omega) ⟨sign, hStart, hLeads, .part h _ _ _ _⟩ hRun
          | nothing h => exact hOn (by omega) ⟨sign, hStart, hLeads, .nothing h _ _⟩ hRun
          | repeated h least most =>
              cases fuel with
              | zero => simp [repetition] at hRun
              | succ fuel =>
                  obtain ⟨body, earlier, greed, p'', rfl, rfl, hRun, hMore⟩ := repetition_step hRun
                  exact hOn (by omega) ⟨sign, hStart, leads_trans hLeads hMore,
                    .again h greed least most body earlier⟩ hRun

/-! The anchor that a sequence starts with. -/

/-- The first part of a sequence is an anchor, which is not repeated. -/
def StartsWith (a : Anchor) (r : Reading) : Prop :=
  ∃ later, r.parts = later ++ [.anchor a] ∧ (later = [] → r.standing ≠ .free)

/-- A sequence that starts with an anchor keeps it there while it is read on. -/
theorem startsWith_step {o : Options} {a : Anchor} {r r' : Reading} (hStep : Reads o r r')
    (hStart : StartsWith a r) : StartsWith a r' := by
  obtain ⟨sign, -, -, hChange⟩ := hStep
  obtain ⟨later, hParts, hFirst⟩ := hStart
  obtain ⟨rest, parts, standing⟩ := r
  obtain ⟨rest', parts', standing'⟩ := r'
  dsimp only at hChange hParts hFirst
  cases hChange with
  | @anchor b => exact ⟨.anchor b :: later, by rw [hParts, List.cons_append], by simp⟩
  | part _ node => exact ⟨node :: later, by rw [hParts, List.cons_append], by simp⟩
  | nothing => exact ⟨later, hParts, hFirst⟩
  | again _ greed least most body earlier =>
      cases later with
      | nil => exact absurd rfl (hFirst rfl)
      | cons node later =>
          obtain ⟨-, rfl⟩ := List.cons.inj hParts
          exact ⟨.again greed least most body :: later, rfl, by simp⟩

/-- A caret in front is read as the anchor of the start. -/
theorem startsWith_caret {t : List Char} {r : Reading}
    (hStep : Reads {} ⟨'^' :: t, [], .free⟩ r) : StartsWith .textStart r := by
  obtain ⟨sign, hStart, -, hChange⟩ := hStep
  obtain ⟨rest, parts, standing⟩ := r
  dsimp only at hStart hChange
  cases hStart
  cases hChange with
  | anchor h =>
      obtain rfl : Anchor.textStart = _ := by simpa [anchorSign?] using h
      exact ⟨[], rfl, by simp⟩
  | part h => simp [anchorSign?] at h
  | nothing h => simp [anchorSign?] at h

theorem not_stops_caret (t : List Char) : ¬Stops ('^' :: t) := by
  rintro (hStart | hStart | hStart) <;> cases hStart

/-! The dollar sign at the end of a source. -/

/-- A dollar sign at the end is still there after reading on, since no step goes past it but as an
anchor. -/
theorem onward_endsInDollar : Onward fun s => endsInDollar s = true := by
  intro s t c hEscape hDollar hSuffix hEnds
  fun_induction endsInDollar s with
  | case1 => simp at hEnds
  | case2 =>
      rcases List.suffix_cons_iff.mp hSuffix with hWhole | hInside
      · obtain ⟨rfl, -⟩ := List.cons.inj hWhole
        exact absurd rfl hDollar
      · simp at hInside
  | case3 d rest ih =>
      rcases List.suffix_cons_iff.mp hSuffix with hWhole | hInside
      · obtain ⟨rfl, -⟩ := List.cons.inj hWhole
        exact absurd rfl hEscape
      rcases List.suffix_cons_iff.mp hInside with hWhole | hInside
      · obtain ⟨-, rfl⟩ := List.cons.inj hWhole
        exact hEnds
      · exact ih hInside hEnds
  | case4 d rest h h' ih =>
      rcases List.suffix_cons_iff.mp hSuffix with hWhole | hInside
      · obtain ⟨-, rfl⟩ := List.cons.inj hWhole
        exact hEnds
      · exact ih hInside hEnds

/-- The dollar sign is still to come, or it was the last sign. -/
def EndsInAnchor (r : Reading) : Prop :=
  endsInDollar r.rest = true ∨ r.rest = [] ∧ ∃ earlier, r.parts = .anchor .lastLineEnd :: earlier

/-- A text that ends in a dollar sign goes on to do so behind any character but a backslash. -/
theorem endsInDollar_cons {c : Char} (hc : c ≠ '\\') {t : List Char}
    (hEnds : endsInDollar (c :: t) = true) : c = '$' ∧ t = [] ∨ endsInDollar t = true := by
  rw [endsInDollar.eq_def] at hEnds
  split at hEnds
  case h_1 hNil => simp at hNil
  case h_2 hSign => exact .inl (by simpa using hSign)
  case h_3 hSign => exact absurd (List.cons.inj hSign).1 hc
  case h_4 hSign => exact .inr ((List.cons.inj hSign).2 ▸ hEnds)

/-- A reading that ends in an anchor still does after a step. -/
theorem endsInAnchor_step {r r' : Reading} (hStep : Reads {} r r') (hEnd : EndsInAnchor r) :
    EndsInAnchor r' := by
  obtain ⟨sign, hStart, hLeads, hChange⟩ := hStep
  obtain ⟨rest, parts, standing⟩ := r
  rcases hEnd with hEnds | ⟨rfl, -⟩
  swap
  · cases hStart
  have hOn {t : List Char} (hLeads : Leads {} t r'.rest) (hEnds : endsInDollar t = true) :
      endsInDollar r'.rest = true := hLeads.2 rfl _ onward_endsInDollar hEnds
  cases hStart with
  | escaped c t => exact .inl (hOn hLeads hEnds)
  | plain hc t =>
      rcases endsInDollar_cons hc hEnds with ⟨rfl, rfl⟩ | hEnds
      · have hEmpty : r'.rest = [] := List.suffix_nil.mp hLeads.1
        obtain ⟨rest', parts', standing'⟩ := r'
        dsimp only at hChange hEmpty
        cases hChange with
        | anchor h =>
            obtain rfl : Anchor.lastLineEnd = _ := by simpa [anchorSign?] using h
            exact .inr ⟨hEmpty, parts, rfl⟩
        | part h => simp [anchorSign?] at h
        | nothing h => simp [anchorSign?] at h
        | again h => simp [anchorSign?] at h
      · exact .inl (hOn hLeads hEnds)

/-! The alternatives of a source. -/

theorem ofList_cons {l : List Node} (hMore : l ≠ []) (n : Node) :
    Node.ofList (n :: l) = .seq n (.ofList l) := by
  cases l with
  | nil => exact absurd rfl hMore
  | cons m l => rfl

/-- What starts with the anchor is a single branch that opens with it. -/
theorem opens_of_startsWith {r : Reading} (hStart : StartsWith .textStart r) :
    (Node.ofList r.parts.reverse).opens = true ∧
      (Node.ofList r.parts.reverse).branches = [.ofList r.parts.reverse] := by
  obtain ⟨later, hParts, -⟩ := hStart
  rw [hParts, List.reverse_append, List.reverse_singleton, List.singleton_append]
  cases hLater : later.reverse with
  | nil => exact ⟨rfl, rfl⟩
  | cons node later => exact ⟨rfl, rfl⟩

/-- What ends with the anchor is a single branch that closes with it. -/
theorem closes_ofList (l : List Node) :
    (Node.ofList (l ++ [.anchor .lastLineEnd])).closes = true ∧
      (Node.ofList (l ++ [.anchor .lastLineEnd])).branches =
        [.ofList (l ++ [.anchor .lastLineEnd])] := by
  induction l with
  | nil => exact ⟨rfl, rfl⟩
  | cons n l ih =>
      rw [List.cons_append, ofList_cons (by simp)]
      exact ⟨ih.1, rfl⟩

/-- The first alternative starts with the anchor that its source starts with. -/
theorem opens_of_alternatives {fuel : Nat} {p q : Progress} {n : Node} {t : List Char}
    (hRun : (alternatives {} fuel).run p = .ok (n, q)) (hCaret : p.rest = '^' :: t) :
    ∃ first later, n.branches = first :: later ∧ first.opens = true := by
  cases fuel with
  | zero => simp [alternatives] at hRun
  | succ fuel =>
      rw [alternatives] at hRun
      obtain ⟨first, p₁, hFirst, hRun⟩ := run_bind_eq_ok_iff.mp hRun
      obtain ⟨bar, p₂, -, hRun⟩ := run_bind_eq_ok_iff.mp hRun
      obtain ⟨parts, standing, hSteps, rfl, hStop⟩ := sequence_run hFirst
      have hStart : StartsWith .textStart ⟨p₁.rest, parts, standing⟩ := by
        rcases hSteps.cases_head with hSame | ⟨r, hStep, hSteps⟩
        · obtain ⟨hRest, -, -⟩ := Reading.mk.inj hSame
          rw [← hRest, hCaret] at hStop
          exact absurd hStop (not_stops_caret t)
        · exact holds_of_run startsWith_step hSteps (startsWith_caret (hCaret ▸ hStep))
      obtain ⟨hOpens, hSingle⟩ := opens_of_startsWith hStart
      rcases run_ite_eq_ok_iff.mp hRun with ⟨-, hRun⟩ | ⟨-, hRun⟩
      · obtain ⟨others, p₃, -, hRun⟩ := run_bind_eq_ok_iff.mp hRun
        obtain ⟨rfl, -⟩ := run_pure_eq_ok_iff.mp hRun
        exact ⟨_, _, rfl, hOpens⟩
      · obtain ⟨rfl, -⟩ := run_pure_eq_ok_iff.mp hRun
        exact ⟨_, _, hSingle, hOpens⟩

/-- The last alternative ends in the anchor that its source ends in. -/
theorem closes_of_alternatives {fuel : Nat} {p q : Progress} {n : Node}
    (hRun : (alternatives {} fuel).run p = .ok (n, q)) (hEnds : endsInDollar p.rest = true) :
    endsInDollar q.rest = true ∨
      ∃ earlier last, n.branches = earlier ++ [last] ∧ last.closes = true := by
  induction fuel generalizing p n with
  | zero => simp [alternatives] at hRun
  | succ fuel ih =>
      rw [alternatives] at hRun
      obtain ⟨first, p₁, hFirst, hRun⟩ := run_bind_eq_ok_iff.mp hRun
      obtain ⟨bar, p₂, hBar, hRun⟩ := run_bind_eq_ok_iff.mp hRun
      obtain ⟨parts, standing, hSteps, rfl, -⟩ := sequence_run hFirst
      have hLast : EndsInAnchor ⟨p₁.rest, parts, standing⟩ :=
        holds_of_run endsInAnchor_step hSteps (.inl hEnds)
      rcases accepted (by decide) hBar with ⟨rfl, hRest⟩ | ⟨rfl, rfl⟩
      · obtain ⟨others, p₃, hOthers, hRun⟩ := run_bind_eq_ok_iff.mp hRun
        obtain ⟨rfl, rfl⟩ := run_pure_eq_ok_iff.mp hRun
        rcases hLast with hMore | ⟨hEmpty, -⟩
        · have hBar : '|' :: p₂.rest <:+ p₁.rest := hRest ▸ List.suffix_refl _
          have hBehind : endsInDollar p₂.rest = true :=
            onward_endsInDollar (by decide) (by decide) hBar hMore
          rcases ih hOthers hBehind with hMore | ⟨earlier, last, hBranches, hCloses⟩
          · exact .inl hMore
          · refine .inr ⟨.ofList parts.reverse :: earlier, last, ?_, hCloses⟩
            rw [Node.branches, hBranches, List.cons_append]
        · simp [hRest] at hEmpty
      · obtain ⟨rfl, rfl⟩ := run_pure_eq_ok_iff.mp hRun
        rcases hLast with hMore | ⟨-, earlier, hParts⟩
        · exact .inl hMore
        · dsimp only at hParts
          rw [hParts, List.reverse_cons]
          obtain ⟨hCloses, hSingle⟩ := closes_ofList earlier.reverse
          exact .inr ⟨[], _, hSingle, hCloses⟩

end ScenarioRunner.Regex
