import Mathlib.Data.List.Infix
import ScenarioRunner.Proofs.Except
import ScenarioRunner.Regex.Reader

/-! How far the reader of expressions goes. Whatever a part of the reader does, it leaves the end of
the source as it found it; and all that it reads for one part of a sequence, after the sign that the
part starts with, ends in a sign that is complete. So a dollar sign at the end of a source is either
read by itself, or as the sign behind a backslash. -/
namespace ScenarioRunner.Regex

variable {α β : Type}

/-- A reader that goes on from another has two successful parts. -/
theorem run_bind_eq_ok_iff {x : ReadM α} {f : α → ReadM β} {p r : Progress} {b : β} :
    (x >>= f).run p = .ok (b, r) ↔ ∃ a q, x.run p = .ok (a, q) ∧ (f a).run q = .ok (b, r) := by
  rw [StateT.run_bind, bind_eq_ok_iff]
  simp

theorem run_pure_eq_ok_iff {p q : Progress} {a b : α} :
    (pure a : ReadM α).run p = .ok (b, q) ↔ a = b ∧ p = q := by
  rw [StateT.run_pure, pure_eq_ok_iff, Prod.mk.injEq]

theorem run_get_eq_ok_iff {p q r : Progress} :
    (get : ReadM Progress).run p = .ok (q, r) ↔ p = q ∧ p = r := by
  rw [StateT.run_get, pure_eq_ok_iff, Prod.mk.injEq]

theorem run_modify_eq_ok_iff {f : Progress → Progress} {p q : Progress} :
    (modify f : ReadM Unit).run p = .ok ((), q) ↔ f p = q := by
  rw [StateT.run_modify, pure_eq_ok_iff, Prod.mk.injEq]
  simp

theorem run_ite_eq_ok_iff {c : Prop} [Decidable c] {x y : ReadM α} {p : Progress}
    {r : α × Progress} :
    (if c then x else y).run p = .ok r ↔ c ∧ x.run p = .ok r ∨ ¬c ∧ y.run p = .ok r := by
  split <;> simp_all

@[simp] theorem run_fail_ne_ok {p q : Progress} {a : α} : (fail : ReadM α).run p ≠ .ok (a, q) := by
  rintro ⟨⟩

theorem run_skip_eq_ok_iff {n : Nat} {p q : Progress} :
    (skip n).run p = .ok ((), q) ↔ { p with rest := p.rest.drop n } = q := by
  rw [skip, run_modify_eq_ok_iff]

inductive Starts : List Char → Option (List Char) → Prop where
  | nil : Starts [] none
  | escaped (c : Char) (rest : List Char) : Starts ('\\' :: c :: rest) (some ['\\', c])
  | plain {c : Char} (h : c ≠ '\\') (rest : List Char) : Starts (c :: rest) (some [c])

/-- Of all signs only escapes have two characters, and they begin with a backslash. -/
theorem Starts.eq_backslash {s : List Char} {b c : Char} (hStart : Starts s (some [b, c])) :
    b = '\\' := by
  cases hStart
  rfl

theorem starts_of_peek {p q : Progress} {sign : Option (List Char)}
    (hRun : peek.run p = .ok (sign, q)) : p = q ∧ Starts p.rest sign := by
  rw [peek, run_bind_eq_ok_iff] at hRun
  obtain ⟨p', p'', hGet, hRun⟩ := hRun
  obtain ⟨rfl, rfl⟩ := run_get_eq_ok_iff.mp hGet
  split at hRun
  · rename_i hRest
    obtain ⟨rfl, rfl⟩ := run_pure_eq_ok_iff.mp hRun
    exact ⟨rfl, hRest ▸ .nil⟩
  · simp at hRun
  · rename_i c rest hRest
    obtain ⟨rfl, rfl⟩ := run_pure_eq_ok_iff.mp hRun
    exact ⟨rfl, hRest ▸ .escaped c rest⟩
  · rename_i c rest hSingle hEscape hRest
    obtain ⟨rfl, rfl⟩ := run_pure_eq_ok_iff.mp hRun
    refine ⟨rfl, hRest ▸ .plain ?_ rest⟩
    rintro rfl
    cases rest with
    | nil => exact hSingle rfl rfl
    | cons d rest => exact hEscape d rest rfl rfl

/-- A character is accepted where it comes next, and is then read. -/
theorem accepted {c : Char} (hc : c ≠ '\\') {p q : Progress} {found : Bool}
    (hRun : (accept c).run p = .ok (found, q)) :
    found = true ∧ p.rest = c :: q.rest ∨ found = false ∧ p = q := by
  rw [accept, run_bind_eq_ok_iff] at hRun
  obtain ⟨sign, p', hPeek, hRun⟩ := hRun
  obtain ⟨rfl, hStart⟩ := starts_of_peek hPeek
  split at hRun
  · rename_i hSign
    obtain ⟨_, p', hSkip, hRun⟩ := run_bind_eq_ok_iff.mp hRun
    obtain rfl := run_skip_eq_ok_iff.mp hSkip
    obtain ⟨rfl, rfl⟩ := run_pure_eq_ok_iff.mp hRun
    obtain rfl := eq_of_beq hSign
    refine .inl ⟨rfl, ?_⟩
    generalize p.rest = rest at hStart
    cases hStart
    rfl
  · obtain ⟨rfl, rfl⟩ := run_pure_eq_ok_iff.mp hRun
    exact .inr ⟨rfl, rfl⟩

/-- Says something about what is left of a source that stays true when reading goes on, up to any
character that is neither a backslash nor a dollar sign. -/
def Onward (I : List Char → Prop) : Prop :=
  ∀ ⦃s t : List Char⦄ ⦃c : Char⦄, c ≠ '\\' → c ≠ '$' → c :: t <:+ s → I s → I t

/-- What is left is an end of a given text. -/
theorem onward_suffix (s : List Char) : Onward (· <:+ s) := by
  intro t u c _ _ hSuffix hEnd
  exact ((List.suffix_cons c u).trans hSuffix).trans hEnd

/-- The reader leaves true what was true of the source before. -/
def Keeps (I : List Char → Prop) (x : ReadM α) : Prop :=
  ∀ p a q, I p.rest → x.run p = .ok (a, q) → I q.rest

section

variable {I : List Char → Prop}

/-- A value that is at hand leaves the rest of the source as it is. -/
theorem keeps_pure (a : α) : Keeps I (pure a) := by
  intro p b q hLeft hRun
  obtain ⟨-, rfl⟩ := run_pure_eq_ok_iff.mp hRun
  exact hLeft

/-- What fails leaves no rest at all. -/
theorem keeps_fail : Keeps I (fail : ReadM α) := by
  intro p a q _ hRun
  simp at hRun

/-- What would be read after a fault does not matter. -/
theorem keeps_throw_bind (e : Fault) (f : β → ReadM α) : Keeps I (throw e >>= f) := by
  intro p a q _ hRun
  obtain ⟨_, _, hThrow, -⟩ := run_bind_eq_ok_iff.mp hRun
  cases hThrow

/-- A property of the rest is kept by two readers if it is by each. -/
theorem keeps_bind {x : ReadM α} {f : α → ReadM β} (hx : Keeps I x) (hf : ∀ a, Keeps I (f a)) :
    Keeps I (x >>= f) := by
  intro p b r hLeft hRun
  obtain ⟨a, q, hFirst, hSecond⟩ := run_bind_eq_ok_iff.mp hRun
  exact hf a q b r (hx p a q hLeft hFirst) hSecond

/-- What is read only under a condition, the way going on from it is the same. -/
theorem keeps_ite_bind {c : Prop} [Decidable c] {x y : ReadM β} {f : β → ReadM α}
    (hx : Keeps I x) (hy : Keeps I y) (hf : ∀ b, Keeps I (f b)) :
    Keeps I (if c then x >>= f else y >>= f) := by
  split
  · exact keeps_bind hx hf
  · exact keeps_bind hy hf

/-- A condition under which reading stops. -/
theorem keeps_unless {c : Prop} [Decidable c] {e : Fault} {f : Unit → ReadM α}
    (hf : Keeps I (f ())) : Keeps I (if c then (throw e : ReadM Unit) >>= f else f ()) := by
  split
  · exact keeps_throw_bind e f
  · exact hf

theorem keeps_get : Keeps I (get : ReadM Progress) := by
  intro p a q hLeft hRun
  obtain ⟨-, rfl⟩ := run_get_eq_ok_iff.mp hRun
  exact hLeft

theorem keeps_modify {f : Progress → Progress} (hf : ∀ p, I p.rest → I (f p).rest) :
    Keeps I (modify f : ReadM Unit) := by
  intro p a q hLeft hRun
  obtain rfl := run_modify_eq_ok_iff.mp hRun
  exact hf p hLeft

theorem keeps_set {s : Progress} (hLeft : I s.rest) : Keeps I (set s : ReadM Unit) := by
  intro p a q _ hRun
  rw [StateT.run_set, pure_eq_ok_iff, Prod.mk.injEq] at hRun
  obtain ⟨-, rfl⟩ := hRun
  exact hLeft

variable (hI : Onward I)
include hI

/-- Accepting an ordinary character keeps every property that goes on past it. -/
theorem keeps_accept {c : Char} (hEscape : c ≠ '\\') (hDollar : c ≠ '$') : Keeps I (accept c) := by
  intro p found q hLeft hRun
  rcases accepted hEscape hRun with ⟨-, hRest⟩ | ⟨-, rfl⟩
  · exact hI hEscape hDollar (hRest ▸ List.suffix_refl _) hLeft
  · exact hLeft

/-- Ordinary characters are passed without a property of the rest being lost. -/
theorem onward_takeWhile {kind : Char → Bool} (hEscape : kind '\\' = false)
    (hDollar : kind '$' = false) (n : Nat) {s : List Char} (hLeft : I s) :
    I (s.drop ((s.take n).takeWhile kind).length) := by
  induction n generalizing s with
  | zero => exact hLeft
  | succ n ih =>
      cases s with
      | nil => exact hLeft
      | cons c s =>
          rw [List.take_succ_cons, List.takeWhile_cons]
          split
          · rename_i hc
            have hNotEscape : c ≠ '\\' := by rintro rfl; simp [hEscape] at hc
            have hNotDollar : c ≠ '$' := by rintro rfl; simp [hDollar] at hc
            exact ih (hI hNotEscape hNotDollar (List.suffix_refl _) hLeft)
          · exact hLeft

/-- Characters of a kind, none of which is a backslash or a dollar sign, are read one by one. -/
theorem keeps_takeUpTo (n : Nat) {kind : Char → Bool} (hEscape : kind '\\' = false)
    (hDollar : kind '$' = false) : Keeps I (takeUpTo n kind) := by
  intro p found q hLeft hRun
  obtain ⟨p', _, hGet, hRun⟩ := run_bind_eq_ok_iff.mp hRun
  obtain ⟨rfl, rfl⟩ := run_get_eq_ok_iff.mp hGet
  obtain ⟨_, _, hSkip, hRun⟩ := run_bind_eq_ok_iff.mp hRun
  obtain rfl := run_skip_eq_ok_iff.mp hSkip
  obtain ⟨-, rfl⟩ := run_pure_eq_ok_iff.mp hRun
  exact onward_takeWhile hI hEscape hDollar n hLeft

omit hI in
/-- A text that is cut at a sign goes on behind that sign. -/
theorem suffix_of_cutAtSign? {c : Char} {s before after : List Char}
    (hCut : cutAtSign? c s = some (before, after)) : c :: after <:+ s := by
  fun_induction cutAtSign? c s generalizing before with
  | case1 => cases hCut
  | case2 d rest ih =>
      obtain ⟨⟨before, after⟩, hRest, hSame⟩ := Option.map_eq_some_iff.mp hCut
      cases hSame
      exact (ih hRest).trans ((List.suffix_cons d rest).trans (List.suffix_cons _ _))
  | case3 d rest _ hHere =>
      cases hCut
      rw [eq_of_beq hHere]
  | case4 d rest _ _ ih =>
      obtain ⟨⟨before, after⟩, hRest, hSame⟩ := Option.map_eq_some_iff.mp hCut
      cases hSame
      exact (ih hRest).trans (List.suffix_cons d rest)

theorem keeps_takePast? {c : Char} (hEscape : c ≠ '\\') (hDollar : c ≠ '$') :
    Keeps I (takePast? c) := by
  intro p found q hLeft hRun
  obtain ⟨p', _, hGet, hRun⟩ := run_bind_eq_ok_iff.mp hRun
  obtain ⟨rfl, rfl⟩ := run_get_eq_ok_iff.mp hGet
  split at hRun
  · rename_i before after hCut
    obtain ⟨_, _, hMove, hRun⟩ := run_bind_eq_ok_iff.mp hRun
    obtain rfl := run_modify_eq_ok_iff.mp hMove
    obtain ⟨-, rfl⟩ := run_pure_eq_ok_iff.mp hRun
    exact hI hEscape hDollar (suffix_of_cutAtSign? hCut) hLeft
  · obtain ⟨-, rfl⟩ := run_pure_eq_ok_iff.mp hRun
    exact hLeft

theorem keeps_takeUntil {c : Char} (hEscape : c ≠ '\\') (hDollar : c ≠ '$') :
    Keeps I (takeUntil c) := by
  refine keeps_bind (keeps_takePast? hI hEscape hDollar) fun found => ?_
  split
  · split
    · exact keeps_fail
    · exact keeps_pure _
  · exact keeps_fail

/-! Escapes, counts and the openings of groups. -/

theorem keeps_hexCode (n : Nat) : Keeps I (hexCode n) := by
  exact keeps_bind (keeps_takeUpTo hI n (by decide) (by decide)) fun ds =>
    keeps_unless (keeps_unless (keeps_pure _))

theorem keeps_namedCode : Keeps I namedCode := by
  refine keeps_bind (keeps_accept hI (by decide) (by decide)) fun brace => keeps_unless ?_
  refine keeps_bind (keeps_takeUntil hI (by decide) (by decide)) fun name => ?_
  split
  · exact keeps_pure _
  · exact keeps_fail

/-- The characters of a code are taken one by one, whatever letter it begins with. -/
theorem keeps_codeEscape? {c : Char} {code : ReadM Nat} (hCode : codeEscape? c = some code) :
    Keeps I code := by
  rw [codeEscape?.eq_def] at hCode
  split at hCode <;> cases hCode
  · exact keeps_namedCode hI
  all_goals exact keeps_hexCode hI _

omit hI in
/-- Looking behind a group takes nothing from the source. -/
theorem keeps_checkBehind (number : Nat) : Keeps I (checkBehind number) := by
  refine keeps_bind keeps_get fun p => ?_
  split
  · split
    · exact keeps_fail
    · exact keeps_pure _
  · exact keeps_pure _

omit hI in
/-- Referring to a group takes nothing from the source. -/
theorem keeps_referTo (o : Options) (number : Nat) : Keeps I (referTo o number) := by
  exact keeps_bind keeps_get fun p =>
    keeps_unless (keeps_bind (keeps_checkBehind number) fun _ => keeps_pure _)

/-- An escape is read to its end and no further. -/
theorem keeps_escape (o : Options) (c : Char) : Keeps I (escape o c) := by
  unfold escape
  split
  · exact keeps_pure _
  split
  · exact keeps_pure _
  split
  · exact keeps_pure _
  split
  · rename_i hCode
    exact keeps_bind (keeps_codeEscape? hI hCode) fun _ => keeps_pure _
  split
  · exact keeps_bind (keeps_takeUpTo hI 2 (by decide) (by decide)) fun _ => keeps_pure _
  split
  · refine keeps_bind (keeps_takeUpTo hI 1 (by decide) (by decide)) fun second => ?_
    dsimp only
    split
    · refine keeps_bind (keeps_takeUpTo hI 1 (by decide) (by decide)) fun third => ?_
      split
      · exact keeps_unless (keeps_pure _)
      · exact keeps_referTo o _
    · exact keeps_referTo o _
  · exact keeps_unless (keeps_pure _)

/-- So is an escape within a set. -/
theorem keeps_setEscape (o : Options) (c : Char) : Keeps I (setEscape o c) := by
  unfold setEscape
  split
  · exact keeps_pure _
  split
  · exact keeps_pure _
  split
  · rename_i hCode
    exact keeps_bind (keeps_codeEscape? hI hCode) fun _ => keeps_pure _
  dsimp only
  split
  · exact keeps_bind (keeps_takeUpTo hI 2 (by decide) (by decide)) fun ds =>
      keeps_unless (keeps_pure _)
  · exact keeps_unless (keeps_pure _)

omit hI in
theorem keeps_count (ds : List Char) : Keeps I (count ds) := by
  unfold count
  exact keeps_unless (keeps_unless (keeps_pure _))

/-- Braces that are no repetition are left as they were found. -/
theorem keeps_counts? : Keeps I counts? := by
  have hDigits (n : Nat) : Keeps I (takeUpTo n Char.isDigit) :=
    keeps_takeUpTo hI n (by decide) (by decide)
  intro p a r hLeft hRun
  obtain ⟨p', _, hGet, hRun⟩ := run_bind_eq_ok_iff.mp hRun
  obtain ⟨rfl, rfl⟩ := run_get_eq_ok_iff.mp hGet
  refine keeps_bind (hDigits _) (fun low => ?_) p a r hLeft hRun
  refine keeps_bind (keeps_accept hI (by decide) (by decide)) fun comma => ?_
  refine keeps_ite_bind (hDigits _) (keeps_pure _) fun high => ?_
  refine keeps_bind (keeps_accept hI (by decide) (by decide)) fun brace => ?_
  split
  · exact keeps_bind (keeps_modify fun _ _ => hLeft) fun _ => keeps_pure _
  refine keeps_bind (keeps_count low) fun least => ?_
  split
  · exact keeps_pure _
  · exact keeps_bind (keeps_count high) fun most => keeps_unless (keeps_pure _)

/-- Switches are read up to the sign that ends them. -/
theorem keeps_switches : Keeps I switches := by
  have hFlags (n : Nat) : Keeps I (takeUpTo n isFlag) :=
    keeps_takeUpTo hI n (by decide) (by decide)
  refine keeps_bind keeps_get fun _ => keeps_bind (hFlags _) fun on => ?_
  refine keeps_bind (keeps_accept hI (by decide) (by decide)) fun minus => ?_
  dsimp only
  have hClose (off : List Char) : Keeps I (do
      if !(← accept ':') || (minus && off.isEmpty) then fail
      if on.contains 'a' && on.contains 'u' then fail
      if off.contains 'a' || off.contains 'u' || on.any off.contains then fail
      return (⟨on, off⟩ : Switches)) :=
    keeps_bind (keeps_accept hI (by decide) (by decide)) fun _ =>
      keeps_unless (keeps_unless (keeps_unless (keeps_pure _)))
  split
  · exact keeps_bind keeps_get fun _ => keeps_bind (hFlags _) hClose
  · exact keeps_bind (keeps_pure _) hClose

omit hI in
theorem keeps_askedGroup (name : List Char) : Keeps I (askedGroup name) := by
  unfold askedGroup
  split
  · refine keeps_bind keeps_get fun p => ?_
    split
    · exact keeps_pure _
    · exact keeps_fail
  · split
    · exact keeps_unless (keeps_bind (keeps_modify fun _ h => h) fun _ => keeps_pure _)
    · exact keeps_fail

/-- The condition of a group is read up to its parenthesis. -/
theorem keeps_condition : Keeps I condition := by
  refine keeps_bind (keeps_takeUntil hI (by decide) (by decide)) fun name => ?_
  refine keeps_bind (keeps_askedGroup name) fun number => ?_
  exact keeps_bind (keeps_checkBehind number) fun _ => keeps_pure _

omit hI in
/-- A comment of the verbose notation may take the rest of the source with it. -/
theorem keeps_skipLine (s : List Char) : Keeps (· <:+ s) skipLine := by
  refine keeps_bind (keeps_takePast? (onward_suffix s) (by decide) (by decide)) fun found => ?_
  split
  · exact keeps_modify fun _ _ => List.nil_suffix
  · exact keeps_pure _

theorem keeps_skip_one {c : Char} {f : Unit → ReadM α} {p q : Progress} {a : α}
    (hStart : Starts p.rest (some [c])) (hLeft : I p.rest)
    (hRun : (skip 1 >>= f).run p = .ok (a, q)) (hEscape : c ≠ '\\') (hDollar : c ≠ '$')
    (hf : Keeps I (f ())) : I q.rest := by
  obtain ⟨_, _, hSkip, hRun⟩ := run_bind_eq_ok_iff.mp hRun
  obtain rfl := run_skip_eq_ok_iff.mp hSkip
  refine hf _ a q ?_ hRun
  generalize p.rest = rest at hStart hLeft
  cases hStart
  exact hI hEscape hDollar (List.suffix_refl _) hLeft

/-- The opening of a group is read with its name, switches or condition. -/
theorem keeps_opening (o : Options) : Keeps I (opening o) := by
  unfold opening
  refine keeps_bind (keeps_accept hI (by decide) (by decide)) fun found => ?_
  split
  · exact keeps_pure _
  intro p a q hLeft hRun
  obtain ⟨sign, p', hPeek, hRun⟩ := run_bind_eq_ok_iff.mp hRun
  obtain ⟨rfl, hStart⟩ := starts_of_peek hPeek
  split at hRun
  · split at hRun
    · refine keeps_skip_one hI hStart hLeft hRun (by decide) (by decide) ?_
      refine keeps_bind (keeps_accept hI (by decide) (by decide)) fun named => ?_
      dsimp only
      split
      · refine keeps_bind (keeps_takeUntil hI (by decide) (by decide)) fun name => ?_
        split
        · exact keeps_pure _
        · exact keeps_throw_bind _ _
      refine keeps_bind (keeps_accept hI (by decide) (by decide)) fun reference => ?_
      split
      · refine keeps_bind (keeps_takeUntil hI (by decide) (by decide)) fun name => ?_
        refine keeps_bind keeps_get fun known => ?_
        split
        · exact keeps_bind (keeps_referTo o _) fun _ => keeps_pure _
        · exact keeps_throw_bind _ _
      · exact keeps_fail
    · exact keeps_skip_one hI hStart hLeft hRun (by decide) (by decide) (keeps_pure _)
    · exact keeps_skip_one hI hStart hLeft hRun (by decide) (by decide) (keeps_pure _)
    · exact keeps_skip_one hI hStart hLeft hRun (by decide) (by decide) (keeps_pure _)
    · exact keeps_skip_one hI hStart hLeft hRun (by decide) (by decide) (keeps_pure _)
    · refine keeps_skip_one hI hStart hLeft hRun (by decide) (by decide) ?_
      refine keeps_bind (keeps_accept hI (by decide) (by decide)) fun equals => ?_
      split
      · exact keeps_pure _
      refine keeps_bind (keeps_accept hI (by decide) (by decide)) fun mark => ?_
      split
      · exact keeps_pure _
      · exact keeps_fail
    · exact keeps_skip_one hI hStart hLeft hRun (by decide) (by decide) (keeps_condition hI)
    · refine keeps_skip_one hI hStart hLeft hRun (by decide) (by decide) ?_
      refine keeps_bind (keeps_takePast? hI (by decide) (by decide)) fun comment => ?_
      exact keeps_unless (keeps_pure _)
    · exact keeps_bind (keeps_switches hI) (fun _ => keeps_pure _) p a q hLeft hRun
  · simp at hRun

omit hI in
theorem keeps_openGroup (name : Option String) : Keeps I (openGroup name) := by
  intro p a q hLeft hRun
  obtain ⟨p', _, hGet, hRun⟩ := run_bind_eq_ok_iff.mp hRun
  obtain ⟨rfl, rfl⟩ := run_get_eq_ok_iff.mp hGet
  dsimp only at hRun
  split at hRun
  · refine keeps_unless (keeps_bind (keeps_set ?_) fun _ => keeps_pure _) p a q hLeft hRun
    exact hLeft
  · refine keeps_bind (keeps_set ?_) (fun _ => keeps_pure _) p a q hLeft hRun
    exact hLeft

/-! Character sets. -/

theorem keeps_setSign (o : Options) (sign : List Char) : Keeps I (setSign o sign) := by
  unfold setSign
  split
  · exact keeps_setEscape hI o _
  · exact keeps_pure _
  · exact keeps_fail

omit hI in
/-- What is taken is the sign at the front, and the rest is behind it. -/
theorem took {p q : Progress} {sign : Option (List Char)} (hRun : take?.run p = .ok (sign, q)) :
    p.rest = sign.getD [] ++ q.rest := by
  obtain ⟨_, _, hPeek, hRun⟩ := run_bind_eq_ok_iff.mp hRun
  obtain ⟨rfl, hStart⟩ := starts_of_peek hPeek
  obtain ⟨_, _, hSkip, hRun⟩ := run_bind_eq_ok_iff.mp hRun
  obtain rfl := run_skip_eq_ok_iff.mp hSkip
  obtain ⟨rfl, rfl⟩ := run_pure_eq_ok_iff.mp hRun
  generalize p.rest = rest at hStart
  cases hStart <;> rfl

omit hI in
/-- The items of a set end in a bracket. -/
theorem bracket_of_setItems {o : Options} {fuel : Nat} {items found : List SetItem}
    {p q : Progress} (hRun : (setItems o fuel items).run p = .ok (found, q)) :
    ']' :: q.rest <:+ p.rest := by
  induction fuel generalizing items p with
  | zero => simp [setItems] at hRun
  | succ fuel ih =>
      have hSign (sign : List Char) := keeps_setSign (onward_suffix p.rest) o sign
      have hDash := keeps_accept (onward_suffix p.rest) (c := '-') (by decide) (by decide)
      rw [setItems] at hRun
      obtain ⟨sign, p₁, hTake, hRun⟩ := run_bind_eq_ok_iff.mp hRun
      have hFirst := took hTake
      split at hRun
      swap
      · simp at hRun
      rename_i sign
      split at hRun
      · rename_i hClosing
        obtain ⟨-, rfl⟩ := run_pure_eq_ok_iff.mp hRun
        obtain rfl : sign = [']'] := eq_of_beq (Bool.and_eq_true_iff.mp hClosing).1
        exact hFirst ▸ List.suffix_refl _
      obtain ⟨low, p₂, hLow, hRun⟩ := run_bind_eq_ok_iff.mp hRun
      obtain ⟨dash, p₃, hAccept, hRun⟩ := run_bind_eq_ok_iff.mp hRun
      have hEnd : p₃.rest <:+ p.rest :=
        hDash p₂ dash p₃ (hSign sign p₁ low p₂ (hFirst ▸ List.suffix_append _ _) hLow) hAccept
      split at hRun
      swap
      · exact (ih hRun).trans hEnd
      obtain ⟨sign, p₄, hTake, hRun⟩ := run_bind_eq_ok_iff.mp hRun
      have hSecond := took hTake
      split at hRun
      swap
      · simp at hRun
      rename_i sign
      split at hRun
      · rename_i hClosing
        obtain ⟨-, rfl⟩ := run_pure_eq_ok_iff.mp hRun
        obtain rfl : sign = [']'] := eq_of_beq hClosing
        exact List.IsSuffix.trans (hSecond ▸ List.suffix_refl _) hEnd
      obtain ⟨high, p₅, hHigh, hRun⟩ := run_bind_eq_ok_iff.mp hRun
      have hEnd : p₅.rest <:+ p.rest :=
        hSign sign p₄ high p₅ ((hSecond ▸ List.suffix_append _ _).trans hEnd) hHigh
      split at hRun
      · split at hRun
        · simp at hRun
        · exact (ih hRun).trans hEnd
      · simp at hRun

/-- A set is read up to its bracket, the first of which may stand for itself. -/
theorem keeps_charSet (o : Options) : Keeps I (charSet o) := by
  intro p a r hLeft hRun
  obtain ⟨inverted, q, hAccept, hRun⟩ := run_bind_eq_ok_iff.mp hRun
  obtain ⟨_, _, hGet, hRun⟩ := run_bind_eq_ok_iff.mp hRun
  obtain ⟨rfl, rfl⟩ := run_get_eq_ok_iff.mp hGet
  obtain ⟨items, _, hItems, hRun⟩ := run_bind_eq_ok_iff.mp hRun
  obtain ⟨-, rfl⟩ := run_pure_eq_ok_iff.mp hRun
  exact hI (by decide) (by decide) (bracket_of_setItems hItems)
    (keeps_accept hI (by decide) (by decide) p inverted _ hLeft hAccept)

end

/-! Groups, and what they hold. The inside of a group is read to an end of the source; behind the
bracket that closes the group, what was true of the source before is true again. -/

/-- The last that is read of a text is a closing bracket. -/
def Closes (s : List Char) (x : ReadM α) : Prop :=
  ∀ p a q, p.rest <:+ s → x.run p = .ok (a, q) → ')' :: q.rest <:+ s

section

variable {s : List Char}

/-- A closing rest follows if the second of two readers closes. -/
theorem closes_bind {x : ReadM α} {f : α → ReadM β} (hx : Keeps (· <:+ s) x)
    (hf : ∀ a, Closes s (f a)) : Closes s (x >>= f) := by
  intro p b r hEnd hRun
  obtain ⟨a, q, hFirst, hSecond⟩ := run_bind_eq_ok_iff.mp hRun
  exact hf a q b r (hx p a q hEnd hFirst) hSecond

/-- Behind the bracket nothing else is read. -/
theorem closes_accept {f : Unit → ReadM α} (hf : ∀ t, Keeps (· = t) (f ())) :
    Closes s (accept ')' >>= fun found => if !found then fail >>= f else f ()) := by
  intro p a q hEnd hRun
  obtain ⟨found, p', hAccept, hRun⟩ := run_bind_eq_ok_iff.mp hRun
  rcases accepted (by decide) hAccept with ⟨rfl, hRest⟩ | ⟨rfl, -⟩
  · have hLeft : q.rest = p'.rest := hf _ p' a q rfl hRun
    rwa [hLeft, ← hRest]
  · obtain ⟨_, _, hFail, -⟩ := run_bind_eq_ok_iff.mp hRun
    simp at hFail

end

/-- How the parts of the reader read with some fuel. -/
structure ReadsOn (fuel : Nat) : Prop where
  alternatives (s : List Char) (o : Options) : Keeps (· <:+ s) (alternatives o fuel)
  sequence (s : List Char) (o : Options) (parts : List Node) (standing : Standing) :
    Keeps (· <:+ s) (sequence o fuel parts standing)
  repetition (s : List Char) (o : Options) (parts : List Node) (standing : Standing) (least : Nat)
    (most : Option Nat) : Keeps (· <:+ s) (repetition o fuel parts standing least most)
  group {I : List Char → Prop} (hI : Onward I) (o : Options) (opened : Opening) :
    Keeps I (group o fuel opened)

section

variable {fuel : Nat} (h : ReadsOn fuel)
include h

/-- Alternatives leave a rest of the source, given that sequences do. -/
theorem ReadsOn.alternatives_succ (s : List Char) (o : Options) :
    Keeps (· <:+ s) (Regex.alternatives o (fuel + 1)) := by
  rw [Regex.alternatives]
  refine keeps_bind (h.sequence s o _ _) fun first => ?_
  refine keeps_bind (keeps_accept (onward_suffix s) (by decide) (by decide)) fun bar => ?_
  split
  · exact keeps_bind (h.alternatives s o) fun _ => keeps_pure _
  · exact keeps_pure _

/-- A repetition leaves a rest of the source, given that sequences do. -/
theorem ReadsOn.repetition_succ (s : List Char) (o : Options) (parts : List Node)
    (standing : Standing) (least : Nat) (most : Option Nat) :
    Keeps (· <:+ s) (Regex.repetition o (fuel + 1) parts standing least most) := by
  rw [Regex.repetition.eq_def]
  dsimp only
  split
  · refine keeps_bind (keeps_accept (onward_suffix s) (by decide) (by decide)) fun mark => ?_
    split
    · exact keeps_bind (keeps_pure _) fun _ => h.sequence s o _ _
    refine keeps_bind (keeps_accept (onward_suffix s) (by decide) (by decide)) fun plus => ?_
    split
    · exact keeps_bind (keeps_pure _) fun _ => h.sequence s o _ _
    · exact keeps_bind (keeps_pure _) fun _ => h.sequence s o _ _
  · exact keeps_fail

/-- A group keeps every property that its alternatives do. -/
theorem ReadsOn.group_succ {I : List Char → Prop} (hI : Onward I) (o : Options)
    (opened : Opening) : Keeps I (Regex.group o (fuel + 1) opened) := by
  have hBehindBracket {x : ReadM Node} (hx : ∀ s, Closes s x) : Keeps I x :=
    fun p a q hLeft hRun =>
      hI (by decide) (by decide) (hx p.rest p a q (List.suffix_refl _) hRun) hLeft
  rw [Regex.group.eq_def]
  cases opened with
  | capture name =>
    refine hBehindBracket fun s => closes_bind (keeps_openGroup name) fun number => ?_
    refine closes_bind (h.alternatives s o) fun body => closes_accept fun t => ?_
    exact keeps_bind (keeps_modify fun _ hEnd => hEnd) fun _ => keeps_pure _
  | plain inner =>
    refine hBehindBracket fun s => closes_bind (h.alternatives s inner) fun body => ?_
    exact closes_accept fun t => keeps_pure _
  | atomic =>
    refine hBehindBracket fun s => closes_bind (h.alternatives s o) fun body => ?_
    exact closes_accept fun t => keeps_pure _
  | ahead negative =>
    refine hBehindBracket fun s => closes_bind (h.alternatives s o) fun body => ?_
    exact closes_accept fun t => keeps_pure _
  | behind negative =>
    refine hBehindBracket fun s => closes_bind keeps_get fun outer => ?_
    refine closes_bind (keeps_modify fun _ hEnd => hEnd) fun _ => ?_
    refine closes_bind (h.alternatives s o) fun body => ?_
    refine closes_bind (keeps_modify fun _ hEnd => hEnd) fun _ => closes_accept fun t => ?_
    refine keeps_bind keeps_get fun known => ?_
    dsimp only
    split
    · exact keeps_bind (keeps_modify fun _ hEnd => hEnd) fun _ => keeps_pure _
    · exact keeps_pure _
  | condition number =>
    refine hBehindBracket fun s => closes_bind (h.sequence s o _ _) fun yes => ?_
    refine closes_bind (keeps_accept (onward_suffix s) (by decide) (by decide)) fun bar => ?_
    dsimp only
    split
    · refine closes_bind (h.sequence s o _ _) fun no => closes_accept fun t => keeps_pure _
    · refine closes_bind (keeps_pure _) fun no => closes_accept fun t => keeps_pure _
  | comment => exact keeps_pure _
  | whole node => exact keeps_pure _

end

/-! What one sign does inside a sequence. -/

/-- Reading goes on from `t` up to `u`: it leaves an end, and but for the comments of the verbose
notation it leaves what `t` says of the text onwards. -/
def Leads (o : Options) (t u : List Char) : Prop :=
  u <:+ t ∧ (o.verbose = false → ∀ I, Onward I → I t → I u)

theorem leads_refl (o : Options) (t : List Char) : Leads o t t :=
  ⟨List.suffix_refl t, fun _ _ _ hLeft => hLeft⟩

/-- A reader that keeps all properties leads from its source to the rest. -/
theorem leads_of_keeps {o : Options} {x : ReadM α} (hx : ∀ I, Onward I → Keeps I x)
    {p q : Progress} {a : α} (hRun : x.run p = .ok (a, q)) : Leads o p.rest q.rest :=
  ⟨hx _ (onward_suffix p.rest) p a q (List.suffix_refl _) hRun,
    fun _ I hI hLeft => hx I hI p a q hLeft hRun⟩

theorem leads_trans {o : Options} {t u v : List Char} (hFirst : Leads o t u)
    (hSecond : Leads o u v) : Leads o t v :=
  ⟨hSecond.1.trans hFirst.1,
    fun hBrief I hI hLeft => hSecond.2 hBrief I hI (hFirst.2 hBrief I hI hLeft)⟩

def anchorSign? (o : Options) : List Char → Option Anchor
  | ['^'] => some (if o.manyLines then .lineStart else .textStart)
  | ['$'] => some (if o.manyLines then .lineEnd else .lastLineEnd)
  | _ => none

/-- Ordinary characters are no anchors. -/
theorem anchorSign?_eq_none {o : Options} {c : Char} (hCaret : c ≠ '^') (hDollar : c ≠ '$') :
    anchorSign? o [c] = none := by
  unfold anchorSign?
  split <;> simp_all

/-- How the reader goes on with a sequence, after a sign. -/
inductive Next (o : Options) (fuel : Nat) (parts : List Node) (standing : Standing)
    (sign : List Char) : ReadM Node → Prop
  | anchor {a : Anchor} (h : anchorSign? o sign = some a) :
      Next o fuel parts standing sign (sequence o fuel (.anchor a :: parts) .anchored)
  | part (h : anchorSign? o sign = none) (node : Node) (after : Standing) :
      Next o fuel parts standing sign (sequence o fuel (node :: parts) after)
  | nothing (h : anchorSign? o sign = none) :
      Next o fuel parts standing sign (sequence o fuel parts standing)
  | repeated (h : anchorSign? o sign = none) (least : Nat) (most : Option Nat) :
      Next o fuel parts standing sign (repetition o fuel parts standing least most)

/-- A sequence stops here: at the end, at a bar or at a closing bracket. -/
def Stops (s : List Char) : Prop :=
  Starts s none ∨ Starts s (some ['|']) ∨ Starts s (some [')'])

/-- A sequence either stops and is the parts that were read, or takes a sign and goes on from there.
-/
theorem sequence_step {o : Options} {fuel : Nat} {parts : List Node} {standing : Standing}
    {p q : Progress} {n : Node} (h : ReadsOn fuel)
    (hRun : (sequence o (fuel + 1) parts standing).run p = .ok (n, q)) :
    (p = q ∧ n = Node.ofList parts.reverse ∧ Stops p.rest) ∨
      ∃ sign p' x, Starts p.rest (some sign) ∧ Next o fuel parts standing sign x ∧
        x.run p' = .ok (n, q) ∧ Leads o (p.rest.drop sign.length) p'.rest := by
  rw [Regex.sequence] at hRun
  obtain ⟨sign, p', hPeek, hRun⟩ := run_bind_eq_ok_iff.mp hRun
  obtain ⟨rfl, hStart⟩ := starts_of_peek hPeek
  split at hRun
  case h_1 =>
    obtain ⟨rfl, rfl⟩ := run_pure_eq_ok_iff.mp hRun
    exact .inl ⟨rfl, rfl, .inl hStart⟩
  case h_2 =>
    obtain ⟨rfl, rfl⟩ := run_pure_eq_ok_iff.mp hRun
    exact .inl ⟨rfl, rfl, .inr (.inl hStart)⟩
  case h_3 =>
    obtain ⟨rfl, rfl⟩ := run_pure_eq_ok_iff.mp hRun
    exact .inl ⟨rfl, rfl, .inr (.inr hStart)⟩
  case h_4 b c =>
    obtain rfl := hStart.eq_backslash
    obtain ⟨_, _, hSkip, hRun⟩ := run_bind_eq_ok_iff.mp hRun
    obtain rfl := run_skip_eq_ok_iff.mp hSkip
    obtain ⟨node, p', hEscape, hRun⟩ := run_bind_eq_ok_iff.mp hRun
    exact .inr ⟨_, _, _, hStart, .part rfl _ _, hRun,
      leads_of_keeps (fun I hI => keeps_escape hI o c) hEscape⟩
  case h_5 c hBar hClosing =>
    obtain ⟨_, _, hSkip, hRun⟩ := run_bind_eq_ok_iff.mp hRun
    obtain rfl := run_skip_eq_ok_iff.mp hSkip
    refine .inr ⟨[c], ?_⟩
    have hPlain {d : Char} (hc : (c == d) = true) (hd : anchorSign? o [d] = none) :
        anchorSign? o [c] = none := eq_of_beq hc ▸ hd
    rcases run_ite_eq_ok_iff.mp hRun with ⟨hSpacing, hRun⟩ | ⟨-, hRun⟩
    · rw [Bool.and_eq_true] at hSpacing
      refine ⟨_, _, hStart, .nothing (anchorSign?_eq_none ?_ ?_), hRun, leads_refl o _⟩
      · rintro rfl
        exact absurd hSpacing.2 (by decide)
      · rintro rfl
        exact absurd hSpacing.2 (by decide)
    rcases run_ite_eq_ok_iff.mp hRun with ⟨hComment, hRun⟩ | ⟨-, hRun⟩
    · obtain ⟨_, p', hSkip, hRun⟩ := run_bind_eq_ok_iff.mp hRun
      have hEnd := keeps_skipLine (p.rest.drop 1) _ _ _ (List.suffix_refl _) hSkip
      rw [Bool.and_eq_true] at hComment
      refine ⟨_, _, hStart, .nothing (hPlain hComment.2 rfl), hRun, hEnd, ?_⟩
      intro hBrief
      simp [hBrief] at hComment
    rcases run_ite_eq_ok_iff.mp hRun with ⟨hc, hRun⟩ | ⟨-, hRun⟩
    · obtain ⟨set, p', hSet, hRun⟩ := run_bind_eq_ok_iff.mp hRun
      exact ⟨_, _, hStart, .part (hPlain hc rfl) _ _, hRun,
        leads_of_keeps (fun I hI => keeps_charSet hI o) hSet⟩
    rcases run_ite_eq_ok_iff.mp hRun with ⟨hc, hRun⟩ | ⟨-, hRun⟩
    · exact ⟨_, _, hStart, .part (hPlain hc rfl) _ _, hRun, leads_refl o _⟩
    rcases run_ite_eq_ok_iff.mp hRun with ⟨hc, hRun⟩ | ⟨hCaret, hRun⟩
    · obtain rfl := eq_of_beq hc
      exact ⟨_, _, hStart, .anchor rfl, hRun, leads_refl o _⟩
    rcases run_ite_eq_ok_iff.mp hRun with ⟨hc, hRun⟩ | ⟨hDollar, hRun⟩
    · obtain rfl := eq_of_beq hc
      exact ⟨_, _, hStart, .anchor rfl, hRun, leads_refl o _⟩
    rcases run_ite_eq_ok_iff.mp hRun with ⟨hc, hRun⟩ | ⟨-, hRun⟩
    · exact ⟨_, _, hStart, .repeated (hPlain hc rfl) _ _, hRun, leads_refl o _⟩
    rcases run_ite_eq_ok_iff.mp hRun with ⟨hc, hRun⟩ | ⟨-, hRun⟩
    · exact ⟨_, _, hStart, .repeated (hPlain hc rfl) _ _, hRun, leads_refl o _⟩
    rcases run_ite_eq_ok_iff.mp hRun with ⟨hc, hRun⟩ | ⟨-, hRun⟩
    · exact ⟨_, _, hStart, .repeated (hPlain hc rfl) _ _, hRun, leads_refl o _⟩
    rcases run_ite_eq_ok_iff.mp hRun with ⟨hc, hRun⟩ | ⟨-, hRun⟩
    · obtain ⟨counts, p', hCounts, hRun⟩ := run_bind_eq_ok_iff.mp hRun
      have hLeads := leads_of_keeps (o := o) (fun I hI => keeps_counts? hI) hCounts
      cases counts with
      | none => exact ⟨_, _, hStart, .part (hPlain hc rfl) _ _, hRun, hLeads⟩
      | some counts => exact ⟨_, _, hStart, .repeated (hPlain hc rfl) _ _, hRun, hLeads⟩
    rcases run_ite_eq_ok_iff.mp hRun with ⟨hc, hRun⟩ | ⟨-, hRun⟩
    · obtain ⟨opened, p', hOpening, hRun⟩ := run_bind_eq_ok_iff.mp hRun
      have hLeads := leads_of_keeps (o := o) (fun I hI => keeps_opening hI o) hOpening
      split at hRun
      · exact ⟨_, _, hStart, .nothing (hPlain hc rfl), hRun, hLeads⟩
      · exact ⟨_, _, hStart, .part (hPlain hc rfl) _ _, hRun, hLeads⟩
      · obtain ⟨inside, p'', hInside, hRun⟩ := run_bind_eq_ok_iff.mp hRun
        have hInside := leads_of_keeps (o := o) (fun I hI => h.group hI o opened) hInside
        exact ⟨_, _, hStart, .part (hPlain hc rfl) _ _, hRun, leads_trans hLeads hInside⟩
    · have hNone := anchorSign?_eq_none (o := o) (by simpa using hCaret) (by simpa using hDollar)
      exact ⟨_, _, hStart, .part hNone _ _, hRun, leads_refl o _⟩
  case h_6 => simp at hRun

/-- A sequence leaves a rest of the source, step by step. -/
theorem ReadsOn.sequence_succ {fuel : Nat} (h : ReadsOn fuel) (s : List Char) (o : Options)
    (parts : List Node) (standing : Standing) :
    Keeps (· <:+ s) (Regex.sequence o (fuel + 1) parts standing) := by
  intro p n q hEnd hRun
  rcases sequence_step h hRun with ⟨rfl, -, -⟩ | ⟨sign, p', x, -, hNext, hRun, hLeads, -⟩
  · exact hEnd
  have hEnd' : p'.rest <:+ s := hLeads.trans ((List.drop_suffix _ _).trans hEnd)
  cases hNext with
  | anchor _ => exact h.sequence s o _ _ p' n q hEnd' hRun
  | part _ node after => exact h.sequence s o _ _ p' n q hEnd' hRun
  | nothing _ => exact h.sequence s o _ _ p' n q hEnd' hRun
  | repeated _ least most => exact h.repetition s o _ _ _ _ p' n q hEnd' hRun

/-- By induction on the fuel, all readers that call one another leave rests of their source. -/
theorem reads_on (fuel : Nat) : ReadsOn fuel := by
  induction fuel with
  | zero =>
      exact {
        alternatives s o := by rw [alternatives]; exact keeps_fail
        sequence s o parts standing := by rw [sequence]; exact keeps_fail
        repetition s o parts standing least most := by rw [repetition]; exact keeps_fail
        group hI o opened := by rw [group]; exact keeps_fail }
  | succ fuel ih =>
      exact ⟨ih.alternatives_succ, ih.sequence_succ, ih.repetition_succ, ih.group_succ⟩

end ScenarioRunner.Regex
