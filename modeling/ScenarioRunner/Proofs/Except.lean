/-! Computations that give a value or fail: what comes of one computation after another, and of one
computation for each element of a list. -/
namespace ScenarioRunner

variable {α β ε : Type}

/-- A sequence succeeds just when both of its parts do. -/
theorem bind_eq_ok_iff {x : Except ε α} {f : α → Except ε β} {b : β} :
    (x >>= f) = .ok b ↔ ∃ a, x = .ok a ∧ f a = .ok b := by
  cases x <;> simp [bind, Except.bind]

/-- A sequence fails just when its first part does or the rest does after it. -/
theorem bind_eq_error_iff {x : Except ε α} {f : α → Except ε β} {e : ε} :
    (x >>= f) = .error e ↔ x = .error e ∨ ∃ a, x = .ok a ∧ f a = .error e := by
  cases x <;> simp [bind, Except.bind]

@[simp] theorem pure_eq_ok_iff {a b : α} : (pure a : Except ε α) = .ok b ↔ a = b := by
  simp [pure, Except.pure]

@[simp] theorem pure_ne_error {a : α} {e : ε} : (pure a : Except ε α) ≠ .error e := by
  simp [pure, Except.pure]

/-- A value that is mapped is there just when it was there before. -/
theorem map_eq_ok_iff {x : Except ε α} {f : α → β} {b : β} :
    x.map f = .ok b ↔ ∃ a, x = .ok a ∧ f a = b := by
  cases x <;> simp [Except.map]

/-- Mapping a value leaves faults as they are. -/
theorem map_eq_error_iff {x : Except ε α} {f : α → β} {e : ε} :
    x.map f = .error e ↔ x = .error e := by
  cases x <;> simp [Except.map]

theorem toOption_eq_some_iff {x : Except ε α} {a : α} : x.toOption = some a ↔ x = .ok a := by
  cases x <;> simp [Except.toOption]

theorem isSome_toOption_iff {x : Except ε α} : x.toOption.isSome = true ↔ ∃ a, x = .ok a := by
  rw [Option.isSome_iff_exists]
  exact exists_congr fun _ => toOption_eq_some_iff

/-- A computation for each element gives the list of what it gave for them one by one. -/
theorem map_eq_of_mapM_eq_ok {f : α → Except ε β} {l : List α} {ys : List β}
    (hRun : l.mapM f = .ok ys) : l.map f = ys.map .ok := by
  induction l generalizing ys with
  | nil =>
      obtain rfl : [] = ys := pure_eq_ok_iff.mp hRun
      rfl
  | cons a l ih =>
      rw [List.mapM_cons, bind_eq_ok_iff] at hRun
      obtain ⟨y, hHead, hRun⟩ := hRun
      obtain ⟨rest, hTail, hRun⟩ := bind_eq_ok_iff.mp hRun
      obtain rfl : y :: rest = ys := pure_eq_ok_iff.mp hRun
      simp [hHead, ih hTail]

/-- It fails as a whole as it does for one of the elements. -/
theorem exists_mem_of_mapM_eq_error {f : α → Except ε β} {l : List α} {e : ε}
    (hRun : l.mapM f = .error e) : ∃ a ∈ l, f a = .error e := by
  induction l with
  | nil => cases hRun
  | cons a l ih =>
      rw [List.mapM_cons, bind_eq_error_iff] at hRun
      rcases hRun with hHead | ⟨y, -, hRun⟩
      · exact ⟨a, List.mem_cons_self .., hHead⟩
      · rcases bind_eq_error_iff.mp hRun with hTail | ⟨rest, -, hEnd⟩
        · obtain ⟨b, hMem, hFault⟩ := ih hTail
          exact ⟨b, List.mem_cons_of_mem _ hMem, hFault⟩
        · cases hEnd

/-- It fails as a whole just when it fails for an element. -/
theorem mapM_eq_error_iff {f : α → Except ε β} {l : List α} :
    (∃ e, l.mapM f = .error e) ↔ ∃ a ∈ l, ∃ e, f a = .error e := by
  induction l with
  | nil => simp
  | cons a l ih =>
      cases hHead : f a with
      | error e => simp [hHead, bind_eq_error_iff]
      | ok y => simp [hHead, bind_eq_error_iff, ih, -bind_pure_comp]

end ScenarioRunner
