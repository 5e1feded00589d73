import ScenarioRunner.World

/-! Running computations: what they give, and the world that they leave behind. The equations say
what each primitive does, so that no later proof has to look into the monads. -/
namespace ScenarioRunner

namespace Outside

variable {α β : Type} (s : Surroundings) (w : World)

/-- What a computation gives in its surroundings, and the world that it leaves behind. -/
def runIn (x : Outside α) : α × World := x s w

@[simp] theorem runIn_pure (a : α) : runIn s w (pure a) = (a, w) := rfl

@[simp] theorem runIn_bind (x : Outside α) (f : α → Outside β) :
    runIn s w (x >>= f) = runIn s (runIn s w x).2 (f (runIn s w x).1) := rfl

@[simp] theorem runIn_map (f : α → β) (x : Outside α) :
    runIn s w (f <$> x) = (f (runIn s w x).1, (runIn s w x).2) := rfl

@[simp] theorem runIn_get : runIn s w get = (w, w) := rfl

@[simp] theorem runIn_now : runIn s w now = (w.clock, w) := rfl

@[simp] theorem runIn_freshId : runIn s w freshId = (w.ids + 1, { w with ids := w.ids + 1 }) := rfl

theorem runIn_changeFiles (change : FileTree → Except FileTrouble FileTree) :
    runIn s w (changeFiles change) =
      match change w.files with
      | .ok files => (.ok (), { w with files })
      | .error trouble => (.error trouble, w) := by
  show (match change w.files with
    | .ok files => (do set { w with files }; return .ok () : Outside (Except FileTrouble Unit))
    | .error trouble => return .error trouble) s w = _
  cases change w.files <;> rfl

end Outside

namespace Attempt

variable {α β : Type} (s : Surroundings) (w : World)

/-- What comes of a computation that may fail, and the world that it leaves behind. -/
def runIn (x : Attempt α) : Except Fault α × World := Outside.runIn s w x.run

@[simp] theorem runIn_pure (a : α) : runIn s w (pure a) = (.ok a, w) := rfl

@[simp] theorem runIn_throw (fault : Fault) :
    runIn s w (throw fault : Attempt α) = (.error fault, w) := rfl

/-- A computation goes on with the value that came of its first part, and stops at a fault. -/
theorem runIn_bind (x : Attempt α) (f : α → Attempt β) :
    runIn s w (x >>= f) =
      match runIn s w x with
      | (.ok a, w) => runIn s w (f a)
      | (.error fault, w) => (.error fault, w) := by
  show Outside.runIn s w (x >>= f).run = _
  rw [ExceptT.run_bind, Outside.runIn_bind, runIn]
  rcases Outside.runIn s w x.run with ⟨_ | _, _⟩ <;> rfl

/-- What is made of the value that comes of a computation changes neither its faults nor what it
leaves behind. -/
theorem runIn_bind_return (x : Attempt α) (f : α → β) :
    runIn s w (do return f (← x)) = ((runIn s w x).1.map f, (runIn s w x).2) := by
  rw [runIn_bind]
  rcases runIn s w x with ⟨fault | a, after⟩ <;> rfl

/-- A computation that succeeds has succeeded in its first part, and then in the rest. -/
theorem runIn_bind_eq_ok {s : Surroundings} {w w' : World} {x : Attempt α} {f : α → Attempt β}
    {b : β} (hRun : runIn s w (x >>= f) = (.ok b, w')) :
    ∃ a w₁, runIn s w x = (.ok a, w₁) ∧ runIn s w₁ (f a) = (.ok b, w') := by
  rw [runIn_bind] at hRun
  rcases hFirst : runIn s w x with ⟨fault | a, w₁⟩
  · simp [hFirst] at hRun
  · exact ⟨a, w₁, rfl, by simpa [hFirst] using hRun⟩

@[simp] theorem runIn_ofExcept (e : Except Fault α) : runIn s w (ofExcept e) = (e, w) := rfl

/-- What a computation reports is no fault of the whole. -/
theorem runIn_reported (x : Outside α) :
    runIn s w (ExceptT.mk (Except.ok <$> x)) =
      (.ok (Outside.runIn s w x).1, (Outside.runIn s w x).2) := rfl

@[simp] theorem runIn_lift (x : Outside α) :
    runIn s w (liftM x : Attempt α) = (.ok (Outside.runIn s w x).1, (Outside.runIn s w x).2) := rfl

end Attempt

end ScenarioRunner
