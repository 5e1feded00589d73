import ScenarioRunner.Proofs.Calls
import ScenarioRunner.Proofs.Exchange

/-! Runs of computations that follow on one another. A run is told by the worlds before and after and
by its outcome; what was exchanged in its course can be read off the two worlds, since calls are only
ever added. -/
namespace ScenarioRunner

/-- What was done in a world, what came of it, and the world that it left behind. -/
structure Run (ι α : Type) where
  what : ι
  before : World
  outcome : Except Fault α
  after : World

namespace Run

variable {ι α : Type} {s : Surroundings} {x : ι → Attempt α} {r : Run ι α}

/-- This is what comes of the computation in its world. -/
def Is (s : Surroundings) (x : ι → Attempt α) (r : Run ι α) : Prop :=
  Attempt.runIn s r.before (x r.what) = (r.outcome, r.after)

def made (s : Surroundings) (r : Run ι α) : List Exchange :=
  s.exchanges r.before.calls (r.after.calls.drop r.before.calls.length)

theorem made_eq {calls : List Call} (hCalls : r.after.calls = r.before.calls ++ calls) :
    r.made s = s.exchanges r.before.calls calls := by
  rw [made, hCalls, List.drop_left]

/-- A run goes as its computation ends. -/
theorem Is.way {way : Except Fault α → List Exchange → World → Prop} (hRun : r.Is s x)
    (hEnds : Attempt.Ends s r.before (x r.what) way) : way r.outcome (r.made s) r.after := by
  obtain ⟨calls, hAdded, hWay⟩ := hEnds
  rw [hRun] at hAdded hWay
  rw [made_eq hAdded]
  exact hWay

end Run

/-- Runs follow on one another, from one world to another: each begins in the world that the one
before it left. -/
inductive Follow {ι α : Type} (s : Surroundings) (x : ι → Attempt α) :
    World → List (Run ι α) → World → Prop
  | none {w : World} : Follow s x w [] w
  | next {r : Run ι α} {rest : List (Run ι α)} {w : World} (hRun : r.Is s x)
      (hRest : Follow s x r.after rest w) : Follow s x r.before (r :: rest) w

namespace Follow

variable {ι α : Type} {s : Surroundings} {x : ι → Attempt α} {w w₁ w₂ : World}
  {runs more : List (Run ι α)}

theorem single {r : Run ι α} (hRun : r.Is s x) : Follow s x r.before [r] r.after :=
  .next hRun .none

theorem is_of_mem (hFollow : Follow s x w runs w₁) : ∀ r ∈ runs, r.Is s x := by
  induction hFollow with
  | none => simp
  | next hRun hRest ih => exact List.forall_mem_cons.mpr ⟨hRun, ih⟩

end Follow

namespace Attempt

variable {ι α : Type} {s : Surroundings} {w : World} {q : Call → Bool}

/-- All calls pass the test. -/
theorem ends_of_callsOnly {x : Attempt α} (hCalls : CallsOnly q x) :
    Ends s w x fun _ made _ => ∀ e ∈ made, q e.call = true := by
  obtain ⟨calls, hAdded, hPass⟩ := hCalls s w
  refine ⟨calls, hAdded, fun e he => hPass e.call ?_⟩
  rw [← s.map_call_exchanges w.calls calls]
  exact List.mem_map_of_mem he

/-- A computation ends as its run does. -/
theorem ends_run (x : ι → Attempt α) {i : ι} (hCalls : CallsOnly q (x i)) :
    Ends s w (x i) fun outcome made after =>
      ∃ r : Run ι α, r.Is s x ∧ r = ⟨i, w, outcome, after⟩ ∧ r.made s = made := by
  obtain ⟨calls, hAdded, -⟩ := hCalls s w
  exact ⟨calls, hAdded, ⟨i, w, (runIn s w (x i)).1, (runIn s w (x i)).2⟩, rfl, rfl,
    Run.made_eq hAdded⟩

end Attempt

end ScenarioRunner
