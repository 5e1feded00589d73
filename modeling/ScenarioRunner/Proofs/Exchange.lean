import ScenarioRunner.Proofs.World

/-! What is exchanged with outside parties. A run adds its calls to those made before, and each call
has an answer. How a run ends is said of its outcome, its exchanges and the world that it leaves;
the rules put this together from what is said of the parts of a computation. -/
namespace ScenarioRunner

structure Exchange where
  call : Call
  answer : Except Fault Json

def Exchange.ok (e : Exchange) : Bool := e.answer.isOk

namespace Surroundings

variable (s : Surroundings)

def exchanges (earlier : List Call) : List Call → List Exchange
  | [] => []
  | c :: rest => ⟨c, (s.respond earlier c).outcome⟩ :: exchanges (earlier ++ [c]) rest

/-- Later calls are answered with the earlier ones in view. -/
theorem exchanges_append (earlier calls more : List Call) :
    s.exchanges earlier (calls ++ more) =
      s.exchanges earlier calls ++ s.exchanges (earlier ++ calls) more := by
  induction calls generalizing earlier with
  | nil => simp [exchanges]
  | cons c calls ih => simp [exchanges, ih]

/-- There is one exchange for each call. -/
theorem map_call_exchanges (earlier calls : List Call) :
    (s.exchanges earlier calls).map (·.call) = calls := by
  induction calls generalizing earlier with
  | nil => rfl
  | cons c calls ih => rw [exchanges, List.map_cons, ih]

/-- The answer of an exchange is one that is given to its call. -/
theorem answer_of_mem_exchanges {earlier calls : List Call} {e : Exchange}
    (hMem : e ∈ s.exchanges earlier calls) :
    ∃ before, (s.respond before e.call).outcome = e.answer := by
  induction calls generalizing earlier with
  | nil => cases hMem
  | cons c calls ih =>
      rw [exchanges] at hMem
      rcases List.mem_cons.mp hMem with rfl | hMem
      · exact ⟨earlier, rfl⟩
      · exact ih hMem

end Surroundings

def World.called (s : Surroundings) (w : World) (c : Call) : World :=
  { w with calls := w.calls ++ [c], clock := w.clock + (s.respond w.calls c).elapsed }

namespace Attempt

variable {α β : Type}

/-- Run from a world, a computation ends in this way: said of its outcome, of its exchanges and of
the world that it leaves. -/
def Ends (s : Surroundings) (w : World) (x : Attempt α)
    (way : Except Fault α → List Exchange → World → Prop) : Prop :=
  ∃ calls, (runIn s w x).2.calls = w.calls ++ calls ∧
    way (runIn s w x).1 (s.exchanges w.calls calls) (runIn s w x).2

variable {s : Surroundings} {w : World} {x : Attempt α} {f : α → Attempt β}
  {first : Except Fault α → List Exchange → World → Prop}
  {way : Except Fault β → List Exchange → World → Prop}

/-- What a run ends with also has every property that follows from it. -/
theorem Ends.mono {second : Except Fault α → List Exchange → World → Prop}
    (hEnds : Ends s w x first)
    (h : ∀ outcome made after, first outcome made after → second outcome made after) :
    Ends s w x second := by
  obtain ⟨calls, hCalls, hFirst⟩ := hEnds
  exact ⟨calls, hCalls, h _ _ _ hFirst⟩

/-- The outcome and the world are those of the run. -/
theorem Ends.told (hEnds : Ends s w x first) : Ends s w x fun outcome made after =>
    first outcome made after ∧ runIn s w x = (outcome, after) := by
  obtain ⟨calls, hCalls, hFirst⟩ := hEnds
  exact ⟨calls, hCalls, hFirst, rfl⟩

/-- The exchanges of a run have the answers that are given. -/
theorem Ends.answered (hEnds : Ends s w x first) : Ends s w x fun outcome made after =>
    first outcome made after ∧
      ∀ e ∈ made, ∃ before, (s.respond before e.call).outcome = e.answer := by
  obtain ⟨calls, hCalls, hFirst⟩ := hEnds
  exact ⟨calls, hCalls, hFirst, fun e he => s.answer_of_mem_exchanges he⟩

theorem ends_pure {a : α} (h : first (.ok a) [] w) : Ends s w (pure a) first :=
  ⟨[], by simp, h⟩

theorem ends_throw {fault : Fault} (h : first (.error fault) [] w) :
    Ends s w (throw fault) first :=
  ⟨[], by simp, h⟩

theorem ends_ofExcept {e : Except Fault α} (h : first e [] w) : Ends s w (ofExcept e) first :=
  ⟨[], by simp, h⟩

/-- What comes after a value that is there. -/
theorem ends_go {e : Except Fault α} {a : α} (hOk : e = .ok a) (hRest : Ends s w (f a) way) :
    Ends s w (ofExcept e >>= f) way := by
  subst hOk
  exact hRest

/-- Nothing comes after a fault. -/
theorem ends_stop {e : Except Fault α} {fault : Fault} (hError : e = .error fault)
    (hWay : way (.error fault) [] w) : Ends s w (ofExcept e >>= f) way := by
  subst hError
  exact ends_throw hWay

/-- What calls nobody ends as it runs. -/
theorem ends_lift {y : Outside α} (hCalls : (Outside.runIn s w y).2.calls = w.calls)
    (h : first (.ok (Outside.runIn s w y).1) [] (Outside.runIn s w y).2) :
    Ends s w (liftM y : Attempt α) first :=
  ⟨[], by rw [runIn_lift, hCalls, List.append_nil], h⟩

/-- A computation ends as its second part does, with the exchanges of both, or with a fault of the
first. -/
theorem ends_bind (hFirst : Ends s w x first)
    (hRest : ∀ a made w₁, first (.ok a) made w₁ →
      Ends s w₁ (f a) fun outcome more after => way outcome (made ++ more) after)
    (hError : ∀ fault made w₁, first (.error fault) made w₁ → way (.error fault) made w₁) :
    Ends s w (x >>= f) way := by
  obtain ⟨calls, hCalls, hFirst⟩ := hFirst
  rw [Ends, runIn_bind]
  rcases hRun : runIn s w x with ⟨fault | a, w₁⟩
  · rw [hRun] at hFirst hCalls
    exact ⟨calls, hCalls, hError fault _ w₁ hFirst⟩
  · rw [hRun] at hFirst hCalls
    obtain ⟨later, hLater, hWay⟩ := hRest a _ w₁ hFirst
    refine ⟨calls ++ later, by rw [hLater, hCalls, List.append_assoc], ?_⟩
    rw [Surroundings.exchanges_append, ← hCalls]
    exact hWay

/-- A silent step makes no exchange, and the rest goes on from the world that it leaves. -/
theorem ends_lift_bind {y : Outside α} (hCalls : (Outside.runIn s w y).2.calls = w.calls)
    (hRest : Ends s (Outside.runIn s w y).2 (f (Outside.runIn s w y).1) way) :
    Ends s w ((liftM y : Attempt α) >>= f) way := by
  have hLift : Ends s w (liftM y : Attempt α) fun outcome made after =>
      outcome = .ok (Outside.runIn s w y).1 ∧ made = [] ∧ after = (Outside.runIn s w y).2 :=
    ends_lift hCalls ⟨rfl, rfl, rfl⟩
  refine ends_bind hLift ?_ ?_
  · rintro a made w₁ ⟨hOutcome, rfl, rfl⟩
    cases hOutcome
    exact hRest
  · rintro fault made w₁ ⟨hOutcome, -⟩
    cases hOutcome

/-- A computation that goes on with the outcome of its first part ends as it does from there. -/
theorem ends_outcome_bind {g : Except Fault α → Attempt β} (hFirst : Ends s w x first)
    (hRest : ∀ outcome made w₁, first outcome made w₁ →
      Ends s w₁ (g outcome) fun ended more after => way ended (made ++ more) after) :
    Ends s w (x.outcome >>= g) way := by
  obtain ⟨calls, hCalls, hFirst⟩ := hFirst
  have hOutcome : Ends s w x.outcome fun outcome made after =>
      ∃ told, outcome = .ok told ∧ first told made after := ⟨calls, hCalls, _, rfl, hFirst⟩
  refine ends_bind hOutcome ?_ ?_
  · rintro told made w₁ ⟨outcome, hTold, hFirst⟩
    cases hTold
    exact hRest told made w₁ hFirst
  · rintro fault made w₁ ⟨outcome, hTold, -⟩
    cases hTold

/-- A call is one exchange with the surroundings. -/
theorem ends_call (s : Surroundings) (w : World) (c : Call) :
    Ends s w (call c) fun outcome made after => outcome = (s.respond w.calls c).outcome ∧
      made = [⟨c, outcome⟩] ∧ after = w.called s c :=
  ⟨[c], rfl, rfl, rfl, rfl⟩

/-- A call is answered, and the rest is done, or it raises a fault. -/
theorem ends_call_bind {c : Call} {g : Json → Attempt β}
    (hOk : ∀ v, (s.respond w.calls c).outcome = .ok v →
      Ends s (w.called s c) (g v) fun outcome made after => way outcome (⟨c, .ok v⟩ :: made) after)
    (hError : ∀ fault, (s.respond w.calls c).outcome = .error fault →
      way (.error fault) [⟨c, .error fault⟩] (w.called s c)) :
    Ends s w (call c >>= g) way := by
  refine ends_bind (ends_call s w c) ?_ ?_
  · rintro v made w₁ ⟨hAnswer, rfl, rfl⟩
    exact hOk v hAnswer.symm
  · rintro fault made w₁ ⟨hAnswer, rfl, rfl⟩
    exact hError fault hAnswer.symm

end Attempt

end ScenarioRunner
