import ScenarioRunner.Proofs.World
import ScenarioRunner.Session

/-! What asking for a session may end with. A session, wherever it comes from, is had by calls to
outside parties: a fault is one of their answers, or tells that there is no session. -/
namespace ScenarioRunner

namespace Attempt

/-- Every fault that a computation ends with is one of these. -/
def RaisesOnly {α : Type} (p : Fault → Prop) (s : Surroundings) (x : Attempt α) : Prop :=
  ∀ w fault, (runIn s w x).1 = .error fault → p fault

variable {α β : Type} {p : Fault → Prop} {s : Surroundings}

theorem raisesOnly_pure (a : α) : RaisesOnly p s (pure a) := by
  intro w fault hFault
  rw [runIn_pure] at hFault
  cases hFault

theorem raisesOnly_throw {raised : Fault} (hRaised : p raised) :
    RaisesOnly p s (throw raised : Attempt α) := by
  intro w fault hFault
  rw [runIn_throw] at hFault
  cases hFault
  exact hRaised

theorem raisesOnly_lift (x : Outside α) : RaisesOnly p s (liftM x : Attempt α) := by
  intro w fault hFault
  rw [runIn_lift] at hFault
  cases hFault

theorem raisesOnly_get : RaisesOnly p s (get : Attempt World) := raisesOnly_lift get

theorem raisesOnly_bind {x : Attempt α} {f : α → Attempt β} (hFirst : RaisesOnly p s x)
    (hRest : ∀ a, RaisesOnly p s (f a)) : RaisesOnly p s (x >>= f) := by
  intro w fault hFault
  rw [runIn_bind] at hFault
  rcases hRun : runIn s w x with ⟨raised | a, w₁⟩
  · rw [hRun] at hFault
    cases hFault
    exact hFirst w fault (by rw [hRun])
  · rw [hRun] at hFault
    exact hRest a w₁ fault hFault

/-- What is told of the outcome of a computation may be used in what is done with it. -/
theorem raisesOnly_outcome_bind {x : Attempt α} {f : Except Fault α → Attempt β}
    (hFirst : RaisesOnly p s x) (hOk : ∀ a, RaisesOnly p s (f (.ok a)))
    (hError : ∀ fault, p fault → RaisesOnly p s (f (.error fault))) :
    RaisesOnly p s (x.outcome >>= f) := by
  intro w fault hFault
  have hOutcome : runIn s w x.outcome = (.ok (runIn s w x).1, (runIn s w x).2) := rfl
  rw [runIn_bind, hOutcome] at hFault
  rcases hRun : runIn s w x with ⟨raised | a, w₁⟩
  · rw [hRun] at hFault
    exact hError raised (hFirst w raised (by rw [hRun])) w₁ fault hFault
  · rw [hRun] at hFault
    exact hOk a w₁ fault hFault

theorem raisesOnly_call
    (hAnswers : ∀ earlier c fault, (s.respond earlier c).outcome = .error fault → p fault)
    (c : Call) : RaisesOnly p s (call c) :=
  fun w fault hFault => hAnswers w.calls c fault hFault

end Attempt

open Attempt

variable {p : Fault → Prop} {s : Surroundings}

namespace BrowserSettings

variable (settings : BrowserSettings) (hCall : ∀ c, RaisesOnly p s (Attempt.call c))
include hCall

theorem raisesOnly_launch : RaisesOnly p s settings.launch := by
  refine raisesOnly_bind raisesOnly_get fun w => ?_
  split
  · exact raisesOnly_pure ()
  · refine raisesOnly_bind (hCall _) fun _ => raisesOnly_bind (raisesOnly_lift _) fun _ => ?_
    exact raisesOnly_bind (hCall _) fun _ => raisesOnly_lift _

theorem raisesOnly_openContext : RaisesOnly p s settings.openContext :=
  raisesOnly_bind (hCall _) fun _ => raisesOnly_bind (raisesOnly_lift _) fun _ =>
    raisesOnly_bind raisesOnly_get fun _ => raisesOnly_pure _

theorem raisesOnly_openPage (context : Nat) : RaisesOnly p s (openPage context) :=
  raisesOnly_bind (hCall _) fun _ => raisesOnly_bind (raisesOnly_lift _) fun _ =>
    raisesOnly_bind raisesOnly_get fun _ => raisesOnly_pure _

theorem raisesOnly_openSession : RaisesOnly p s settings.openSession :=
  raisesOnly_bind (settings.raisesOnly_launch hCall) fun _ =>
    raisesOnly_bind (settings.raisesOnly_openContext hCall) fun context =>
      raisesOnly_bind (raisesOnly_openPage hCall context) fun _ => raisesOnly_pure _

theorem raisesOnly_dropDriver : RaisesOnly p s dropDriver := by
  refine raisesOnly_bind raisesOnly_get fun w => ?_
  dsimp only
  split
  · exact raisesOnly_bind (hCall _) fun _ => raisesOnly_lift _
  · exact raisesOnly_pure ()

theorem raisesOnly_getSession (hNone : ∀ flow message, p (.noSession flow message))
    (workflow : String) : RaisesOnly p s (settings.getSession workflow) := by
  refine raisesOnly_bind raisesOnly_get fun w => ?_
  split
  · exact raisesOnly_pure _
  · refine raisesOnly_outcome_bind (settings.raisesOnly_openSession hCall)
      (fun session => raisesOnly_bind (raisesOnly_lift _) fun _ => raisesOnly_pure _)
      fun fault hFault => ?_
    dsimp only
    split
    · exact raisesOnly_bind (raisesOnly_dropDriver hCall) fun _ => raisesOnly_throw (hNone _ _)
    · exact raisesOnly_throw hFault

end BrowserSettings

/-- Where there is no session for a flow, either an outside party raised the fault or the fault says
so. -/
theorem Provider.raisesOnly_getSession (provider : Provider)
    (hAnswers : ∀ earlier c fault, (s.respond earlier c).outcome = .error fault → p fault)
    (hNone : ∀ flow message, p (.noSession flow message)) (workflow : String) :
    RaisesOnly p s (provider.getSession workflow) := by
  cases provider with
  | given => exact raisesOnly_bind (raisesOnly_call hAnswers _) fun _ => raisesOnly_pure _
  | browser settings =>
      refine raisesOnly_bind ?_ fun _ => raisesOnly_pure _
      exact settings.raisesOnly_getSession (raisesOnly_call hAnswers) hNone workflow

end ScenarioRunner
