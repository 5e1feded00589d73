import ScenarioRunner.Page.Session
import ScenarioRunner.Proofs.Except
import ScenarioRunner.Proofs.Exchange

/-! Asking the model for a decision. Whatever it answers, that is one call, since what is written down
of it calls nobody; the decision is read off the answer. -/
namespace ScenarioRunner

open Attempt

/-- Writing files makes no calls. -/
theorem Outside.calls_changeFiles (s : Surroundings) (w : World)
    (change : FileTree → Except FileTrouble FileTree) :
    (Outside.runIn s w (Outside.changeFiles change)).2.calls = w.calls := by
  rw [Outside.runIn_changeFiles]
  cases change w.files <;> rfl

/-- Files are written without calls. -/
theorem Outside.calls_writeInto (s : Surroundings) (w : World) (folder file : Path)
    (text : String) :
    (Outside.runIn s w (Outside.writeInto folder file text)).2.calls = w.calls := by
  rw [Outside.writeInto, Outside.runIn_bind]
  cases (Outside.runIn s w (Outside.changeFiles (·.makeFolders folder))).1 with
  | ok made => rw [Outside.calls_changeFiles, Outside.calls_changeFiles]
  | error trouble => exact Outside.calls_changeFiles s w _

/-- The record of an exchange is written without calls. -/
theorem ModelClient.calls_saveExchange (s : Surroundings) (w : World) (number : Nat)
    (system message reply error : String) :
    (Outside.runIn s w (saveExchange number system message reply error)).2.calls = w.calls := by
  simp only [saveExchange, Outside.runIn_bind, Outside.runIn_pure, Outside.calls_writeInto]
  rfl

def ModelClient.requestFor (c : ModelClient) (system question : String) : ModelRequest :=
  ⟨c.model, c.maxTokens, standardTemperature, system, question⟩

/-- The decision in an answer of the model. Where a value is no good there is none. -/
def Decision.inAnswer (answer : Except Fault Json) : Except Fault Json :=
  (answer >>= fun v => Decision.read (ModelClient.replyText v)).mapError fun fault =>
    if fault.isValueFault then .noDecision fault.message else fault

/-- A reply that cannot be read is a fault of its value. -/
theorem Decision.isValueFault_of_read {reply : String} {fault : Fault}
    (hRead : Decision.read reply = .error fault) : fault.isValueFault = true := by
  rw [Decision.read] at hRead
  split at hRead
  · cases hRead
  · cases hRead
    rfl
  · dsimp only at hRead
    split at hRead
    · cases hRead
    · cases hRead
      rfl
    · cases hRead
      rfl

/-- What cannot be read of a reply of the model is told as a fault of the session. -/
theorem Decision.inAnswer_reply (reply : String) : inAnswer (.ok (.str reply)) =
    (Decision.read reply).mapError fun fault => .noDecision fault.message := by
  have hReply : (.ok (.str reply) >>= fun v => read (ModelClient.replyText v) :
      Except Fault Json) = read reply := pure_bind (Json.str reply) _
  rw [inAnswer, hReply]
  cases hRead : read reply with
  | ok v => rfl
  | error fault => exact congrArg Except.error (if_pos (isValueFault_of_read hRead))

variable {s : Surroundings} {w : World}

namespace ModelClient

variable (c : ModelClient) (system question : String)

/-- One decision is asked for, and the log of it makes no further calls. -/
theorem ends_complete :
    Ends s w (c.complete system question none standardTemperature) fun outcome made _ =>
      ∃ answer, made = [⟨.askModel (c.requestFor system question), answer⟩] ∧
        outcome = answer.map replyText := by
  refine ends_lift_bind rfl (ends_outcome_bind (ends_call s _ _) ?_)
  rintro outcome _ w₁ ⟨-, rfl, -⟩
  -- the exchange is written down unless the fault is none of the model's own
  cases outcome with
  | ok v => exact ends_lift_bind (calls_saveExchange ..) (ends_pure ⟨.ok v, rfl, rfl⟩)
  | error fault =>
      dsimp only
      split
      · exact ends_lift_bind (calls_saveExchange ..) (ends_throw ⟨.error fault, rfl, rfl⟩)
      · exact ends_throw ⟨.error fault, rfl, rfl⟩

/-- The model is asked once, and what it says is read as a decision. -/
theorem ends_completeJson :
    Ends s w (c.completeJson system question none standardTemperature) fun outcome made _ =>
      ∃ answer, made = [⟨.askModel (c.requestFor system question), answer⟩] ∧
        outcome = answer >>= fun v => Decision.read (replyText v) := by
  refine ends_bind (c.ends_complete system question) ?_ ?_
  · rintro reply _ w₁ ⟨answer, rfl, hReply⟩
    obtain ⟨v, rfl, rfl⟩ := map_eq_ok_iff.mp hReply.symm
    exact ends_ofExcept ⟨.ok v, rfl, rfl⟩
  · rintro fault _ w₁ ⟨answer, rfl, hFault⟩
    cases answer with
    | ok v => cases hFault
    | error fault =>
        cases hFault
        exact ⟨.error fault, rfl, rfl⟩

end ModelClient

namespace PageSession

variable (p : PageSession) {client : ModelClient}

/-- With a model at hand an operation may begin. -/
theorem needModel_eq_ok (hClient : p.client = some client) (operation : String) :
    p.needModel operation = .ok client := by
  rw [needModel, hClient]

/-- A decision is asked for with one call, and is in the answer. -/
theorem ends_decide (hClient : p.client = some client) (system question : String) :
    Ends s w (p.decide system question) fun outcome made _ =>
      ∃ answer, made = [⟨.askModel (client.requestFor system question), answer⟩] ∧
        outcome = Decision.inAnswer answer := by
  refine ends_go (p.needModel_eq_ok hClient _) ?_
  refine ends_outcome_bind (client.ends_completeJson system question) ?_
  rintro outcome _ w₁ ⟨answer, rfl, rfl⟩
  cases hRead : answer >>= fun v => Decision.read (ModelClient.replyText v) with
  | ok decision => exact ends_pure ⟨answer, rfl, by rw [Decision.inAnswer, hRead]; rfl⟩
  | error fault =>
      have hTold : Decision.inAnswer answer =
          .error (if fault.isValueFault then .noDecision fault.message else fault) := by
        rw [Decision.inAnswer, hRead]
        rfl
      dsimp only
      split
      · rename_i hValue
        exact ends_throw ⟨answer, rfl, by rw [hTold, if_pos hValue]⟩
      · rename_i hOther
        exact ends_throw ⟨answer, rfl, by rw [hTold, if_neg hOther]⟩

end PageSession

end ScenarioRunner
