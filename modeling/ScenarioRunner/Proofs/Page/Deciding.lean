import ScenarioRunner.Proofs.Trace

/-! How an operation comes to a decision: it looks at the page, puts a question to the model and reads
the reply. Whatever page and model answer, each of the three is called at most once and in this order,
and what an operation can be stopped by is read off the answers. -/
namespace ScenarioRunner

open Attempt

def Call.isDeedOn (n : Nat) : Call → Bool
  | .page m c => m == n && c.isDeed
  | _ => false

def Call.asksModel : Call → Bool
  | .askModel _ => true
  | _ => false

/-- What is done on a page does not ask the model. -/
theorem Call.asksModel_of_isDeedOn {c : Call} {n : Nat} (hDeed : c.isDeedOn n = true) :
    c.asksModel = false := by
  cases c with
  | askModel => cases hDeed
  | _ => rfl

/-- Looking at the elements of a page is no deed. -/
theorem Call.not_isDeedOn_catalogue (n : Nat) : ¬ (Call.page n .catalogue).isDeedOn n = true := by
  simp [isDeedOn, PageCall.isDeed]

variable {s : Surroundings} {w : World}

namespace PageSession

variable (p : PageSession) {client : ModelClient}

/-- Coming to a decision: the elements of the page are looked up, then its title, and a question about
both is put to the model. -/
def deciding (system : String) (question : String → Json → List Json → Except Fault String) :
    Attempt (List Json × Json) := do
  let elements ← p.elements
  let title ← p.title
  let text ← Attempt.ofExcept (question (← p.url) title elements)
  return (elements, ← p.decide system text)

/-- A decision goes through the elements, the title and the address of the page to one question. -/
theorem deciding_bind {α : Type} (system : String)
    (question : String → Json → List Json → Except Fault String)
    (f : List Json → Json → Attempt α) :
    (do
      let elements ← p.elements
      let title ← p.title
      let text ← Attempt.ofExcept (question (← p.url) title elements)
      let decision ← p.decide system text
      f elements decision) =
    (p.deciding system question >>= fun found => f found.1 found.2) := by
  simp only [deciding, bind_assoc, pure_bind]

/-- How far it gets with a decision, by the exchanges: the elements and the decision come of it, or the
fault that it is stopped by. -/
inductive Decided (p : PageSession) (client : ModelClient) (system : String)
    (question : Json → List Json → Except Fault String) :
    Except Fault (List Json × Json) → List Exchange → Prop
  | unseen {shown : Except Fault Json} {fault : Fault} (hShown : shown >>= elementsOf = .error fault) :
      Decided p client system question (.error fault) [⟨.page p.page .catalogue, shown⟩]
  | untitled {shown : Except Fault Json} {elements : List Json} {fault : Fault}
      (hShown : shown >>= elementsOf = .ok elements) :
      Decided p client system question (.error fault)
        [⟨.page p.page .catalogue, shown⟩, ⟨.page p.page .title, .error fault⟩]
  | unasked {shown : Except Fault Json} {elements : List Json} {title : Json} {fault : Fault}
      (hShown : shown >>= elementsOf = .ok elements)
      (hQuestion : question title elements = .error fault) :
      Decided p client system question (.error fault)
        [⟨.page p.page .catalogue, shown⟩, ⟨.page p.page .title, .ok title⟩]
  | asked {shown answer : Except Fault Json} {elements : List Json} {title : Json} {text : String}
      (hShown : shown >>= elementsOf = .ok elements)
      (hQuestion : question title elements = .ok text) :
      Decided p client system question ((Decision.inAnswer answer).map (elements, ·))
        [⟨.page p.page .catalogue, shown⟩, ⟨.page p.page .title, .ok title⟩,
          ⟨.askModel (client.requestFor system text), answer⟩]

/-- Looking at the page is one call, and the elements are read off its answer. -/
theorem ends_elements : Ends s w p.elements fun outcome made _ =>
    ∃ shown, made = [⟨.page p.page .catalogue, shown⟩] ∧ outcome = shown >>= elementsOf :=
  ends_call_bind (fun v _ => ends_ofExcept ⟨.ok v, rfl, rfl⟩) fun fault _ =>
    ⟨.error fault, rfl, rfl⟩

/-- A decision is one look at the page and one question to the model, each unless the one before
fails. -/
theorem ends_deciding (hClient : p.client = some client) (system : String)
    (question : String → Json → List Json → Except Fault String) :
    Ends s w (p.deciding system question) fun outcome made _ =>
      Decided p client system (question (s.pageUrl p.page)) outcome made := by
  refine ends_bind p.ends_elements ?_ ?_
  · rintro elements _ w₁ ⟨shown, rfl, hShown⟩
    refine ends_call_bind (fun title _ => ?_) fun fault _ => .untitled hShown.symm
    refine ends_lift_bind (y := do return (← read).pageUrl p.page) rfl ?_
    cases hQuestion : question (s.pageUrl p.page) title elements with
    | error fault => exact ends_stop hQuestion (.unasked hShown.symm hQuestion)
    | ok text =>
        have hAsked {outcome answer : Except Fault Json} (hAnswer : outcome = Decision.inAnswer answer) :
            Decided p client system (question (s.pageUrl p.page)) (outcome.map (elements, ·))
              [⟨.page p.page .catalogue, shown⟩, ⟨.page p.page .title, .ok title⟩,
                ⟨.askModel (client.requestFor system text), answer⟩] := by
          rw [hAnswer]
          exact .asked hShown.symm hQuestion
        refine ends_go hQuestion (ends_bind (p.ends_decide hClient system text) ?_ ?_)
        · rintro decision _ w₂ ⟨answer, rfl, hAnswer⟩
          exact ends_pure (hAsked hAnswer)
        · rintro fault _ w₂ ⟨answer, rfl, hAnswer⟩
          exact hAsked hAnswer
  · rintro fault _ w₁ ⟨shown, rfl, hShown⟩
    exact .unseen hShown.symm

/-- What an operation does with its decision comes after that, in the world that is left then. -/
theorem ends_deciding_bind {α : Type} (hClient : p.client = some client) {system : String}
    (question : String → Json → List Json → Except Fault String)
    {f : List Json → Json → Attempt α} {way : Except Fault α → List Exchange → World → Prop}
    (hDecided : ∀ elements decision made w₁,
      runIn s w (p.deciding system question) = (.ok (elements, decision), w₁) →
      Decided p client system (question (s.pageUrl p.page)) (.ok (elements, decision)) made →
      (∀ e ∈ made, ∃ before, (s.respond before e.call).outcome = e.answer) →
      Ends s w₁ (f elements decision) fun outcome more after => way outcome (made ++ more) after)
    (hStopped : ∀ fault made after,
      Decided p client system (question (s.pageUrl p.page)) (.error fault) made →
      (∀ e ∈ made, ∃ before, (s.respond before e.call).outcome = e.answer) →
      way (.error fault) made after) :
    Ends s w (do
      let elements ← p.elements
      let title ← p.title
      let text ← Attempt.ofExcept (question (← p.url) title elements)
      let decision ← p.decide system text
      f elements decision) way := by
  rw [p.deciding_bind system question f]
  refine ends_bind (p.ends_deciding hClient system question).answered.told ?_ ?_
  · rintro ⟨elements, decision⟩ made w₁ ⟨⟨hFound, hAnswered⟩, hRun⟩
    exact hDecided elements decision made w₁ hRun hFound hAnswered
  · rintro fault made w₁ ⟨⟨hFault, hAnswered⟩, -⟩
    exact hStopped fault made w₁ hFault hAnswered

/-- The exchanges begin with a look at the elements of the page, and there is no other one. Where it
fails nothing else is done. At most one decision is asked for. -/
def LooksOnce (p : PageSession) (made : List Exchange) : Prop :=
  ∃ shown later, made = ⟨.page p.page .catalogue, shown⟩ :: later ∧
    (∀ e ∈ later, e.call ≠ .page p.page .catalogue) ∧
    ((∃ fault, shown >>= elementsOf = .error fault) → later = []) ∧
    later.countP (·.call.asksModel) ≤ 1

def doing (timeout : Int) (a : PageAction) : Attempt (Option String) :=
  a.run p.page timeout p.shots

/-- In the course of an action only deeds are asked of the page. -/
theorem callsOnly_doing (timeout : Int) (a : PageAction) :
    CallsOnly (Call.isDeedOn p.page) (p.doing timeout a) := by
  apply PageAction.callsOnly_run
  intro c hDeed
  rw [Call.isDeedOn, hDeed, beq_self_eq_true]
  rfl

/-- So it is with actions that are done one after another. -/
theorem isDeedOn_of_follow {timeout : Int} {deeds : List (Run PageAction (Option String))}
    {after : World} {p : PageSession} (hFollow : Follow s (p.doing timeout) w deeds after) :
    ∀ e ∈ deeds.flatMap (·.made s), e.call.isDeedOn p.page = true := by
  intro e he
  obtain ⟨d, hMem, he⟩ := List.mem_flatMap.mp he
  exact (hFollow.is_of_mem d hMem).way (ends_of_callsOnly (p.callsOnly_doing timeout d.what)) e he

section LooksOnce

variable {p : PageSession} {system : String} {question : Json → List Json → Except Fault String}
  {outcome : Except Fault (List Json × Json)} {made : List Exchange}

/-- A decision looks at its page at most once. -/
theorem Decided.looksOnce (hDecided : Decided p client system question outcome made) :
    p.LooksOnce made := by
  cases hDecided with
  | unseen hShown => exact ⟨_, [], rfl, by simp, fun _ => rfl, by simp⟩
  | untitled hShown => exact ⟨_, _, rfl, by simp, by simp [hShown], by simp [Call.asksModel]⟩
  | unasked hShown hQuestion => exact ⟨_, _, rfl, by simp, by simp [hShown], by simp [Call.asksModel]⟩
  | asked hShown hQuestion => exact ⟨_, _, rfl, by simp, by simp [hShown], by simp [Call.asksModel]⟩

/-- What is done after a decision is no look at the elements, and no question. -/
theorem Decided.looksOnce_append {found : List Json × Json} {deeds : List Exchange}
    (hDecided : Decided p client system question (.ok found) made)
    (hDeeds : ∀ e ∈ deeds, e.call.isDeedOn p.page = true) : p.LooksOnce (made ++ deeds) := by
  have hOther : ∀ e ∈ deeds, e.call ≠ .page p.page .catalogue ∧ e.call.asksModel = false := by
    intro e he
    refine ⟨fun hCall => ?_, Call.asksModel_of_isDeedOn (hDeeds e he)⟩
    exact Call.not_isDeedOn_catalogue p.page (hCall ▸ hDeeds e he)
  generalize hOutcome : Except.ok found = outcome at hDecided
  cases hDecided with
  | unseen hShown => cases hOutcome
  | untitled hShown => cases hOutcome
  | unasked hShown hQuestion => cases hOutcome
  | asked hShown hQuestion =>
      refine ⟨_, _, rfl, ?_, by simp [hShown], ?_⟩
      · simpa using fun e he => (hOther e he).1
      · simpa [Call.asksModel] using fun e he => (hOther e he).2

end LooksOnce

end PageSession

end ScenarioRunner
