import ScenarioRunner.Proofs.Page.Attempts
import ScenarioRunner.Proofs.Page.Catalogue
import ScenarioRunner.Proofs.Page.Task

/-! Rounds of an operation. Each round looks at the page, prints the elements that it has found in
its question, and looks the decision up in the same elements; none is kept for a later round. -/
namespace ScenarioRunner

namespace Question

def Prints (elements : List Json) (text : String) : Prop :=
  ∃ printed, catalogue elements shown = .ok printed ∧
    ("Elements:\n" ++ printed).toList <:+: text.toList

/-- A part stands within the paragraphs that are put together from it. -/
theorem infix_paragraphs {part : String} {parts : List String} (hPart : part ∈ parts) :
    part.toList <:+: (paragraphs parts).toList := by
  rw [paragraphs, String.toList_intercalate]
  have hMem : part.toList ∈ parts.map String.toList := List.mem_map_of_mem hPart
  generalize parts.map String.toList = texts at hMem
  induction texts with
  | nil => cases hMem
  | cons first rest ih =>
      cases rest with
      | nil =>
          obtain rfl := List.mem_singleton.mp hMem
          simp
      | cons second rest =>
          rw [List.intercalate_cons_cons]
          rcases List.mem_cons.mp hMem with rfl | hMem
          · exact (List.prefix_append _ _).isInfix.trans (List.prefix_append _ _).isInfix
          · exact (ih hMem).trans (List.suffix_append _ _).isInfix

/-- The question about an act prints the elements that it is about. -/
theorem prints_act {instruction url text : String} {title values : Json} {elements : List Json}
    (hText : act instruction url title elements values = .ok text) : Prints elements text := by
  obtain ⟨printed, hPrinted, hParts⟩ := bind_eq_ok_iff.mp hText
  obtain rfl := pure_eq_ok_iff.mp hParts
  exact ⟨printed, hPrinted, infix_paragraphs (by simp)⟩

/-- So does the question about a task. -/
theorem prints_agent {instruction url text : String} {history : List String} {title : Json}
    {elements : List Json} (hText : agent instruction history url title elements = .ok text) :
    Prints elements text := by
  obtain ⟨printed, hPrinted, hParts⟩ := bind_eq_ok_iff.mp hText
  obtain rfl := pure_eq_ok_iff.mp hParts
  exact ⟨printed, hPrinted, infix_paragraphs (by simp)⟩

/-- So does the question about what is on a page. -/
theorem prints_observe {target url text : String} {elements : List Json}
    (hText : observe target url elements = .ok text) : Prints elements text := by
  obtain ⟨printed, hPrinted, hParts⟩ := bind_eq_ok_iff.mp hText
  obtain rfl := pure_eq_ok_iff.mp hParts
  exact ⟨printed, hPrinted, infix_paragraphs (by simp)⟩

end Question

open Attempt

namespace PageSession

variable {s : Surroundings} {w : World} {p : PageSession} {client : ModelClient} {timeout : Int}

/-- The page has shown these elements, the model was asked a question that prints just them, and
this is its decision. -/
inductive Asked (p : PageSession) (client : ModelClient) (elements : List Json) (decision : Json) :
    List Exchange → Prop
  | asked {shown answer : Except Fault Json} {between : List Exchange} {system text : String}
      (hShown : shown >>= elementsOf = .ok elements)
      (hBetween : ∀ e ∈ between, e.call = .page p.page .title)
      (hPrints : Question.Prints elements text)
      (hDecision : Decision.inAnswer answer = .ok decision) :
      Asked p client elements decision (⟨.page p.page .catalogue, shown⟩ :: between ++
        [⟨.askModel (client.requestFor system text), answer⟩])

/-- A round of an operation, by its exchanges: nothing was done on the page; or what was done are
the actions that the decision asks for, or the first of them, looked up in the elements of this
round. -/
inductive Round (s : Surroundings) (p : PageSession) (client : ModelClient) (timeout : Int) :
    List Exchange → Prop
  | idle {made : List Exchange} (hNothing : ∀ e ∈ made, e.call.isDeedOn p.page = false) :
      Round s p client timeout made
  | done {elements : List Json} {decision : Json} {made : List Exchange} {actions : List PageAction}
      {deeds : List Deed} {w₁ after : World} (hAsked : Asked p client elements decision made)
      (hActions : PageAction.askedIn elements decision = .ok actions)
      (hFollow : Follow s (p.doing timeout) w₁ deeds after)
      (hDeeds : deeds.map (·.what) <+: actions) :
      Round s p client timeout (made ++ deeds.flatMap (·.made s))

/-- Rounds that follow on one another. -/
inductive Rounds (s : Surroundings) (p : PageSession) (client : ModelClient) (timeout : Int) :
    List Exchange → Prop
  | none : Rounds s p client timeout []
  | next {made later : List Exchange} (hRound : Round s p client timeout made)
      (hRest : Rounds s p client timeout later) : Rounds s p client timeout (made ++ later)

theorem Rounds.single {made : List Exchange} (hRound : Round s p client timeout made) :
    Rounds s p client timeout made := by
  have hOne : Rounds s p client timeout (made ++ []) := .next hRound .none
  rwa [List.append_nil] at hOne

section Decided

variable {system : String} {question : Json → List Json → Except Fault String}
  {outcome : Except Fault (List Json × Json)} {made : List Exchange}

/-- Nothing is done on the way to a decision. -/
theorem Decided.isDeedOn_eq_false (hDecided : Decided p client system question outcome made) :
    ∀ e ∈ made, e.call.isDeedOn p.page = false := by
  cases hDecided <;> simp [Call.isDeedOn, PageCall.isDeed]

/-- A decision was asked for with the elements that it is looked up in. -/
theorem Decided.asked_of_ok {elements : List Json} {decision : Json}
    (hPrints : ∀ title elements text, question title elements = .ok text →
      Question.Prints elements text)
    (hDecided : Decided p client system question (.ok (elements, decision)) made) :
    Asked p client elements decision made := by
  generalize hOutcome : Except.ok (elements, decision) = outcome at hDecided
  cases hDecided with
  | unseen hShown => cases hOutcome
  | untitled hShown => cases hOutcome
  | unasked hShown hQuestion => cases hOutcome
  | @asked _ _ _ title _ hShown hQuestion =>
      obtain ⟨found, hFound, hPair⟩ := map_eq_ok_iff.mp hOutcome.symm
      obtain ⟨rfl, rfl⟩ := Prod.mk.inj hPair
      have hQuiet : ∀ e ∈ [(⟨.page p.page .title, .ok title⟩ : Exchange)],
          e.call = .page p.page .title := by simp
      exact Asked.asked hShown hQuiet (hPrints _ _ _ hQuestion) hFound

end Decided

/-- An attempt at a text is a round. -/
theorem Tried.round {text : String} {values : Assoc String} {outcome : Except Fault Json}
    {made : List Exchange} {after : World}
    (hTried : Tried s p client text timeout values w outcome made after) :
    Round s p client timeout made := by
  cases hTried with
  | stopped hStopped => exact .idle hStopped.isDeedOn_eq_false
  | unusable hDecided hAsked => exact .idle hDecided.isDeedOn_eq_false
  | idle hDecided hAsked hReasoning => exact .idle hDecided.isDeedOn_eq_false
  | acted hRun hDecided hAsked hSome hCarried hReasoning =>
      have hRound := hDecided.asked_of_ok fun title elements text => Question.prints_act
      cases hCarried with
      | all hFollow hOutputs => exact .done hRound hAsked hFollow List.prefix_rfl
      | part rest hFollow hDeeds hLast =>
          refine .done hRound hAsked hFollow ?_
          rw [List.map_append, List.map_singleton]
          exact (List.prefix_append_right_inj _).mpr (List.prefix_append [_] rest)

/-- Attempts are rounds, each with a catalogue of its own. -/
theorem ends_actUpTo (hClient : p.client = some client) (text : String) (values : Assoc String)
    (attempts : Int) (more : Nat) (last : String) :
    Ends s w (p.actUpTo text timeout values attempts more last) fun _ made _ =>
      Rounds s p client timeout made := by
  induction more generalizing w last with
  | zero => exact ends_throw .none
  | succ more ih =>
      rw [actUpTo]
      refine ends_outcome_bind (p.ends_actOnce hClient text timeout values) ?_
      intro outcome made w₁ hTried
      have hOne : Rounds s p client timeout (made ++ []) := .next hTried.round .none
      cases outcome with
      | ok result => exact ends_pure hOne
      | error fault =>
          dsimp only
          split
          · exact (ih fault.message).mono fun _ later _ hRest => .next hTried.round hRest
          · exact ends_throw hOne

theorem ends_act (hClient : p.client = some client) (text : String) (retries : Int)
    (values : Assoc String) : Ends s w (p.act text timeout retries values) fun _ made _ =>
      Rounds s p client timeout made :=
  ends_go (p.needModel_eq_ok hClient _) (ends_actUpTo hClient text values _ _ _)

/-- The actions of a turn are done in their order, up to the last that is done. -/
theorem Performed.begins {turn : Nat} {progress : Progress} {actions : List PageAction}
    {outcome : Except Fault Progress} {deeds : List Deed} {after : World}
    (hPerformed : Performed s p turn w progress actions outcome deeds after) :
    Follow s (p.doing PageAction.standardTimeout) w deeds after ∧
      deeds.map (·.what) <+: actions := by
  cases hPerformed with
  | all hFollow hTame => exact ⟨hFollow, List.prefix_rfl⟩
  | broken rest hFollow hTame hBreaks =>
      refine ⟨hFollow, ?_⟩
      rw [List.map_append, List.map_singleton]
      exact (List.prefix_append_right_inj _).mpr (List.prefix_append [_] rest)

/-- Turns are rounds as well, by induction on how many are left. -/
theorem ends_taskTurns_rounds (hClient : p.client = some client) (instruction : String)
    (turns : Int) (more turn : Nat) (progress : Progress) :
    Ends s w (p.taskTurns instruction turns more turn progress) fun _ made _ =>
      Rounds s p client PageAction.standardTimeout made := by
  induction more generalizing w turn progress with
  | zero => exact ends_pure .none
  | succ more ih =>
      rw [taskTurns]
      refine p.ends_deciding_bind hClient (agentQuestion instruction progress.history) ?_
        fun fault made after hDecided _ => .single (.idle hDecided.isDeedOn_eq_false)
      intro elements decision made w₁ _ hDecided _
      have hIdle : Rounds s p client PageAction.standardTimeout (made ++ []) :=
        .next (.idle hDecided.isDeedOn_eq_false) .none
      have hFound := hDecided.asked_of_ok fun title elements text => Question.prints_agent
      cases hDone : decision.fieldOr "done" .null with
      | error fault => exact ends_stop rfl hIdle
      | ok done =>
          refine ends_go rfl ?_
          split
          · exact ends_ofExcept hIdle
          · cases hAsked : PageAction.askedIn elements decision with
            | error fault => exact ends_stop hAsked hIdle
            | ok actions =>
                have hRound {outcome : Except Fault Progress} {deeds : List Deed} {after : World}
                    (hPerformed : Performed s p turn w₁ progress actions outcome deeds after) :
                    Round s p client PageAction.standardTimeout
                      (made ++ deeds.flatMap (·.made s)) :=
                  .done hFound hAsked hPerformed.begins.1 hPerformed.begins.2
                refine ends_go hAsked (ends_bind (ends_runTurn turn actions progress) ?_ ?_)
                · rintro progress _ w₂ ⟨deeds, hPerformed, rfl⟩
                  refine (ih (turn + 1) progress).mono fun _ later _ hRest => ?_
                  rw [← List.append_assoc]
                  exact .next (hRound hPerformed) hRest
                · rintro fault _ w₂ ⟨deeds, hPerformed, rfl⟩
                  exact .single (hRound hPerformed)

theorem ends_runTask (hClient : p.client = some client) (instruction : String) (turns : Int) :
    Ends s w (p.runTask instruction turns) fun _ made _ =>
      Rounds s p client PageAction.standardTimeout made :=
  ends_go (p.needModel_eq_ok hClient _) (ends_taskTurns_rounds hClient instruction turns _ _ _)

/-- What is observed, if anything is, is looked up in the elements that were asked about. -/
theorem ends_observe (hClient : p.client = some client) (target : String) :
    Ends s w (p.observe target) fun outcome made _ => ∀ result, outcome = .ok result →
      ∃ elements decision found, Asked p client elements decision made ∧
        foundIn elements decision = .ok found ∧ result = .arr (found.filterMap id) := by
  refine ends_go (p.needModel_eq_ok hClient _) (ends_bind p.ends_elements ?_ (by simp))
  rintro elements _ w₁ ⟨shown, rfl, hShown⟩
  refine ends_lift_bind (y := do return (← read).pageUrl p.page) rfl ?_
  cases hQuestion : Question.observe target (s.pageUrl p.page) elements with
  | error fault => exact ends_stop hQuestion (by simp)
  | ok text =>
      refine ends_go hQuestion
        (ends_bind (p.ends_decide hClient Instruction.observe text) ?_ (by simp))
      rintro decision _ w₂ ⟨answer, rfl, hDecision⟩
      have hAsked : Asked p client elements decision [⟨.page p.page .catalogue, shown⟩,
          ⟨.askModel (client.requestFor Instruction.observe text), answer⟩] :=
        .asked hShown.symm (List.forall_mem_nil _) (Question.prints_observe hQuestion)
          hDecision.symm
      cases hFound : foundIn elements decision with
      | error fault => exact ends_stop hFound (by simp)
      | ok found =>
          refine ends_go hFound (ends_pure ?_)
          rintro result ⟨⟩
          exact ⟨elements, decision, found, hAsked, hFound, rfl⟩

/-- The number that the model is shown is that of the element that is acted on. A question prints
the elements with their numbers, and actions and observations are looked up by these numbers in
their order, unless one misfit keeps all actions from being read. In every run, whatever page and
model answer, what is done or observed in a round is looked up in the elements that this round has
found and its question has printed. -/
theorem numbers_agree {elements : List Json} (hElements : ∀ e ∈ elements, e.IsElement)
    {p : PageSession} {client : ModelClient} (hClient : p.client = some client)
    (s : Surroundings) (w : World) :
    Numbered elements ∧
    (∀ text timeout retries values, Ends s w (p.act text timeout retries values)
      fun _ made _ => Rounds s p client timeout made) ∧
    (∀ instruction turns, Ends s w (p.runTask instruction turns)
      fun _ made _ => Rounds s p client PageAction.standardTimeout made) ∧
    ∀ target, Ends s w (p.observe target) fun outcome made _ => ∀ result, outcome = .ok result →
      ∃ elements decision found, Asked p client elements decision made ∧
        foundIn elements decision = .ok found ∧ result = .arr (found.filterMap id) :=
  ⟨numbered_of_isElement hElements,
    fun text _ retries values => ends_act hClient text retries values,
    fun instruction turns => ends_runTask hClient instruction turns,
    fun target => ends_observe hClient target⟩

def goAndMore : List Json := [.obj [("selector", .str "#go"), ("text", .str "Go")],
  .obj [("tag", .str "a")]]

def clicks : Json := .arr [
  .obj [("action_type", .str "click"), ("element_index", .int 0)],
  .obj [("action_type", .str "click"), ("element_index", .int 2), ("selector", .str "#own")]]

/-- A number with an element, and one without. -/
theorem numbers_agree_clicks :
    let p : PageSession := { page := 0, context := 0, client := some {} }
    (∀ e ∈ goAndMore, e.IsElement) ∧ p.client = some {} ∧
    (∃ actions, PageAction.ofDecision goAndMore clicks = .ok actions ∧
      actions.map (·.selector) = [some "#go", some "#own"]) ∧
    Ends hesitant {} (p.act "Press go" 500 2 []) fun _ made _ => Rounds hesitant p {} 500 made := by
  have hElements : ∀ e ∈ goAndMore, e.IsElement := by
    simp [goAndMore, Json.IsElement, List.lookup_cons]
  obtain ⟨hNumbered, hAct, -⟩ := numbers_agree (p := { page := 0, context := 0, client := some {} })
    hElements rfl hesitant {}
  obtain ⟨actions, hRead⟩ := (hNumbered.readable clicks).mpr ⟨nofun, by
    simp [clicks, Json.entries, Json.IsMisfit, Json.fieldOrNull, Json.field?, List.lookup_cons,
      Checked.optional, Checked.int, Checked.text, Json.truthy]⟩
  refine ⟨hElements, rfl, ⟨actions, hRead, ?_⟩, hAct "Press go" 500 2 []⟩
  have hOk : PageAction.ofDecision goAndMore clicks = .ok _ := rfl
  rw [← Except.ok.inj (hOk.symm.trans hRead)]
  rfl

end PageSession

end ScenarioRunner
