import ScenarioRunner.Proofs.Decision.Reading
import ScenarioRunner.Proofs.Page.Deciding

/-! Working on a task turn by turn, on a page that shows its elements and its title, with a model whose
decisions can be worked with. Each turn asks for one decision and tells the model what was done in the
turns before; the actions of a turn that fail, by the page or for their value, are recorded as the
others are and do not keep them from being done. Nothing else is assumed of the page: an action that
fails in another way ends the task. -/
namespace ScenarioRunner

open Attempt

/-- The page shows its elements and its title, and every reply of the model is a decision that a task
can go on with or end by. -/
structure Surroundings.Guides (s : Surroundings) (page : Nat) : Prop where
  catalogue : ∀ earlier, ∃ elements, (s.respond earlier (.page page .catalogue)).outcome =
    .ok (.arr elements) ∧ ∀ element ∈ elements, element.IsElement
  title : ∀ earlier, ∃ title, (s.respond earlier (.page page .title)).outcome = .ok title
  model : ∀ earlier request, ∃ reply v, (s.respond earlier (.askModel request)).outcome =
    .ok (.str reply) ∧ Decision.read reply = .ok v ∧ v.FitsTask

abbrev Deed := Run PageAction (Option String)

namespace Deed

variable (d : Deed)

/-- The text of the fault that it failed by. -/
def failure : Option String :=
  match d.outcome with
  | .ok _ => none
  | .error fault => some fault.message

def line : String :=
  match d.failure with
  | none => d.what.title
  | some error => s!"FAILED {d.what.title}: {error}"

def step (turn : Nat) : Json :=
  .obj (("turn", .ofNat turn) :: d.what.fields ++
    match d.failure with
    | none => [("success", .bool true)]
    | some error => [("success", .bool false), ("error", .str error)])

/-- It succeeded, or it failed by the page or for its value. -/
def IsTame : Prop :=
  ∀ fault, d.outcome = .error fault → fault.isPageFault = true ∨ fault.isValueFault = true

/-- It failed by this fault, in another way. -/
def Breaks (fault : Fault) : Prop :=
  d.outcome = .error fault ∧ fault.isPageFault = false ∧ fault.isValueFault = false

end Deed

namespace PageSession

/-- A deed is recorded for the model and for the report at once. -/
theorem Progress.add_eq (progress : Progress) (turn : Nat) (d : Deed) :
    progress.add turn d.what d.failure =
      ⟨progress.history ++ [d.line], progress.steps ++ [d.step turn]⟩ := by
  rw [Deed.line, Deed.step]
  cases d.failure <;> rfl

variable {s : Surroundings} {w : World} {p : PageSession} {client : ModelClient}

/-- How the actions of a turn are done: all of them, or up to one that breaks the task off. -/
inductive Performed (s : Surroundings) (p : PageSession) (turn : Nat) (w : World)
    (progress : Progress) : List PageAction → Except Fault Progress → List Deed → World → Prop
  | all {deeds : List Deed} {after : World}
      (hFollow : Follow s (p.doing PageAction.standardTimeout) w deeds after)
      (hTame : ∀ d ∈ deeds, d.IsTame) :
      Performed s p turn w progress (deeds.map (·.what))
        (.ok ⟨progress.history ++ deeds.map (·.line), progress.steps ++ deeds.map (·.step turn)⟩)
        deeds after
  | broken {deeds : List Deed} {last : Deed} (rest : List PageAction) {fault : Fault} {after : World}
      (hFollow : Follow s (p.doing PageAction.standardTimeout) w (deeds ++ [last]) after)
      (hTame : ∀ d ∈ deeds, d.IsTame) (hBreaks : last.Breaks fault) :
      Performed s p turn w progress (deeds.map (·.what) ++ last.what :: rest) (.error fault)
        (deeds ++ [last]) after

/-- One more action before the others, after which they are done in any case. -/
theorem Performed.cons {turn : Nat} {progress : Progress} {actions : List PageAction}
    {outcome : Except Fault Progress} {d : Deed} {deeds : List Deed} {after : World}
    (hRun : d.Is s (p.doing PageAction.standardTimeout)) (hTame : d.IsTame)
    (hRest : Performed s p turn d.after (progress.add turn d.what d.failure) actions outcome deeds
      after) :
    Performed s p turn d.before progress (d.what :: actions) outcome (d :: deeds) after := by
  rw [Progress.add_eq] at hRest
  cases hRest with
  | all hFollow hRest =>
      have hAll := @Performed.all s p turn d.before progress _ _ (.next hRun hFollow)
        (List.forall_mem_cons.mpr ⟨hTame, hRest⟩)
      simpa using hAll
  | broken rest hFollow hRest hBreaks =>
      exact .broken rest (.next hRun hFollow) (List.forall_mem_cons.mpr ⟨hTame, hRest⟩) hBreaks

/-- The actions of a turn are done one by one, and the exchanges with the page are theirs. -/
theorem ends_runTurn (turn : Nat) (actions : List PageAction) (progress : Progress) :
    Ends s w (p.runTurn turn actions progress) fun outcome made after =>
      ∃ deeds, Performed s p turn w progress actions outcome deeds after ∧
        made = deeds.flatMap (·.made s) := by
  induction actions generalizing w progress with
  | nil =>
      have hNone : Performed s p turn w progress [] (.ok progress) [] w := by
        have hAll := @Performed.all s p turn w progress [] w .none (by simp)
        simpa using hAll
      exact ends_pure ⟨[], hNone, rfl⟩
  | cons a rest ih =>
      rw [runTurn]
      refine ends_outcome_bind
        (ends_run (p.doing PageAction.standardTimeout) (p.callsOnly_doing _ a)) ?_
      rintro outcome _ w₁ ⟨d, hRun, rfl, rfl⟩
      have hRest (hTame : Deed.IsTame ⟨a, w, outcome, w₁⟩) :
          Ends s w₁ (p.runTurn turn rest (progress.add turn a (Deed.failure ⟨a, w, outcome, w₁⟩)))
            fun ended more after => ∃ deeds,
              Performed s p turn w progress (a :: rest) ended deeds after ∧
                Run.made s ⟨a, w, outcome, w₁⟩ ++ more = deeds.flatMap (·.made s) := by
        refine (ih _).mono ?_
        rintro ended _ after ⟨deeds, hRest, rfl⟩
        exact ⟨_, hRest.cons hRun hTame, rfl⟩
      cases outcome with
      | ok output =>
          have hTame : Deed.IsTame ⟨a, w, .ok output, w₁⟩ := by
            rintro fault ⟨⟩
          exact hRest hTame
      | error fault =>
          dsimp only
          split
          · rename_i hPassing
            refine hRest ?_
            rintro _ ⟨⟩
            exact Bool.or_eq_true_iff.mp hPassing
          · rename_i hOther
            rw [Bool.or_eq_true_iff, not_or, Bool.not_eq_true, Bool.not_eq_true] at hOther
            refine ends_throw ⟨[⟨a, w, .error fault, w₁⟩], ?_, by simp⟩
            exact @Performed.broken s p turn w progress [] _ rest _ _ (.single hRun) (by simp)
              ⟨rfl, hOther⟩

def agentQuestion (instruction : String) (history : List String) (url : String) (title : Json)
    (elements : List Json) : Except Fault String :=
  Question.agent instruction history url title elements

/-- One turn: the page and the question that was put about it, the reply with its decision, and what
was done then. -/
structure Turn where
  before : World
  elements : List Json
  title : Json
  question : String
  reply : String
  decision : List (String × Json)
  decided : World
  deeds : List Deed
  after : World

namespace Turn

def asked (client : ModelClient) (t : Turn) : Exchange :=
  ⟨.askModel (client.requestFor Instruction.agent t.question), .ok (.str t.reply)⟩

def made (s : Surroundings) (p : PageSession) (client : ModelClient) (t : Turn) : List Exchange :=
  ⟨.page p.page .catalogue, .ok (.arr t.elements)⟩ :: ⟨.page p.page .title, .ok t.title⟩ ::
    t.asked client :: t.deeds.flatMap (·.made s)

/-- What the model is told of the turns. -/
def linesOf (log : List Turn) : List String := log.flatMap fun t => t.deeds.map (·.line)

/-- What is reported of the turns. -/
def stepsOf (log : List Turn) : List Json :=
  (log.mapIdx fun i t => t.deeds.map (·.step (i + 1))).flatten

/-- The lines of a log grow by those of its last turn. -/
theorem linesOf_concat (log : List Turn) (t : Turn) :
    linesOf (log ++ [t]) = linesOf log ++ t.deeds.map (·.line) := by
  simp [linesOf]

/-- The steps of a log grow by those of its last turn, which have its number. -/
theorem stepsOf_concat (log : List Turn) (t : Turn) :
    stepsOf (log ++ [t]) = stepsOf log ++ t.deeds.map (·.step (log.length + 1)) := by
  simp [stepsOf, List.mapIdx_append]

/-- A turn as it comes after earlier ones: its question tells of all that was done in them, its
decision is read from the reply, and its deeds are done in the world that is left then. -/
structure Is (s : Surroundings) (p : PageSession) (instruction : String) (earlier : List Turn)
    (t : Turn) : Prop where
  run : runIn s t.before (p.deciding Instruction.agent
    (agentQuestion instruction (linesOf earlier))) = (.ok (t.elements, .obj t.decision), t.decided)
  question : ∃ shown, Question.catalogue t.elements Question.shown = .ok shown ∧
    t.question = Question.paragraphs ["Task: " ++ instruction,
      "Steps so far:\n" ++ Question.historyText (linesOf earlier),
      s!"Page: {t.title.display} ({s.pageUrl p.page})", "Elements:\n" ++ shown,
      "Return your next move as a single JSON object."]
  read : Decision.read t.reply = .ok (.obj t.decision)
  follow : Follow s (p.doing PageAction.standardTimeout) t.decided t.deeds t.after

/-- The turn does not end the task, and all of its actions are done. -/
structure Continues (t : Turn) : Prop where
  unfinished : Json.isDone t.decision = false
  whole : PageAction.askedIn t.elements (.obj t.decision) = .ok (t.deeds.map (·.what))
  tame : ∀ d ∈ t.deeds, d.IsTame

end Turn

/-- Turns that follow on earlier ones, from one world to another. -/
inductive Turns (s : Surroundings) (p : PageSession) (instruction : String) :
    World → List Turn → List Turn → World → Prop
  | none {w : World} {earlier : List Turn} : Turns s p instruction w earlier [] w
  | next {earlier later : List Turn} {t : Turn} {after : World}
      (hTurn : t.Is s p instruction earlier)
      (hRest : Turns s p instruction t.after (earlier ++ [t]) later after) :
      Turns s p instruction t.before earlier (t :: later) after

/-- How the work on a task ends: in the first turn whose decision says so, which does nothing more; when
all turns have been taken; or at an action that breaks it off. -/
inductive Ending (turns : Int) : List Turn → Except Fault AgentReport → Prop
  | ended {earlier : List Turn} {last : Turn} {report : AgentReport}
      (hEarlier : ∀ t ∈ earlier, t.Continues) (hFew : earlier.length < turns)
      (hDone : Json.isDone last.decision = true) (hNothing : last.deeds = [])
      (hSteps : report.steps = Turn.stepsOf earlier)
      (hCompleted : report.completed = true ↔
        ((last.decision.lookup "error").getD .null).truthy = false) :
      Ending turns (earlier ++ [last]) (.ok report)
  | spent {log : List Turn} {report : AgentReport} (hLog : ∀ t ∈ log, t.Continues)
      (hAll : log.length = turns) (hSteps : report.steps = Turn.stepsOf log)
      (hCompleted : report.completed = false)
      (hError : ∃ error, report.error = some error ∧ error ≠ "") :
      Ending turns log (.ok report)
  | broken {earlier : List Turn} {last : Turn} {deeds : List Deed} {deed : Deed}
      {rest : List PageAction} {fault : Fault} (hEarlier : ∀ t ∈ earlier, t.Continues)
      (hFew : earlier.length < turns) (hOpen : Json.isDone last.decision = false)
      (hAsked : PageAction.askedIn last.elements (.obj last.decision) =
        .ok (last.deeds.map (·.what) ++ rest))
      (hDeeds : last.deeds = deeds ++ [deed]) (hTame : ∀ d ∈ deeds, d.IsTame)
      (hBreaks : deed.Breaks fault) :
      Ending turns (earlier ++ [last]) (.error fault)

/-- With such a page and such a model there is a decision, and it can be worked with. -/
theorem Decided.guided {system instruction : String} {history : List String}
    {outcome : Except Fault (List Json × Json)} {made : List Exchange} (hGuides : s.Guides p.page)
    (hDecided : Decided p client system (agentQuestion instruction history (s.pageUrl p.page)) outcome
      made)
    (hAnswered : ∀ e ∈ made, ∃ before, (s.respond before e.call).outcome = e.answer) :
    ∃ elements title text reply fields,
      outcome = .ok (elements, .obj fields) ∧ (∀ element ∈ elements, element.IsElement) ∧
      Question.agent instruction history (s.pageUrl p.page) title elements = .ok text ∧
      Decision.read reply = .ok (.obj fields) ∧ (Json.obj fields).FitsTask ∧
      made = [⟨.page p.page .catalogue, .ok (.arr elements)⟩, ⟨.page p.page .title, .ok title⟩,
        ⟨.askModel (client.requestFor system text), .ok (.str reply)⟩] := by
  have hElements {shown : Except Fault Json} {later : List Exchange}
      (hMade : made = ⟨.page p.page .catalogue, shown⟩ :: later) :
      ∃ elements, shown = .ok (.arr elements) ∧ ∀ element ∈ elements, element.IsElement := by
    obtain ⟨before, hAnswer⟩ := hAnswered _ (hMade ▸ List.mem_cons_self ..)
    obtain ⟨elements, hElements, hEach⟩ := hGuides.catalogue before
    exact ⟨elements, hAnswer.symm.trans hElements, hEach⟩
  cases hDecided with
  | unseen hShown =>
      obtain ⟨elements, rfl, -⟩ := hElements rfl
      cases hShown
  | untitled hShown =>
      obtain ⟨before, hAnswer⟩ := hAnswered _ (List.mem_cons_of_mem _ (List.mem_cons_self ..))
      obtain ⟨title, hTitle⟩ := hGuides.title before
      cases hAnswer.symm.trans hTitle
  | unasked hShown hQuestion =>
      obtain ⟨elements, rfl, hEach⟩ := hElements rfl
      obtain rfl := Except.ok.inj hShown
      obtain ⟨text, hText⟩ := Question.agent_eq_ok hEach instruction history (s.pageUrl p.page) _
      cases hText.symm.trans hQuestion
  | @asked shown answer _ title text hShown hQuestion =>
      obtain ⟨elements, rfl, hEach⟩ := hElements rfl
      obtain rfl := Except.ok.inj hShown
      have hMem : (⟨.askModel (client.requestFor system text), answer⟩ : Exchange) ∈
          [⟨.page p.page .catalogue, .ok (.arr elements)⟩, ⟨.page p.page .title, .ok title⟩,
            ⟨.askModel (client.requestFor system text), answer⟩] := by simp
      obtain ⟨before, hAnswer⟩ := hAnswered _ hMem
      obtain ⟨reply, _, hReply, hRead, fields, rfl, hFit⟩ :=
        hGuides.model before (client.requestFor system text)
      obtain rfl : answer = .ok (.str reply) := hAnswer.symm.trans hReply
      refine ⟨elements, title, text, reply, fields, ?_, hEach, hQuestion, hRead, ⟨fields, rfl, hFit⟩,
        rfl⟩
      rw [Decision.inAnswer_reply, hRead]
      rfl

/-- What a decision that ends a task makes of the report. -/
theorem finished_eq_ok {fields : List (String × Json)} (hDone : Json.isDone fields = true)
    (hFits : (Json.obj fields).FitsTask) (steps : List Json) :
    ∃ report, finished (.obj fields) steps = .ok report ∧ report.steps = steps ∧
      (report.completed = true ↔ ((fields.lookup "error").getD .null).truthy = false) := by
  obtain ⟨_, ⟨⟩, hError⟩ := hFits
  rw [if_pos hDone] at hError
  rw [finished, Json.fieldOr_obj, Json.fieldOr_obj]
  rcases hError with hNull | ⟨error, hText⟩
  · rw [hNull]
    exact ⟨_, rfl, rfl, by simp [Json.truthy]⟩
  · rw [hText]
    exact ⟨_, rfl, rfl, by simp [Json.truthy]⟩

/-- A turn that has come to its decision is one after the earlier turns, whatever is done in it. -/
theorem Decided.exists_turn {instruction : String} {earlier : List Turn} {elements : List Json}
    {decision : Json} {w₁ : World} {made : List Exchange} (hGuides : s.Guides p.page)
    (hRun : runIn s w (p.deciding Instruction.agent
      (agentQuestion instruction (Turn.linesOf earlier))) = (.ok (elements, decision), w₁))
    (hDecided : Decided p client Instruction.agent
      (agentQuestion instruction (Turn.linesOf earlier) (s.pageUrl p.page)) (.ok (elements, decision))
      made)
    (hAnswered : ∀ e ∈ made, ∃ before, (s.respond before e.call).outcome = e.answer) :
    ∃ fields, decision = .obj fields ∧ (∀ element ∈ elements, element.IsElement) ∧
      (Json.obj fields).FitsTask ∧ ∃ title text reply,
        made = Turn.made s p client ⟨w, elements, title, text, reply, fields, w₁, [], w₁⟩ ∧
        ∀ {deeds after}, Follow s (p.doing PageAction.standardTimeout) w₁ deeds after →
          Turn.Is s p instruction earlier
            ⟨w, elements, title, text, reply, fields, w₁, deeds, after⟩ := by
  obtain ⟨_, title, text, reply, fields, ⟨⟩, hEach, hText, hRead, hFits, rfl⟩ :=
    hDecided.guided hGuides hAnswered
  obtain ⟨shown, hShown, hQuestion⟩ := bind_eq_ok_iff.mp hText
  refine ⟨fields, rfl, hEach, hFits, title, text, reply, rfl, fun hFollow => ?_⟩
  exact ⟨hRun, ⟨shown, hShown, (pure_eq_ok_iff.mp hQuestion).symm⟩, hRead, hFollow⟩

/-- Turns go on from the earlier ones, and the log and the report keep in step. -/
theorem ends_taskTurns (hGuides : s.Guides p.page) (hClient : p.client = some client)
    (instruction : String) (turns : Int) (more : Nat) (earlier : List Turn)
    (hEarlier : ∀ t ∈ earlier, t.Continues) (hCount : ((earlier.length + more : Nat) : Int) = turns) :
    Ends s w (p.taskTurns instruction turns more (earlier.length + 1)
      ⟨Turn.linesOf earlier, Turn.stepsOf earlier⟩) fun outcome made after =>
        ∃ log, Turns s p instruction w earlier log after ∧ Ending turns (earlier ++ log) outcome ∧
          made = log.flatMap (·.made s p client) := by
  -- on the turns that are left, which with those that were taken make up all turns
  induction more generalizing w earlier with
  | zero =>
      refine ends_pure ⟨[], .none, ?_, rfl⟩
      rw [List.append_nil]
      exact .spent hEarlier hCount rfl rfl ⟨_, rfl, by simp [toString]⟩
  | succ more ih =>
      have hFew : (earlier.length : Int) < turns := by omega
      rw [taskTurns]
      refine p.ends_deciding_bind hClient (agentQuestion instruction (Turn.linesOf earlier)) ?_ ?_
      · intro elements decision made w₁ hRun hDecided hAnswered
        obtain ⟨fields, rfl, hEach, hFits, title, text, reply, rfl, hTurn⟩ :=
          hDecided.exists_turn hGuides hRun hAnswered
        refine ends_go (Json.fieldOr_obj ..) ?_
        cases hDone : Json.isDone fields with
        | true =>
            obtain ⟨report, hReport, hSteps, hCompleted⟩ :=
              finished_eq_ok hDone hFits (Turn.stepsOf earlier)
            have hEnded : Ending turns
                (earlier ++ [⟨w, elements, title, text, reply, fields, w₁, [], w₁⟩]) (.ok report) :=
              .ended hEarlier hFew hDone rfl hSteps hCompleted
            rw [Json.isDone] at hDone
            rw [if_pos hDone, hReport]
            exact ends_ofExcept ⟨_, .next (hTurn .none) .none, hEnded, rfl⟩
        | false =>
            obtain ⟨_, ⟨⟩, hAsks⟩ := id hFits
            rw [if_neg (Bool.eq_false_iff.mp hDone)] at hAsks
            obtain ⟨actions, hAsked, -⟩ := PageAction.ofDecision_eq_ok hEach hAsks.1 hAsks.2
            rw [← PageAction.askedIn_obj] at hAsked
            have hOpen := hDone
            rw [Json.isDone] at hDone
            rw [if_neg (Bool.eq_false_iff.mp hDone)]
            refine ends_go hAsked (ends_bind (ends_runTurn (earlier.length + 1) actions _) ?_ ?_)
            · rintro progress _ w₂ ⟨deeds, hPerformed, rfl⟩
              cases hPerformed with
              | all hFollow hTame =>
                  -- the turn is one of the earlier ones from here on
                  have hContinues : Turn.Continues
                      ⟨w, elements, title, text, reply, fields, w₁, deeds, w₂⟩ :=
                    ⟨hOpen, hAsked, hTame⟩
                  have hRest := ih (w := w₂) _
                    (List.forall_mem_append.mpr ⟨hEarlier, List.forall_mem_singleton.mpr hContinues⟩)
                    (by rw [List.length_append, List.length_singleton]; omega)
                  rw [Turn.linesOf_concat, Turn.stepsOf_concat, List.length_append] at hRest
                  refine hRest.mono ?_
                  rintro outcome _ after ⟨log, hLog, hEnding, rfl⟩
                  rw [← List.append_cons] at hEnding
                  exact ⟨_, .next (hTurn hFollow) hLog, hEnding, rfl⟩
            · rintro fault _ w₂ ⟨deeds, hPerformed, rfl⟩
              cases hPerformed with
              | broken rest hFollow hTame hBreaks =>
                  -- the turn ends with the action that breaks the task off
                  refine ⟨_, .next (hTurn hFollow) .none, ?_, by simp [Turn.made, Turn.asked]⟩
                  exact .broken hEarlier hFew hOpen (by simpa using hAsked) rfl hTame hBreaks
      · intro fault made after hDecided hAnswered
        obtain ⟨_, _, _, _, _, ⟨⟩, -⟩ := hDecided.guided hGuides hAnswered

/-- One decision is asked for in each turn. -/
theorem Turns.filter_asksModel {earlier log : List Turn} {after : World} {instruction : String}
    (hTurns : Turns s p instruction w earlier log after) (client : ModelClient) :
    (log.flatMap (·.made s p client)).filter (·.call.asksModel) = log.map (·.asked client) := by
  induction hTurns with
  | none => rfl
  | @next earlier later t after hTurn hRest ih =>
      have hDeeds : (t.deeds.flatMap (·.made s)).filter (·.call.asksModel) = [] := by
        rw [List.filter_eq_nil_iff]
        intro e he
        rw [Call.asksModel_of_isDeedOn (isDeedOn_of_follow hTurn.follow e he)]
        exact Bool.false_ne_true
      have hOne : (t.made s p client).filter (·.call.asksModel) = [t.asked client] :=
        congrArg (t.asked client :: ·) hDeeds
      rw [List.flatMap_cons, List.filter_append, hOne, ih]
      rfl

/-- A task is worked on turn by turn, with one decision for each, until the first decision that ends it
or until the turns are spent, unless an action breaks it off. -/
theorem runTask_turns (hGuides : s.Guides p.page) (hClient : p.client = some client) {turns : Int}
    (hTurns : 0 ≤ turns) (instruction : String) (w : World) :
    Ends s w (p.runTask instruction turns) fun outcome made after =>
      ∃ log, Turns s p instruction w [] log after ∧ Ending turns log outcome ∧
        made = log.flatMap (·.made s p client) ∧
        made.filter (·.call.asksModel) = log.map (·.asked client) := by
  refine ends_go (p.needModel_eq_ok hClient _) ?_
  refine (ends_taskTurns hGuides hClient instruction turns turns.toNat [] (by simp)
    (by rw [List.length_nil, Nat.zero_add]; exact Int.toNat_of_nonneg hTurns)).mono ?_
  rintro outcome _ after ⟨log, hLog, hEnding, rfl⟩
  exact ⟨log, hLog, hEnding, rfl, hLog.filter_asksModel client⟩

/-- Here the model asks first for a click and for something that no page can do, and when it is asked
again it ends the task. -/
def dancing : Surroundings where
  respond earlier
    | .page _ .catalogue => ⟨0, .ok (.arr [])⟩
    | .askModel _ => ⟨0, .ok (.str (decision (earlier.any Call.asksModel)).compact)⟩
    | _ => ⟨0, .ok .null⟩
where
  decision (again : Bool) : Json :=
    if again then .obj [("done", .bool true)]
    else
      let click : Json := .obj [("action_type", .str "click"), ("selector", .str "#go")]
      let dance : Json := .obj [("action_type", .str "dance")]
      .obj [("actions", .arr [click, dance])]

/-- The page that dances guides its agent. -/
theorem guides_dancing : dancing.Guides 0 where
  catalogue _ := ⟨[], rfl, by simp⟩
  title _ := ⟨.null, rfl⟩
  model earlier request := by
    have hDecision (again : Bool) :
        (dancing.decision again).Writable ∧ (dancing.decision again).FitsTask := by
      cases again with
      | true => exact ⟨.obj (by decide) (by simp [Json.Writable.bool]), _, rfl, .inl rfl⟩
      | false =>
          constructor
          · refine .obj (by decide) (List.forall_mem_singleton.mpr (.arr ?_))
            simp [Json.Writable.obj, Json.Writable.str, Assoc.keys]
          · refine ⟨_, rfl, (fun hStray => by cases hStray), ?_⟩
            simp [Json.actionsIn, Json.entries, Json.IsMisfit, Json.fieldOrNull, Json.field?,
              List.lookup_cons, List.lookup_nil, Checked.optional, Checked.text, Json.truthy]
    have hRead := Decision.read_compact (hDecision (earlier.any Call.asksModel)).1
    exact ⟨_, _, rfl, hRead, (hDecision _).2⟩

/-- Two decisions are asked for, one before and one after the click. -/
theorem runTask_turns_dancing :
    let p : PageSession := { page := 0, context := 0, client := some {} }
    (dancing.Guides p.page ∧ p.client = some {} ∧ (0 : Int) ≤ 3) ∧
      (Ends dancing {} (p.runTask "Dance" 3) fun outcome made after =>
        ∃ log, Turns dancing p "Dance" {} [] log after ∧ Ending 3 log outcome ∧
          made = log.flatMap (·.made dancing p {}) ∧
          made.filter (·.call.asksModel) = log.map (·.asked {})) ∧
      (runIn dancing {} (p.runTask "Dance" 3)).2.calls.length = 7 := by
  refine ⟨⟨guides_dancing, rfl, by decide⟩, ?_, by decide +kernel⟩
  exact runTask_turns guides_dancing rfl (by decide) "Dance" {}

end PageSession

end ScenarioRunner
