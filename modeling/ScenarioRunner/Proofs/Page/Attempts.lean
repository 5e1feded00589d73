import ScenarioRunner.Proofs.Page.Deciding

/-! Carrying out a text by attempts, whatever the page and the model answer. One attempt looks at the
page, comes to a decision and carries out its actions up to the first that fails; attempts follow on
one another until one of them succeeds, fails in a way that another attempt cannot get past, or is the
last. -/
namespace ScenarioRunner

open Attempt

namespace PageSession

variable {s : Surroundings} {w : World} (p : PageSession) {client : ModelClient}

/-- How actions are carried out one after another: all of them, with what they give, or up to the
first that fails. What comes after that one is left. -/
inductive Carried (s : Surroundings) (p : PageSession) (timeout : Int) (w : World) :
    List PageAction → Except Fault (List String) → List Exchange → World → Prop
  | all {deeds : List (Run PageAction (Option String))} {outputs : List (Option String)}
      {after : World} (hFollow : Follow s (p.doing timeout) w deeds after)
      (hOutputs : deeds.map (·.outcome) = outputs.map .ok) :
      Carried s p timeout w (deeds.map (·.what)) (.ok (outputs.filterMap id))
        (deeds.flatMap (·.made s)) after
  | part {deeds : List (Run PageAction (Option String))} {last : Run PageAction (Option String)}
      (rest : List PageAction) {fault : Fault} {after : World}
      (hFollow : Follow s (p.doing timeout) w (deeds ++ [last]) after)
      (hDeeds : ∀ d ∈ deeds, d.outcome.isOk = true) (hLast : last.outcome = .error fault) :
      Carried s p timeout w (deeds.map (·.what) ++ last.what :: rest) (.error fault)
        ((deeds ++ [last]).flatMap (·.made s)) after

section Carried

variable {timeout : Int} {d : Run PageAction (Option String)} {actions : List PageAction}
  {outcome : Except Fault (List String)} {made : List Exchange} {after : World} {p}

/-- One more action that succeeds before the others. -/
theorem Carried.cons {output : Option String} (hRun : d.Is s (p.doing timeout))
    (hOutcome : d.outcome = .ok output)
    (hRest : Carried s p timeout d.after actions outcome made after) :
    Carried s p timeout d.before (d.what :: actions) (outcome.map (output.toList ++ ·))
      (d.made s ++ made) after := by
  cases hRest with
  | @all deeds outputs _ hFollow hOutputs =>
      have hAll := Carried.all (.next hRun hFollow) (show _ = (output :: outputs).map Except.ok by
        rw [List.map_cons, List.map_cons, hOutcome, hOutputs])
      cases output <;> exact hAll
  | @part deeds last rest fault _ hFollow hDeeds hLast =>
      have hMore : ∀ e ∈ d :: deeds, e.outcome.isOk = true :=
        List.forall_mem_cons.mpr ⟨by rw [hOutcome]; rfl, hDeeds⟩
      exact .part rest (.next hRun hFollow) hMore hLast

/-- An action that fails is the last one. -/
theorem Carried.failed {fault : Fault} (hRun : d.Is s (p.doing timeout))
    (hOutcome : d.outcome = .error fault) (rest : List PageAction) :
    Carried s p timeout d.before (d.what :: rest) (.error fault) (d.made s) d.after := by
  have hNone : ∀ e ∈ ([] : List (Run PageAction (Option String))), e.outcome.isOk = true := by simp
  have hPart := Carried.part rest (.single hRun) hNone hOutcome
  rw [List.nil_append, List.flatMap_singleton] at hPart
  exact hPart

/-- Only deeds are asked of the page. -/
theorem Carried.forall_made (hCarried : Carried s p timeout w actions outcome made after) :
    ∀ e ∈ made, e.call.isDeedOn p.page = true := by
  cases hCarried with
  | all hFollow hOutputs => exact isDeedOn_of_follow hFollow
  | part rest hFollow hSucceeded hLast => exact isDeedOn_of_follow hFollow

end Carried

/-- All actions of a decision are carried out in order, up to the first that fails. -/
theorem ends_runAll (timeout : Int) (actions : List PageAction) :
    Ends s w (p.runAll timeout actions) (Carried s p timeout w actions) := by
  induction actions generalizing w with
  | nil =>
      have hNone := @Carried.all s p timeout w [] [] w .none rfl
      exact ends_pure hNone
  | cons a rest ih =>
      refine ends_bind (ends_run (p.doing timeout) (p.callsOnly_doing timeout a)) ?_ ?_
      · rintro output _ w₁ ⟨d, hRun, rfl, rfl⟩
        refine ends_bind ih ?_ fun fault made w₂ hRest => hRest.cons hRun rfl
        intro outputs made w₂ hRest
        refine ends_pure ?_
        rw [List.append_nil]
        exact hRest.cons hRun rfl
      · rintro fault _ w₁ ⟨d, hRun, rfl, rfl⟩
        exact .failed hRun rfl rest

def actQuestion (text : String) (values : Assoc String) (url : String) (title : Json)
    (elements : List Json) : Except Fault String :=
  Question.act text url title elements (.ofAssoc values)

/-- How one attempt at a text goes, by its exchanges and the world that it leaves. It is stopped before
it comes to a decision; or the decision cannot be worked with, or asks for nothing; or the actions that
it asks for are carried out, on the elements that this attempt has found and in their order. -/
inductive Tried (s : Surroundings) (p : PageSession) (client : ModelClient) (text : String)
    (timeout : Int) (values : Assoc String) (w : World) :
    Except Fault Json → List Exchange → World → Prop
  | stopped {fault : Fault} {made : List Exchange} {after : World}
      (hStopped : Decided p client Instruction.act (actQuestion text values (s.pageUrl p.page))
        (.error fault) made) :
      Tried s p client text timeout values w (.error fault) made after
  | unusable {elements : List Json} {decision : Json} {fault : Fault} {made : List Exchange}
      {after : World}
      (hDecided : Decided p client Instruction.act (actQuestion text values (s.pageUrl p.page))
        (.ok (elements, decision)) made)
      (hAsked : PageAction.askedIn elements decision = .error fault) :
      Tried s p client text timeout values w (.error fault) made after
  | idle {elements : List Json} {decision reasoning : Json} {made : List Exchange} {after : World}
      (hDecided : Decided p client Instruction.act (actQuestion text values (s.pageUrl p.page))
        (.ok (elements, decision)) made)
      (hAsked : PageAction.askedIn elements decision = .ok [])
      (hReasoning : decision.fieldOr "reasoning" (.str "no reasoning given") = .ok reasoning) :
      Tried s p client text timeout values w (.error (.noAction text reasoning.display)) made after
  | acted {elements : List Json} {decision reasoning : Json} {actions : List PageAction}
      {outcome : Except Fault (List String)} {made deeds : List Exchange} {w₁ after : World}
      (hRun : runIn s w (p.deciding Instruction.act (actQuestion text values)) =
        (.ok (elements, decision), w₁))
      (hDecided : Decided p client Instruction.act (actQuestion text values (s.pageUrl p.page))
        (.ok (elements, decision)) made)
      (hAsked : PageAction.askedIn elements decision = .ok actions) (hSome : actions ≠ [])
      (hCarried : Carried s p timeout w₁ actions outcome deeds after)
      (hReasoning : decision.fieldOr "reasoning" (.str "") = .ok reasoning) :
      Tried s p client text timeout values w
        (outcome.map fun outputs => .obj [("actions", .arr (actions.map (·.toJson))),
          ("outputs", .strings outputs), ("reasoning", reasoning)]) (made ++ deeds) after

/-- An attempt goes in one of these ways. -/
theorem ends_actOnce (hClient : p.client = some client) (text : String) (timeout : Int)
    (values : Assoc String) : Ends s w (p.actOnce text timeout values)
      (Tried s p client text timeout values w) := by
  refine p.ends_deciding_bind hClient (actQuestion text values) ?_
    fun fault made after hStopped _ => .stopped hStopped
  intro elements decision made w₁ hRun hDecided _
  cases hAsked : PageAction.askedIn elements decision with
  | error fault =>
      refine ends_stop hAsked ?_
      rw [List.append_nil]
      exact .unusable hDecided hAsked
  | ok actions =>
      obtain ⟨fields, rfl⟩ := PageAction.obj_of_askedIn hAsked
      refine ends_go hAsked ?_
      cases actions with
      | nil =>
          refine ends_go (Json.fieldOr_obj ..) (ends_throw ?_)
          rw [List.append_nil]
          exact .idle hDecided hAsked rfl
      | cons a rest =>
          have hActed {outcome : Except Fault (List String)} {deeds : List Exchange} {after : World}
              (hCarried : Carried s p timeout w₁ (a :: rest) outcome deeds after) :=
            Tried.acted hRun hDecided hAsked (List.cons_ne_nil a rest) hCarried (Json.fieldOr_obj ..)
          refine ends_bind (p.ends_runAll timeout (a :: rest)) ?_
            fun fault deeds after hCarried => hActed hCarried
          intro outputs deeds w₂ hCarried
          refine ends_go (Json.fieldOr_obj ..) (ends_pure ?_)
          rw [List.append_nil]
          exact hActed hCarried

section Tried

variable {text : String} {timeout : Int} {values : Assoc String} {outcome : Except Fault Json}
  {made : List Exchange} {after : World} {p}

/-- An attempt looks at the page anew, and only once. -/
theorem Tried.looksOnce (hTried : Tried s p client text timeout values w outcome made after) :
    p.LooksOnce made := by
  cases hTried with
  | stopped hStopped => exact hStopped.looksOnce
  | unusable hDecided hAsked => exact hDecided.looksOnce
  | idle hDecided hAsked hReasoning => exact hDecided.looksOnce
  | acted hRun hDecided hAsked hSome hCarried hReasoning =>
      exact hDecided.looksOnce_append hCarried.forall_made

end Tried

/-- What the last of the tries at a text makes of the whole: its result, its fault if that is one that
another try cannot get past, or else, with no try left, a fault of the session that tells how many there
were and what the last of them failed by. -/
inductive Verdict (attempts : Int) (more earlier : Nat) :
    Except Fault Json → Except Fault Json → Prop
  | done {result : Json} : Verdict attempts more earlier (.ok result) (.ok result)
  | raised {fault : Fault} (hOther : isPassing fault = false) :
      Verdict attempts more earlier (.error fault) (.error fault)
  | spent {fault failure : Fault} (hPassing : isPassing fault = true) (hSpent : earlier = more)
      (hBackend : failure.isBackendFault = true)
      (hMessage : failure.message = s!"Action failed after {attempts} attempts: {fault.message}") :
      Verdict attempts more earlier (.error fault) (.error failure)

/-- With a try more before, there were as many more to be had. -/
theorem Verdict.succ {attempts : Int} {more earlier : Nat} {last outcome : Except Fault Json}
    (hVerdict : Verdict attempts more earlier last outcome) :
    Verdict attempts (more + 1) (earlier + 1) last outcome := by
  cases hVerdict with
  | done => exact .done
  | raised hOther => exact .raised hOther
  | spent hLast hSpent hBackend hMessage =>
      exact .spent hLast (congrArg Nat.succ hSpent) hBackend hMessage

/-- The tries at a text, of which so many can follow the first: they follow on one another, and all but
the last fail in a way that another try may get past. -/
structure Tries (s : Surroundings) (p : PageSession) (text : String) (timeout : Int)
    (values : Assoc String) (attempts : Int) (more : Nat) (w : World) (outcome : Except Fault Json)
    (after : World) (earlier : List (Run Unit Json)) (last : Run Unit Json) : Prop where
  follow : Follow s (fun _ => p.actOnce text timeout values) w (earlier ++ [last]) after
  few : earlier.length ≤ more
  passing : ∀ r ∈ earlier, ∃ fault, r.outcome = .error fault ∧ isPassing fault = true
  verdict : Verdict attempts more earlier.length last.outcome outcome

section Tries

variable {text : String} {timeout : Int} {values : Assoc String} {attempts : Int} {more : Nat}
  {outcome : Except Fault Json} {w₁ after : World} {p}

/-- The first try is the last one. -/
theorem Tries.single {ended : Except Fault Json}
    (hRun : runIn s w (p.actOnce text timeout values) = (ended, w₁))
    (hVerdict : Verdict attempts more 0 ended outcome) :
    Tries s p text timeout values attempts more w outcome w₁ [] ⟨(), w, ended, w₁⟩ where
  follow := .next (r := ⟨(), w, ended, w₁⟩) hRun .none
  few := Nat.zero_le more
  passing := by simp
  verdict := hVerdict

/-- One more try before the others. -/
theorem Tries.cons {fault : Fault} {earlier : List (Run Unit Json)} {last : Run Unit Json}
    (hRun : runIn s w (p.actOnce text timeout values) = (.error fault, w₁))
    (hPassing : isPassing fault = true)
    (hRest : Tries s p text timeout values attempts more w₁ outcome after earlier last) :
    Tries s p text timeout values attempts (more + 1) w outcome after
      (⟨(), w, .error fault, w₁⟩ :: earlier) last where
  follow := .next (r := ⟨(), w, .error fault, w₁⟩) hRun hRest.follow
  few := Nat.succ_le_succ hRest.few
  passing := List.forall_mem_cons.mpr ⟨⟨fault, rfl, hPassing⟩, hRest.passing⟩
  verdict := hRest.verdict.succ

end Tries

/-- One try, and then further ones if it has failed in a way that they may get past. -/
theorem runIn_actUpTo (text : String) (timeout : Int) (values : Assoc String) (attempts : Int)
    (more : Nat) (last : String) : runIn s w (p.actUpTo text timeout values attempts (more + 1) last) =
      match runIn s w (p.actOnce text timeout values) with
      | (.ok result, w₁) => (.ok result, w₁)
      | (.error fault, w₁) =>
        if isPassing fault then runIn s w₁ (p.actUpTo text timeout values attempts more fault.message)
        else (.error fault, w₁) := by
  have hOutcome : runIn s w (p.actOnce text timeout values).outcome =
      (.ok (runIn s w (p.actOnce text timeout values)).1,
        (runIn s w (p.actOnce text timeout values)).2) := rfl
  rw [actUpTo, runIn_bind, hOutcome]
  rcases runIn s w (p.actOnce text timeout values) with ⟨fault | result, w₁⟩
  · dsimp only
    split <;> rfl
  · rfl

/-- Every attempt after the first is one more try, with the text of the failure before it. -/
theorem exists_tries (text : String) (timeout : Int) (values : Assoc String) (attempts : Int)
    (more : Nat) (before : String) : ∃ earlier last, Tries s p text timeout values attempts more w
      (runIn s w (p.actUpTo text timeout values attempts (more + 1) before)).1
      (runIn s w (p.actUpTo text timeout values attempts (more + 1) before)).2 earlier last := by
  -- on the tries that may follow this one; if it makes room for them, they follow on it
  induction more generalizing w before with
  | zero =>
      rw [runIn_actUpTo]
      rcases hRun : runIn s w (p.actOnce text timeout values) with ⟨fault | result, w₁⟩
      · dsimp only
        split
        · rename_i hPassing
          exact ⟨[], _, .single hRun (.spent hPassing rfl rfl rfl)⟩
        · rename_i hOther
          exact ⟨[], _, .single hRun (.raised (Bool.eq_false_iff.mpr hOther))⟩
      · exact ⟨[], _, .single hRun .done⟩
  | succ more ih =>
      rw [runIn_actUpTo]
      rcases hRun : runIn s w (p.actOnce text timeout values) with ⟨fault | result, w₁⟩
      · dsimp only
        split
        · rename_i hPassing
          obtain ⟨earlier, last, hTries⟩ := ih (w := w₁) fault.message
          exact ⟨_, last, hTries.cons hRun hPassing⟩
        · rename_i hOther
          exact ⟨[], _, .single hRun (.raised (Bool.eq_false_iff.mpr hOther))⟩
      · exact ⟨[], _, .single hRun .done⟩

/-- A text is carried out by tries, the first of which is always made and of which at most `retries`
others follow. Each is an attempt on its own, with a look at the page and at most one decision. Without
a model nothing is done at all. -/
theorem act_tries {retries : Int} (hRetries : 0 ≤ retries) (s : Surroundings) (w : World)
    (p : PageSession) (text : String) (timeout : Int) (values : Assoc String) :
    (p.client = none →
      runIn s w (p.act text timeout retries values) = (.error (.needsModel "act"), w)) ∧
    ∀ client, p.client = some client → ∃ earlier last,
      Tries s p text timeout values (retries + 1) retries.toNat w
        (runIn s w (p.act text timeout retries values)).1
        (runIn s w (p.act text timeout retries values)).2 earlier last ∧
      ∀ r ∈ earlier ++ [last],
        Tried s p client text timeout values r.before r.outcome (r.made s) r.after ∧
          p.LooksOnce (r.made s) := by
  constructor
  · intro hNone
    rw [act, needModel, hNone]
    rfl
  · intro client hClient
    have hMore : (retries + 1).toNat = retries.toNat + 1 := by omega
    have hAct : runIn s w (p.act text timeout retries values) = runIn s w
        (p.actUpTo text timeout values (retries + 1) (retries.toNat + 1) "None") := by
      rw [act, p.needModel_eq_ok hClient, hMore]
      rfl
    rw [hAct]
    obtain ⟨earlier, last, hTries⟩ :=
      p.exists_tries (s := s) (w := w) text timeout values (retries + 1) retries.toNat "None"
    refine ⟨earlier, last, hTries, fun r hMem => ?_⟩
    have hRun := hTries.follow.is_of_mem r hMem
    have hTried := hRun.way (p.ends_actOnce hClient text timeout values)
    exact ⟨hTried, hTried.looksOnce⟩

/-- Here the page does not show its elements at first, and the first reply of the model is no
decision. -/
def hesitant : Surroundings where
  respond earlier
    | .page _ .catalogue =>
      if earlier.isEmpty then ⟨0, .error (.reported .page "Target closed")⟩
      else ⟨0, .ok (.arr [.obj [("selector", .str "#go")]])⟩
    | .askModel _ =>
      let entry : Json := .obj [("action_type", .str "click"), ("element_index", .int 0)]
      let decision : Json := .obj [("actions", .arr [entry])]
      ⟨0, .ok (.str (if earlier.any Call.asksModel then decision.compact else "no idea"))⟩
    | _ => ⟨0, .ok .null⟩

/-- The third try succeeds. -/
theorem act_tries_hesitant :
    let p : PageSession := { page := 0, context := 0, client := some {} }
    let run := runIn hesitant {} (p.act "Press go" 500 2 [])
    (0 : Int) ≤ 2 ∧ (∃ earlier last,
      Tries hesitant p "Press go" 500 [] (2 + 1) 2 {} run.1 run.2 earlier last ∧
      ∀ r ∈ earlier ++ [last],
        Tried hesitant p {} "Press go" 500 [] r.before r.outcome (r.made hesitant) r.after ∧
          p.LooksOnce (r.made hesitant)) ∧
    run.map (·.isOk) (·.calls.length) = (true, 8) := by
  refine ⟨by decide, ?_, by decide +kernel⟩
  exact (act_tries (by decide) hesitant {} _ "Press go" 500 []).2 {} rfl

end PageSession

end ScenarioRunner
