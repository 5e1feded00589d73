import Mathlib.Data.List.Forall2
import ScenarioRunner.Proofs.Page.Course

/-! What may come of the replies of the model. An operation on a page ends with a result or with a
fault of the session or the page, just as long as each decision has a shape that the operation can
work with. Within these shapes no reply costs more than one attempt at a text, and no action costs a
task the steps that were taken before. -/
namespace ScenarioRunner

open Attempt

/-- Faults that an operation on a page may end with: those of the session and of the page. -/
def Fault.IsExpected (fault : Fault) : Prop :=
  fault.isBackendFault = true ∨ fault.isPageFault = true

/-- Tame faults, and those of the folder of a screenshot, which are no matter of the replies. -/
def Fault.IsBorne (tame : Fault → Prop) (fault : Fault) : Prop :=
  tame fault ∨ fault.IsFolderTrouble

def decisionsIn (replies : List String) : List Json :=
  replies.filterMap fun reply => (Decision.read reply).toOption

def LacksFolder {α : Type} (outcome : Except Fault α) : Prop :=
  ∃ fault, outcome = .error fault ∧ fault.IsFolderTrouble

/-- An operation stays within its contract just when every decision fits and the folders of its
screenshots can be made. Until a folder cannot be made, every decision fits. -/
structure WithinContract {α : Type} (fits : Json → Prop) (outcome : Except Fault α)
    (replies : List String) : Prop where
  isExpected_iff : (∀ fault, outcome = .error fault → fault.IsExpected) ↔
    (∀ v ∈ decisionsIn replies, fits v) ∧ ¬ LacksFolder outcome
  fits_of_lacksFolder : LacksFolder outcome → ∀ v ∈ decisionsIn replies, fits v

/-- Apart from folders, there is no fault or a tame one just when every decision fits. -/
def Contained {α : Type} (tame : Fault → Prop) (fits : Json → Prop) (outcome : Except Fault α)
    (replies : List String) : Prop :=
  (∀ fault, outcome = .error fault → fault.IsBorne tame) ↔ ∀ v ∈ decisionsIn replies, fits v

theorem decisionsIn_cons_of_ok {reply : String} {v : Json} (hRead : Decision.read reply = .ok v)
    (replies : List String) : decisionsIn (reply :: replies) = v :: decisionsIn replies := by
  simp [decisionsIn, hRead, Except.toOption]

/-- A reply that cannot be read holds no decision. -/
theorem decisionsIn_cons_of_error {reply : String} {fault : Fault}
    (hRead : Decision.read reply = .error fault) (replies : List String) :
    decisionsIn (reply :: replies) = decisionsIn replies := by
  simp [decisionsIn, hRead, Except.toOption]

theorem decisionsIn_append (replies more : List String) :
    decisionsIn (replies ++ more) = decisionsIn replies ++ decisionsIn more :=
  List.filterMap_append ..

/-- Trouble with a folder is a fault of neither the session nor the page. -/
theorem Fault.IsFolderTrouble.not_isExpected {fault : Fault} (hFolder : fault.IsFolderTrouble) :
    ¬ fault.IsExpected := by
  obtain ⟨trouble, rfl, -⟩ := hFolder
  rintro (h | h)
  · cases trouble <;> cases h
  · cases h

theorem Fault.isBorne_of_session {fault : Fault} (hSession : fault.isBackendFault = true) :
    fault.IsBorne Fault.IsExpected := .inl (.inl hSession)

theorem Fault.isBorne_of_page {fault : Fault} (hPage : fault.isPageFault = true) :
    fault.IsBorne Fault.IsExpected := .inl (.inr hPage)

section Contained

variable {α : Type} {tame : Fault → Prop} {fits : Json → Prop} {outcome : Except Fault α}
  {fault : Fault} {reply : String} {replies more : List String} {v : Json}

/-- With every decision fitting, a borne fault is as good as a result. -/
theorem contained_of_tame (hTame : Meets (fun _ => True) (Fault.IsBorne tame) outcome)
    (hFits : ∀ v ∈ decisionsIn replies, fits v) : Contained tame fits outcome replies := by
  refine iff_of_true ?_ hFits
  rintro fault rfl
  exact hTame

theorem contained_noReply (hTame : Meets (fun _ => True) (Fault.IsBorne tame) outcome) :
    Contained tame fits outcome [] :=
  contained_of_tame hTame (by simp [decisionsIn])

/-- A single decision that fits asks for no more than a borne outcome. -/
theorem contained_single_of_tame (hRead : Decision.read reply = .ok v)
    (hTame : Meets (fun _ => True) (Fault.IsBorne tame) outcome) (hFit : fits v) :
    Contained tame fits outcome [reply] := by
  refine contained_of_tame hTame ?_
  rw [decisionsIn_cons_of_ok hRead]
  simpa [decisionsIn] using hFit

/-- A single decision that does not fit explains a fault that is not borne. -/
theorem contained_single_of_wild (hRead : Decision.read reply = .ok v) (hWild : ¬ fault.IsBorne tame)
    (hFit : ¬ fits v) : Contained tame fits (.error fault : Except Fault α) [reply] := by
  refine iff_of_false (fun hTame => hWild (hTame fault rfl)) fun hFits => hFit (hFits v ?_)
  rw [decisionsIn_cons_of_ok hRead]
  exact List.mem_cons_self ..

/-- A reply that cannot be read is no decision that does not fit. -/
theorem contained_unread {unread : Fault} (hRead : Decision.read reply = .error unread)
    (hTame : Meets (fun _ => True) (Fault.IsBorne tame) outcome) :
    Contained tame fits outcome [reply] := by
  refine contained_of_tame hTame ?_
  rw [decisionsIn_cons_of_error hRead]
  simp [decisionsIn]

/-- Replies that fit do not count. -/
theorem Contained.after (hContained : Contained tame fits outcome more)
    (hFits : ∀ v ∈ decisionsIn replies, fits v) :
    Contained tame fits outcome (replies ++ more) := by
  rw [Contained, decisionsIn_append, List.forall_mem_append, and_iff_right hFits]
  exact hContained

/-- One more decision that fits changes nothing. -/
theorem Contained.cons (hContained : Contained tame fits outcome replies)
    (hRead : Decision.read reply = .ok v) (hFit : fits v) :
    Contained tame fits outcome (reply :: replies) := by
  rw [Contained, decisionsIn_cons_of_ok hRead, List.forall_mem_cons, and_iff_right hFit]
  exact hContained

/-- What fits apart from folders fits the contract: trouble with a folder is never expected. -/
theorem Contained.withinContract (hContained : Contained Fault.IsExpected fits outcome replies) :
    WithinContract fits outcome replies where
  isExpected_iff := by
    constructor
    · intro hExpected
      refine ⟨hContained.mp fun fault hFault => .inl (hExpected fault hFault), ?_⟩
      rintro ⟨fault, hFault, hFolder⟩
      exact hFolder.not_isExpected (hExpected fault hFault)
    · rintro ⟨hFits, hFolder⟩ fault hFault
      exact (hContained.mpr hFits fault hFault).resolve_right fun h => hFolder ⟨fault, hFault, h⟩
  fits_of_lacksFolder := by
    rintro ⟨fault, rfl, hFolder⟩
    refine hContained.mp ?_
    rintro _ ⟨⟩
    exact .inr hFolder

end Contained

theorem PageSession.isPassing_of_page {fault : Fault} (hPage : fault.isPageFault = true) :
    isPassing fault = true := by simp [isPassing, hPage]

theorem PageSession.isPassing_of_value {fault : Fault} (hValue : fault.isValueFault = true) :
    isPassing fault = true := by simp [isPassing, hValue]

theorem PageSession.isPassing_of_backend {fault : Fault} (hBackend : fault.isBackendFault = true) :
    isPassing fault = true := by simp [isPassing, hBackend]

/-- A mistype is a fault of the code, not of the session or the page. -/
theorem Fault.IsMistype.not_isExpected {fault : Fault} (hMistype : fault.IsMistype) :
    ¬ fault.IsExpected := by
  rintro (h | h) <;> cases hMistype <;> cases h

/-- A mistype is neither tame nor trouble with a folder, in a task and in an attempt alike. -/
theorem Fault.IsMistype.not_isBorne {fault : Fault} (hMistype : fault.IsMistype) :
    ¬ fault.IsBorne Fault.IsExpected := by
  rintro (h | ⟨_, h, -⟩)
  · exact hMistype.not_isExpected h
  · cases hMistype <;> cases h

/-- A mistype keeps another attempt from being made. -/
theorem Fault.IsMistype.not_isBorne_isPassing {fault : Fault} (hMistype : fault.IsMistype) :
    ¬ fault.IsBorne (PageSession.isPassing · = true) := by
  rintro (h | ⟨_, h, -⟩) <;> cases hMistype <;> cases h

/-- Misfits among the entries of a task are a fault of the code as well. -/
theorem Fault.not_isBorne_misfits (places : List String) :
    ¬ (Fault.misfits places).IsBorne Fault.IsExpected := by
  rintro ((h | h) | ⟨_, h, -⟩) <;> cases h

namespace PageAction

variable {elements : List Json} {v : Json} {fault : Fault}

/-- Actions are read only from decisions that fit. -/
theorem fitsAct_of_askedIn {actions : List PageAction} (hAsked : askedIn elements v = .ok actions) :
    v.FitsAct := by
  refine Classical.byContradiction fun hFit => ?_
  obtain ⟨fault, hError, -⟩ := askedIn_eq_error elements hFit
  cases hError.symm.trans hAsked

/-- Where actions cannot be read, the decision does not fit or has a misfit among its entries. -/
theorem misfit_of_askedIn (hElements : ∀ e ∈ elements, e.IsElement)
    (hAsked : askedIn elements v = .error fault) :
    (¬ v.FitsAct ∧ fault.IsMistype) ∨
      ∃ fields places, v = .obj fields ∧ ¬ (Json.actionsIn fields).IsStray ∧
        (∃ entry ∈ (Json.actionsIn fields).entries, entry.IsMisfit) ∧ fault = .misfits places := by
  by_cases hFit : v.FitsAct
  · right
    obtain ⟨fields, rfl, hStray⟩ := hFit
    rw [askedIn_obj] at hAsked
    have hMisfit : ∃ entry ∈ (Json.actionsIn fields).entries, entry.IsMisfit := by
      refine Classical.byContradiction fun hFits => ?_
      have hFits : ∀ entry ∈ (Json.actionsIn fields).entries, ¬ entry.IsMisfit :=
        fun entry hMem hMisfit => hFits ⟨entry, hMem, hMisfit⟩
      obtain ⟨actions, hOk, -⟩ := ofDecision_eq_ok hElements hStray hFits
      cases hOk.symm.trans hAsked
    obtain ⟨entry, hMem, hEntry⟩ := hMisfit
    obtain ⟨places, hError⟩ := ofDecision_of_isMisfit hElements hMem hEntry
    exact ⟨fields, places, rfl, hStray, ⟨entry, hMem, hEntry⟩,
      Except.error.inj (hAsked.symm.trans hError)⟩
  · obtain ⟨raised, hError, hMistype⟩ := askedIn_eq_error elements hFit
    cases Except.error.inj (hAsked.symm.trans hError)
    exact .inl ⟨hFit, hMistype⟩

/-- A turn whose actions can be read has a decision that fits. -/
theorem fitsTask_of_askedIn {fields : List (String × Json)} {actions : List PageAction}
    (hElements : ∀ e ∈ elements, e.IsElement) (hDone : Json.isDone fields = false)
    (hAsked : askedIn elements (.obj fields) = .ok actions) : (Json.obj fields).FitsTask := by
  refine ⟨fields, rfl, ?_⟩
  rw [if_neg (Bool.eq_false_iff.mp hDone)]
  obtain ⟨_, ⟨⟩, hStray⟩ := fitsAct_of_askedIn hAsked
  refine ⟨hStray, fun entry hMem hMisfit => ?_⟩
  obtain ⟨places, hError⟩ := ofDecision_of_isMisfit hElements hMem hMisfit
  cases hError.symm.trans hAsked

/-- The entries that ask for no action are passed over, and each other one gives an action. -/
theorem length_of_askedIn {fields : List (String × Json)} {actions : List PageAction}
    (hElements : ∀ e ∈ elements, e.IsElement)
    (hAsked : askedIn elements (.obj fields) = .ok actions) :
    actions.length = (Json.actionsIn fields).entries.countP Json.asksAction := by
  obtain ⟨_, ⟨⟩, hStray⟩ := fitsAct_of_askedIn hAsked
  have hFits : ∀ entry ∈ (Json.actionsIn fields).entries, ¬ entry.IsMisfit := by
    intro entry hMem hMisfit
    obtain ⟨places, hError⟩ := ofDecision_of_isMisfit hElements hMem hMisfit
    cases hError.symm.trans hAsked
  obtain ⟨read, hRead, hLength⟩ := ofDecision_eq_ok hElements hStray hFits
  cases hRead.symm.trans hAsked
  exact hLength

end PageAction

/-- A report of the end has the steps, and needs an error that is a text or nothing. -/
theorem PageSession.finished_cases (fields : List (String × Json)) (steps : List Json) :
    (((fields.lookup "error").getD .null).IsTextOrNull ∧
      ∃ report, finished (.obj fields) steps = .ok report ∧ report.steps = steps) ∨
    (¬ ((fields.lookup "error").getD .null).IsTextOrNull ∧
      finished (.obj fields) steps = .error (.misfits ["error"])) := by
  rw [finished, Json.fieldOr_obj, Json.fieldOr_obj]
  dsimp only [bind, Except.bind]
  generalize (fields.lookup "error").getD .null = error
  cases error with
  | null => exact .inl ⟨.inl rfl, _, rfl, rfl⟩
  | str text => exact .inl ⟨.inr ⟨text, rfl⟩, _, rfl, rfl⟩
  | _ =>
      refine .inr ⟨?_, rfl⟩
      rintro (h | ⟨_, h⟩) <;> cases h

/-- The entry of a report on an action: it failed if it was malformed. -/
def PageSession.IsStepOf (turn : Nat) (a : PageAction) (step : Json) : Prop :=
  ∃ failure : Option String, (({} : Progress).add turn a failure).steps = [step] ∧
    (a.IsMalformed → failure.isSome = true)

/-- Each action of a turn adds its step to those of before. -/
theorem Recorded.steps_eq {turn : Nat} {actions : List PageAction}
    {progress after : PageSession.Progress} (hRecorded : Recorded turn actions progress after) :
    ∃ steps, after.steps = progress.steps ++ steps ∧
      List.Forall₂ (PageSession.IsStepOf turn) actions steps := by
  induction hRecorded with
  | none => exact ⟨[], (List.append_nil _).symm, .nil⟩
  | @step a rest progress after failure hFailure hRest ih =>
      obtain ⟨steps, hSteps, hEach⟩ := ih
      obtain ⟨step, hStep, hAdded⟩ : ∃ step,
          (({} : PageSession.Progress).add turn a failure).steps = [step] ∧
            (progress.add turn a failure).steps = progress.steps ++ [step] := by
        cases failure <;> exact ⟨_, rfl, rfl⟩
      refine ⟨step :: steps, ?_, .cons ⟨failure, hStep, hFailure⟩ hEach⟩
      rw [hSteps, hAdded, List.append_assoc]
      rfl

section Courses

variable {s : Surroundings} {text last : String} {attempts turns : Int} {more turn : Nat}
  {progress : PageSession.Progress} {outcome : Except Fault Json} {ended : Except Fault AgentReport}
  {replies : List String} {reply : String}

/-- One attempt goes past, or succeeds, just when its decision fits. -/
theorem Attempted.contained (hServes : s.Serves) (hAttempt : Attempted s text outcome replies) :
    Contained (PageSession.isPassing · = true) Json.FitsAct outcome replies := by
  cases hAttempt with
  | noPage hPage => exact contained_noReply (.inl (PageSession.isPassing_of_page hPage))
  | unread hRead => exact contained_unread hRead (.inl rfl)
  | unusable hRead hShown hAsked =>
      rcases PageAction.misfit_of_askedIn (hServes.isElement hShown) hAsked with
        ⟨hFit, hMistype⟩ | ⟨fields, places, rfl, hStray, -, rfl⟩
      · exact contained_single_of_wild hRead hMistype.not_isBorne_isPassing hFit
      · exact contained_single_of_tame hRead (.inl rfl) ⟨fields, rfl, hStray⟩
  | idle hRead hShown hAsked =>
      exact contained_single_of_tame hRead (.inl rfl) (PageAction.fitsAct_of_askedIn hAsked)
  | useless hRead hShown hAsked hUseless hValue =>
      refine contained_single_of_tame hRead (.inl ?_) (PageAction.fitsAct_of_askedIn hAsked)
      exact PageSession.isPassing_of_value hValue
  | done hRead hShown hAsked hUseful hDone =>
      refine contained_single_of_tame hRead (hDone.mono (fun _ h => h) ?_)
        (PageAction.fitsAct_of_askedIn hAsked)
      rintro fault (hPage | hValue | hFolder)
      · exact .inl (PageSession.isPassing_of_page hPage)
      · exact .inl (PageSession.isPassing_of_value hValue)
      · exact .inr hFolder

/-- Attempts at a text go past every decision that fits, and a decision that does not fit ends them
with a fault that is not expected. -/
theorem Acted.contained (hServes : s.Serves)
    (hActed : Acted s text attempts more last outcome replies) :
    Contained Fault.IsExpected Json.FitsAct outcome replies := by
  induction hActed with
  | spent => exact contained_noReply (Fault.isBorne_of_session rfl)
  | done hAttempt =>
      refine contained_of_tame trivial ((hAttempt.contained hServes).mp ?_)
      rintro _ ⟨⟩
  | @stopped _ _ fault replies hAttempt hPassing =>
      by_cases hFolder : fault.IsFolderTrouble
      · refine contained_of_tame (.inr hFolder) ((hAttempt.contained hServes).mp ?_)
        rintro _ ⟨⟩
        exact .inr hFolder
      · have hUnfit : ¬ ∀ v ∈ decisionsIn replies, v.FitsAct := by
          intro hFits
          rcases (hAttempt.contained hServes).mpr hFits fault rfl with hPass | hTrouble
          · cases hPassing.symm.trans hPass
          · exact hFolder hTrouble
        refine iff_of_false (fun hTame => ?_) hUnfit
        rcases hTame fault rfl with (hBackend | hPage) | hTrouble
        · cases hPassing.symm.trans (PageSession.isPassing_of_backend hBackend)
        · cases hPassing.symm.trans (PageSession.isPassing_of_page hPage)
        · exact hFolder hTrouble
  | again hAttempt hPassing hRest ih =>
      refine ih.after ((hAttempt.contained hServes).mp ?_)
      rintro _ ⟨⟩
      exact .inl hPassing

/-- Working on a task goes past every decision that fits. -/
theorem Worked.contained (hServes : s.Serves)
    (hWorked : Worked s turns more turn progress ended replies) :
    Contained Fault.IsExpected Json.FitsTask ended replies := by
  induction hWorked with
  | spent => exact contained_noReply trivial
  | noPage hPage => exact contained_noReply (Fault.isBorne_of_page hPage)
  | unread hRead => exact contained_unread hRead (Fault.isBorne_of_session rfl)
  | noFields hRead hNoObject hMistype =>
      refine contained_single_of_wild hRead hMistype.not_isBorne ?_
      rintro ⟨fields, rfl, -⟩
      exact hNoObject fields rfl
  | @ended _ _ progress _ fields hRead hDone =>
      rcases PageSession.finished_cases fields progress.steps with
        ⟨hError, report, hReport, -⟩ | ⟨hError, hMisfit⟩
      · rw [hReport]
        refine contained_single_of_tame hRead trivial ⟨fields, rfl, ?_⟩
        rw [if_pos hDone]
        exact hError
      · rw [hMisfit]
        refine contained_single_of_wild hRead (Fault.not_isBorne_misfits _) ?_
        rintro ⟨_, ⟨⟩, hFit⟩
        rw [if_pos hDone] at hFit
        exact hError hFit
  | @unusable _ _ _ _ fields _ _ hRead hDone hShown hAsked =>
      rcases PageAction.misfit_of_askedIn (hServes.isElement hShown) hAsked with
        ⟨hFit, hMistype⟩ | ⟨_, places, ⟨⟩, hStray, ⟨entry, hMem, hMisfit⟩, rfl⟩
      · refine contained_single_of_wild hRead hMistype.not_isBorne ?_
        rintro ⟨_, ⟨⟩, hTask⟩
        rw [if_neg (Bool.eq_false_iff.mp hDone)] at hTask
        exact hFit ⟨fields, rfl, hTask.1⟩
      · refine contained_single_of_wild hRead (Fault.not_isBorne_misfits _) ?_
        rintro ⟨_, ⟨⟩, hTask⟩
        rw [if_neg (Bool.eq_false_iff.mp hDone)] at hTask
        exact hTask.2 entry hMem hMisfit
  | noFolder hRead hDone hShown hAsked hFolder =>
      exact contained_single_of_tame hRead (.inr hFolder)
        (PageAction.fitsTask_of_askedIn (hServes.isElement hShown) hDone hAsked)
  | turn hRead hDone hShown hAsked hRecorded hRest ih =>
      exact ih.cons hRead (PageAction.fitsTask_of_askedIn (hServes.isElement hShown) hDone hAsked)

/-- The steps that were taken before stay in the report. -/
theorem Worked.kept (hWorked : Worked s turns more turn progress ended replies)
    {report : AgentReport} (hReport : ended = .ok report) : progress.steps <+: report.steps := by
  induction hWorked with
  | spent =>
      cases hReport
      exact List.prefix_refl _
  | noPage | unread | noFields | unusable | noFolder => cases hReport
  | @ended _ _ progress _ fields hRead hDone =>
      rcases PageSession.finished_cases fields progress.steps with
        ⟨-, ended, hEnded, hSteps⟩ | ⟨-, hMisfit⟩
      · cases hEnded.symm.trans hReport
        exact hSteps ▸ List.prefix_refl _
      · cases hMisfit.symm.trans hReport
  | turn hRead hDone hShown hAsked hRecorded hRest ih =>
      obtain ⟨steps, hSteps, -⟩ := hRecorded.steps_eq
      exact (List.prefix_append _ steps).trans (hSteps ▸ ih hReport)

/-- Nothing useful can be had from a reply: it cannot be read, or its decision has a shape that can
be worked with and asks only for malformed actions, if for any, on whatever elements are shown. -/
def IsFruitless (s : Surroundings) (reply : String) : Prop :=
  ∀ v, Decision.read reply = .ok v → v.FitsAct ∧
    ∀ elements actions, s.Shows elements → PageAction.askedIn elements v = .ok actions →
      ∀ a ∈ actions, a.IsMalformed

/-- A fruitless reply is one failed attempt, and it does not keep another one from being made. -/
theorem Attempted.passing_of_isFruitless (hServes : s.Serves)
    (hAttempt : Attempted s text outcome replies) (hReply : reply ∈ replies)
    (hFruitless : IsFruitless s reply) :
    replies = [reply] ∧ ∃ fault, outcome = .error fault ∧ PageSession.isPassing fault = true := by
  cases hAttempt with
  | noPage => cases hReply
  | unread hRead =>
      cases List.mem_singleton.mp hReply
      exact ⟨rfl, _, rfl, rfl⟩
  | @unusable _ v _ fault hRead hShown hAsked =>
      cases List.mem_singleton.mp hReply
      obtain ⟨hFit, -⟩ := hFruitless v hRead
      rcases PageAction.misfit_of_askedIn (hServes.isElement hShown) hAsked with
        ⟨hUnfit, -⟩ | ⟨_, _, -, -, -, rfl⟩
      · exact absurd hFit hUnfit
      · exact ⟨rfl, _, rfl, rfl⟩
  | idle =>
      cases List.mem_singleton.mp hReply
      exact ⟨rfl, _, rfl, rfl⟩
  | useless hRead hShown hAsked hUseless hValue =>
      cases List.mem_singleton.mp hReply
      exact ⟨rfl, _, rfl, PageSession.isPassing_of_value hValue⟩
  | @done _ v elements actions _ hRead hShown hAsked hUseful hDone =>
      cases List.mem_singleton.mp hReply
      obtain ⟨a, hMem, hWell⟩ := hUseful
      exact absurd ((hFruitless v hRead).2 elements actions hShown hAsked a hMem) hWell

/-- An attempt without a reply has failed at the page. -/
theorem Attempted.passing_of_noReply (hAttempt : Attempted s text outcome []) :
    ∃ fault, outcome = .error fault ∧ PageSession.isPassing fault = true := by
  cases hAttempt with
  | noPage hPage => exact ⟨_, rfl, PageSession.isPassing_of_page hPage⟩

/-- As long as all replies are fruitless, attempts are made until none is left. -/
theorem Acted.spent_of_isFruitless (hServes : s.Serves)
    (hActed : Acted s text attempts more last outcome replies)
    (hFruitless : ∀ reply ∈ replies, IsFruitless s reply) :
    ∃ last, outcome = .error (.actFailed attempts last) := by
  have hPasses {outcome : Except Fault Json} {replies : List String}
      (hAttempt : Attempted s text outcome replies)
      (hFruitless : ∀ reply ∈ replies, IsFruitless s reply) :
      ∃ fault, outcome = .error fault ∧ PageSession.isPassing fault = true := by
    cases replies with
    | nil => exact hAttempt.passing_of_noReply
    | cons reply rest =>
        have hReply := List.mem_cons_self (a := reply) (l := rest)
        exact (hAttempt.passing_of_isFruitless hServes hReply (hFruitless reply hReply)).2
  induction hActed with
  | @spent last => exact ⟨last, rfl⟩
  | done hAttempt =>
      obtain ⟨_, h, -⟩ := hPasses hAttempt hFruitless
      cases h
  | stopped hAttempt hPassing =>
      obtain ⟨_, ⟨⟩, h⟩ := hPasses hAttempt hFruitless
      cases hPassing.symm.trans h
  | again _ _ _ ih => exact ih fun reply hMem => hFruitless reply (List.mem_append_right _ hMem)

end Courses

namespace PageSession

variable {s : Surroundings} (hServes : s.Serves) (p : PageSession)

/-- Without a model an operation ends at once, with a fault of the session. -/
theorem replied_needModel {β : Type} {operation : String} {f : ModelClient → Attempt β}
    {fits : Json → Prop} (hRest : ∀ client, p.client = some client →
      Replied s (f client) (Contained Fault.IsExpected fits)) :
    Replied s (Attempt.ofExcept (p.needModel operation) >>= f)
      (Contained Fault.IsExpected fits) := by
  cases hClient : p.client with
  | none =>
      have hNone : p.needModel operation = .error (.needsModel operation) := by
        rw [needModel, hClient]
      exact replied_stop hNone (contained_noReply (Fault.isBorne_of_session rfl))
  | some client => exact replied_go (p.needModel_eq_ok hClient _) (hRest client hClient)

include hServes

/-- An operation that makes one decision and can work with it just when it fits. -/
theorem contained_decide_bind {β : Type} {client : ModelClient} (hClient : p.client = some client)
    {instruction question : String} {f : Json → Attempt β} {fits : Json → Prop}
    (hFits : ∀ v, fits v → Quietly s (f v) (fun _ => True) fun _ => False)
    (hMisfits : ∀ v, ¬ fits v → Quietly s (f v) (fun _ => False) Fault.IsMistype) :
    Replied s (p.decide instruction question >>= f) (Contained Fault.IsExpected fits) := by
  refine p.replied_decide_bind hServes hClient (fun reply v hRead => ?_)
    fun reply fault hRead => contained_unread hRead (Fault.isBorne_of_session rfl)
  by_cases hFit : fits v
  · refine Replied.mono (hFits v hFit) ?_
    rintro outcome _ ⟨hMeets, rfl⟩
    exact contained_single_of_tame hRead (hMeets.mono (fun _ h => h) fun _ h => h.elim) hFit
  · refine Replied.mono (hMisfits v hFit) ?_
    rintro outcome _ ⟨hMeets, rfl⟩
    cases outcome with
    | ok result => exact hMeets.elim
    | error fault =>
        exact contained_single_of_wild hRead (Fault.IsMistype.not_isBorne hMeets) hFit

/-- An extraction goes through with every object, as far as its page can be read. -/
theorem contained_extract (target shape : String) :
    Replied s (p.extract target shape) (Contained Fault.IsExpected Json.FitsExtract) := by
  refine p.replied_needModel fun client hClient => ?_
  refine (p.quietly_pageText hServes fun _ h => h).bind ?_
    fun _ hPage => contained_noReply (Fault.isBorne_of_page hPage)
  rintro _ ⟨text, rfl⟩
  refine p.quietly_url.bind (fun url _ => ?_) fun _ h => h.elim
  refine replied_go rfl (p.contained_decide_bind hServes hClient ?_ fun v hFit => ?_)
  · rintro _ ⟨fields, rfl⟩
    exact quietly_of_eq_ok (Json.fieldOr_obj ..) trivial
  · obtain ⟨fault, hError, hMistype⟩ := Json.fieldOr_eq_error (not_exists.mp hFit) "data" .null
    exact quietly_of_eq_error hError hMistype

/-- An observation goes through with every object that has a list of elements, or none. -/
theorem contained_observe (target : String) :
    Replied s (p.observe target) (Contained Fault.IsExpected Json.FitsObserve) := by
  refine p.replied_needModel fun client hClient => ?_
  refine (p.quietly_elements hServes fun _ h => h).bind (fun elements hShown => ?_)
    fun _ hPage => contained_noReply (Fault.isBorne_of_page hPage)
  refine p.quietly_url.bind (fun url _ => ?_) fun _ h => h.elim
  obtain ⟨question, hQuestion⟩ := Question.observe_eq_ok (hServes.isElement hShown) target url
  refine replied_go hQuestion (p.contained_decide_bind hServes hClient (fun v hFit => ?_)
    fun v hFit => ?_)
  · obtain ⟨found, hFound⟩ := foundIn_eq_ok (hServes.isElement hShown) hFit
    exact replied_go hFound (quietly_pure trivial)
  · obtain ⟨fault, hError, hMistype⟩ := foundIn_eq_error elements hFit
    exact replied_stop hError ⟨hMistype, rfl⟩

/-- An act goes through, attempt by attempt, with decisions that fit. -/
theorem contained_act (text : String) (timeout retries : Int) (values : Assoc String) :
    Replied s (p.act text timeout retries values) (Contained Fault.IsExpected Json.FitsAct) :=
  p.replied_needModel fun _ hClient =>
    Replied.mono (p.replied_actUpTo hServes hClient text timeout values _ _ _)
      fun _ _ hActed => hActed.contained hServes

/-- A task goes through, turn by turn, with decisions that fit. -/
theorem contained_runTask (instruction : String) (turns : Int) :
    Replied s (p.runTask instruction turns) (Contained Fault.IsExpected Json.FitsTask) :=
  p.replied_needModel fun _ hClient =>
    Replied.mono (p.replied_taskTurns hServes hClient instruction turns _ _ _)
      fun _ _ hWorked => hWorked.contained hServes

/-- What the operations on a page make of the replies of the model. -/
structure Contract (s : Surroundings) (p : PageSession) : Prop where
  act : ∀ text timeout retries values,
    Replied s (p.act text timeout retries values) (WithinContract Json.FitsAct)
  extract : ∀ target shape,
    Replied s (p.extract target shape) (WithinContract Json.FitsExtract)
  observe : ∀ target, Replied s (p.observe target) (WithinContract Json.FitsObserve)
  runTask : ∀ instruction turns,
    Replied s (p.runTask instruction turns) (WithinContract Json.FitsTask)
  /-- A text is attempted once and then once more for each of the retries. -/
  attempts : ∀ client, p.client = some client → ∀ text timeout retries values,
    Replied s (p.act text timeout retries values)
      (Acted s text (retries + 1) (retries + 1).toNat "None")
  /-- A fruitless reply is one failed attempt, after which there may be another. -/
  failed : ∀ text outcome replies reply, Attempted s text outcome replies → reply ∈ replies →
    IsFruitless s reply →
      replies = [reply] ∧ ∃ fault, outcome = .error fault ∧ isPassing fault = true
  /-- Only when no attempt is left do fruitless replies make a text fail. -/
  spent : ∀ client, p.client = some client → ∀ text timeout retries values,
    Replied s (p.act text timeout retries values) fun outcome replies =>
      (∀ reply ∈ replies, IsFruitless s reply) →
        ∃ last, outcome = .error (.actFailed (retries + 1) last)
  /-- A task is worked on turn by turn. -/
  turns : ∀ client, p.client = some client → ∀ instruction turns,
    Replied s (p.runTask instruction turns) (Worked s turns turns.toNat 1 {})
  /-- Entries that ask for no action are passed over. -/
  passedOver : ∀ elements fields actions, s.Shows elements →
    PageAction.askedIn elements (.obj fields) = .ok actions →
      actions.length = (Json.actionsIn fields).entries.countP Json.asksAction
  /-- Every action of a turn is recorded, a malformed one as failed. -/
  recorded : ∀ turn actions progress after, Recorded turn actions progress after →
    ∃ steps, after.steps = progress.steps ++ steps ∧ List.Forall₂ (IsStepOf turn) actions steps
  /-- What has been recorded is in the report. -/
  kept : ∀ turns more turn progress replies report,
    Worked s turns more turn progress (.ok report) replies → progress.steps <+: report.steps

/-- On a page that does what it is asked for or raises faults of its own, every operation stays
within its contract just as long as the decisions fit and the folders of screenshots can be made. -/
theorem contract_of_serves : p.Contract s where
  act text timeout retries values :=
    (p.contained_act hServes text timeout retries values).mono fun _ _ h => h.withinContract
  extract target shape :=
    (p.contained_extract hServes target shape).mono fun _ _ h => h.withinContract
  observe target := (p.contained_observe hServes target).mono fun _ _ h => h.withinContract
  runTask instruction turns :=
    (p.contained_runTask hServes instruction turns).mono fun _ _ h => h.withinContract
  attempts _ hClient text timeout _ values :=
    replied_go (p.needModel_eq_ok hClient _)
      (p.replied_actUpTo hServes hClient text timeout values _ _ _)
  failed _ _ _ _ hAttempt hReply hFruitless :=
    hAttempt.passing_of_isFruitless hServes hReply hFruitless
  spent _ hClient text timeout _ values :=
    replied_go (p.needModel_eq_ok hClient _)
      (Replied.mono (p.replied_actUpTo hServes hClient text timeout values _ _ _)
        fun _ _ hActed hFruitless => hActed.spent_of_isFruitless hServes hFruitless)
  turns _ hClient instruction turns :=
    replied_go (p.needModel_eq_ok hClient _)
      (p.replied_taskTurns hServes hClient instruction turns _ _ _)
  passedOver _ _ _ hShown hAsked :=
    PageAction.length_of_askedIn (hServes.isElement hShown) hAsked
  recorded _ _ _ _ hRecorded := hRecorded.steps_eq
  kept _ _ _ _ _ _ hWorked := hWorked.kept rfl

omit hServes

/-- Here the page is empty and every reply of the model is an empty list. -/
def emptyList : Surroundings where
  respond _
    | .askModel _ => ⟨0, .ok (.str "[]")⟩
    | .page _ .catalogue => ⟨0, .ok (.arr [])⟩
    | .page _ .pageText => ⟨0, .ok (.str "")⟩
    | _ => ⟨0, .ok .null⟩

/-- The empty page serves. -/
theorem emptyList_serves : emptyList.Serves where
  page _ _ c _ hAnswer := by cases c <;> cases hAnswer
  catalogue _ _ _ hAnswer := by
    cases hAnswer
    exact ⟨[], rfl, by simp⟩
  pageText _ _ _ hAnswer := by
    cases hAnswer
    exact ⟨"", rfl⟩
  model _ _ := ⟨"[]", rfl⟩

/-- An empty list is no decision, and the first one ends all attempts at a text. -/
theorem contract_of_serves_emptyList :
    let p : PageSession := { page := 0, context := 0, client := some {} }
    emptyList.Serves ∧ p.Contract emptyList ∧ ∃ w fault,
      runIn emptyList {} (p.act "x" 0 2 []) = (.error fault, w) ∧ w.calls.length = 3 ∧
        ¬ fault.IsExpected := by
  refine ⟨emptyList_serves, contract_of_serves emptyList_serves _, _,
    .noAttribute "'list' object has no attribute 'get'", rfl, rfl, ?_⟩
  exact Fault.IsMistype.not_isExpected .attribute

end PageSession

end ScenarioRunner
