import ScenarioRunner.Proofs.Calls
import ScenarioRunner.Proofs.Debugger.Agreement
import ScenarioRunner.Proofs.File.Tree
import ScenarioRunner.Proofs.Provider.Step
import ScenarioRunner.Proofs.Suite

/-! How a run of a suite comes to its end. Whatever became of its cases, all sessions are closed
once the last of them is done, and then the history is exported with all that the cases left in it;
only after that does the run fail with the fault of a case, or write its report. -/
namespace ScenarioRunner

namespace Runner

/-- What became of the steps of a case: the records of those that succeeded, and how it ended. -/
structure Passage where
  records : List Record
  ending : CourseEnd

namespace Passage

def all (passage : Passage) : List Record := passage.records ++ passage.ending.records

/-- The fault of the step of which there is no record. -/
def fault? (passage : Passage) : Option Fault :=
  match passage.ending with
  | .raised fault => some fault
  | _ => none

end Passage

/-- Cases are run one after another, each on the course of its steps, whatever became of the ones
before it. -/
inductive Ran (e : Executor) (context : Context) (s : Surroundings) :
    History → World → List TestCase → List Passage → History → World → Prop
  | nil {h : History} {w : World} : Ran e context s h w [] [] h w
  | cons {h h₁ h' : History} {w w₁ w' : World} {case : TestCase} {rest : List TestCase}
      {passage : Passage} {passages : List Passage}
      (hCase : Course (e.executeStep context) s h w case.steps passage.records passage.ending h₁ w₁)
      (hRest : Ran e context s h₁ w₁ rest passages h' w') :
      Ran e context s h w (case :: rest) (passage :: passages) h' w'

variable {e : Executor} {context : Context} {s : Surroundings} {h h' : History} {w w' : World}
  {cases : List TestCase} {passages : List Passage}

theorem exists_ran (e : Executor) (context : Context) (s : Surroundings) (h : History) (w : World)
    (cases : List TestCase) : ∃ passages h' w', Ran e context s h w cases passages h' w' := by
  induction cases generalizing h w with
  | nil => exact ⟨[], h, w, .nil⟩
  | cons case rest ih =>
      obtain ⟨records, ending, h₁, w₁, hCase⟩ :=
        Course.exists_course (e.executeStep context) s h w case.steps
      obtain ⟨passages, h', w', hRest⟩ := ih h₁ w₁
      exact ⟨⟨records, ending⟩ :: passages, h', w', .cons hCase hRest⟩

/-- The history grows by all records that were made, case after case. -/
theorem Ran.records_history (hRan : Ran e context s h w cases passages h' w') :
    h'.records = h.records ++ passages.flatMap (·.all) := by
  induction hRan with
  | nil => simp
  | cons hCase hRest ih =>
      rw [ih, hCase.records_history, List.flatMap_cons, List.append_assoc]
      rfl

/-- A case has a result with all of its records, unless one of its steps raised a fault. -/
theorem result_of_course {case : TestCase} {passage : Passage}
    (hCase : Course (e.executeStep context) s h w case.steps passage.records passage.ending h' w')
    (start clock : Nat) :
    let result := (trailOf case.steps passage.records passage.ending).map
      (resultOf case start clock)
    (∀ fault, passage.fault? = some fault → result = .error fault) ∧
      (passage.fault? = none → ∃ r, result = .ok r ∧ r.records = passage.all) := by
  obtain ⟨records, ending⟩ := passage
  cases ending with
  | passed =>
      obtain ⟨r, hResult, -, hRecords⟩ := exists_result_of_passed case start clock records
      refine ⟨by simp [Passage.fault?], fun _ => ⟨r, hResult, ?_⟩⟩
      rw [hRecords, Passage.all, CourseEnd.records, List.append_nil]
  | failed record =>
      obtain ⟨r, hResult, -, hRecords⟩ :=
        exists_result_of_failed (hCase.length_lt_of_not_passed (by simp)) start clock record
      exact ⟨by simp [Passage.fault?], fun _ => ⟨r, hResult, hRecords⟩⟩
  | raised fault =>
      refine ⟨?_, by simp [Passage.fault?]⟩
      rintro _ ⟨⟩
      rfl

/-- The first fault of all cases is what becomes of the run, and without one there are results with
all records. -/
theorem Ran.runIn_runCases (hRan : Ran e context s h w cases passages h' w') :
    ∃ outcome, Outside.runIn s w (runCases e context h cases) = ((outcome, h'), w') ∧
      (∀ fault, passages.findSome? (·.fault?) = some fault → outcome.results = .error fault) ∧
      (passages.findSome? (·.fault?) = none →
        ∃ results, outcome.results = .ok results ∧
          results.map (·.records) = passages.map (·.all)) := by
  induction hRan with
  | nil => exact ⟨_, rfl, by simp, fun _ => ⟨[], rfl, rfl⟩⟩
  | @cons h h₁ h' w w₁ w' case rest passage passages hCase hRest ih =>
      obtain ⟨others, hOthers, hRaised, hReturned⟩ := ih
      obtain ⟨hFault, hResult⟩ := result_of_course hCase w.clock w₁.clock
      refine ⟨.after ((trailOf case.steps passage.records passage.ending).map
        (resultOf case w.clock w₁.clock)) others, ?_, ?_, ?_⟩
      · rw [runCases, Outside.runIn_bind, runIn_runCase_of_course hCase, Outside.runIn_bind,
          hOthers, Outside.runIn_pure]
      · -- a fault of this case hides those of later ones, though these are run all the same
        intro fault hFirst
        cases hHere : passage.fault? with
        | some raised =>
            obtain rfl : raised = fault := by simpa [hHere] using hFirst
            rw [hFault raised hHere]
            rfl
        | none =>
            obtain ⟨r, hOk, -⟩ := hResult hHere
            rw [hOk, Outcome.after, hRaised fault (by simpa [hHere] using hFirst)]
            rfl
      · intro hNone
        obtain ⟨hHere, hLater⟩ : passage.fault? = none ∧ passages.findSome? (·.fault?) = none := by
          cases hHere : passage.fault? with
          | some raised => simp [hHere] at hNone
          | none => exact ⟨rfl, by simpa [hHere] using hNone⟩
        obtain ⟨r, hOk, hRecords⟩ := hResult hHere
        obtain ⟨results, hResults, hAll⟩ := hReturned hLater
        refine ⟨r :: results, ?_, by rw [List.map_cons, List.map_cons, hRecords, hAll]⟩
        rw [hOk, Outcome.after, hResults]
        rfl

end Runner

open Runner

/-! The export. -/

/-- An export tells all of a history: the data, the last records, and counts of all records. -/
structure History.Tells (h : History) (bundle : Json) : Prop where
  data : bundle.at? ["extractedData"] = some (.obj h.artifacts)
  recent : ∃ earlier last, h.records = earlier ++ last ∧ last.length = min 50 h.records.length ∧
    bundle.at? ["executionHistory"] = some (.arr (last.map (·.toJson)))
  stats : bundle.at? ["stats"] = some h.stats.toJson
  total : bundle.intAt? ["stats", "total_executions"] = some (h.records.length : Int)
  successful : bundle.intAt? ["stats", "successful_executions"] =
    some (h.records.countP (·.success) : Int)
  failed : bundle.intAt? ["stats", "failed_executions"] =
    some (h.records.length - h.records.countP (·.success) : Int)
  kinds : (bundle.intsAt ["stats", "execution_types"]).sum = h.records.length

theorem History.tells_bundle (h : History) (clock : Nat) :
    h.Tells (h.bundle exportLimit clock) where
  data := rfl
  recent := by
    refine ⟨h.records.take (h.records.length - 50), h.recent exportLimit, ?_, ?_, rfl⟩
    · exact (List.take_append_drop _ _).symm
    · have hLimit : exportLimit.toNat = 50 := rfl
      rw [History.recent, hLimit, List.length_drop]
      omega
  stats := rfl
  total := rfl
  successful := by
    rw [← h.successful_stats]
    rfl
  failed := by
    rw [← h.failed_stats]
    rfl
  kinds := h.sum_kinds_stats

/-! Files that are written. -/

/-- A text that could be written was written, and nothing else was done to the files. -/
theorem Outside.wrote_of_writeInto {s : Surroundings} {w w' : World} {folder file : Path}
    {text : String}
    (hRun : Outside.runIn s w (Outside.writeInto folder file text) = (.ok (), w')) :
    w.files.Wrote folder file text w'.files := by
  rw [writeInto, runIn_bind, runIn_changeFiles] at hRun
  cases hMake : w.files.makeFolders folder with
  | error trouble =>
      rw [hMake] at hRun
      cases hRun
  | ok made =>
      rw [hMake, runIn_changeFiles] at hRun
      cases hWrite : made.write file text with
      | error trouble => simp [hWrite] at hRun
      | ok files =>
          obtain rfl : { w with files } = w' := by simpa [hWrite] using hRun
          exact ⟨made, hMake, hWrite⟩

section Saving

variable {s : Surroundings} {w w' : World} {folder file path : Path} {text : String}

theorem Attempt.wrote_of_save
    (hRun : runIn s w (do onFiles (Outside.writeInto folder file text); return file) =
      (.ok path, w')) : file = path ∧ w.files.Wrote folder file text w'.files := by
  obtain ⟨_, w₁, hFiles, hEnd⟩ := runIn_bind_eq_ok hRun
  obtain ⟨hPath, rfl⟩ := Prod.mk.inj hEnd
  refine ⟨Except.ok.inj hPath, ?_⟩
  have hRead : runIn s w (onFiles (Outside.writeInto folder file text)) =
      ((Outside.runIn s w (Outside.writeInto folder file text)).1.mapError .file,
        (Outside.runIn s w (Outside.writeInto folder file text)).2) := rfl
  rcases hWrite : Outside.runIn s w (Outside.writeInto folder file text) with ⟨trouble | _, w₂⟩
  · rw [hRead, hWrite] at hFiles
    cases hFiles
  · rw [hRead, hWrite] at hFiles
    cases hFiles
    exact Outside.wrote_of_writeInto hWrite

theorem Attempt.calls_of_save {ended : Except Fault Path}
    (hRun : runIn s w (do onFiles (Outside.writeInto folder file text); return file) =
      (ended, w')) : w'.calls = w.calls := by
  have hFiles : (runIn s w (onFiles (Outside.writeInto folder file text))).2.calls = w.calls :=
    Outside.calls_writeInto s w folder file text
  rw [runIn_bind] at hRun
  rcases hWrite : runIn s w (onFiles (Outside.writeInto folder file text)) with ⟨fault | _, w₁⟩
  · rw [hWrite] at hFiles hRun
    rwa [← (Prod.mk.inj hRun).2]
  · rw [hWrite] at hFiles hRun
    rwa [← (Prod.mk.inj hRun).2]

theorem History.wrote_of_exportTo {h : History} {limit : Int}
    (hRun : Attempt.runIn s w (h.exportTo none limit) = (.ok path, w')) :
    w.files.Wrote path.parent path (h.bundle limit w.clock).indented w'.files ∧
      w'.calls = w.calls := by
  rw [exportTo] at hRun
  obtain ⟨clock, w₁, hClock, hRun⟩ := Attempt.runIn_bind_eq_ok hRun
  obtain ⟨rfl, rfl⟩ : w.clock = clock ∧ w = w₁ := by simpa using hClock
  obtain ⟨rfl, hWrote⟩ := Attempt.wrote_of_save hRun
  exact ⟨hWrote, Attempt.calls_of_save hRun⟩

theorem Report.wrote_of_write {report : Report} {dir : Path}
    (hRun : Attempt.runIn s w (report.write dir) = (.ok path, w')) :
    w.files.Wrote dir path report.toJson.indented w'.files := by
  obtain ⟨rfl, hWrote⟩ := Attempt.wrote_of_save hRun
  exact hWrote

theorem Report.calls_of_write {report : Report} {dir : Path} {ended : Except Fault Path}
    (hRun : Attempt.runIn s w (report.write dir) = (ended, w')) : w'.calls = w.calls :=
  Attempt.calls_of_save hRun

end Saving

/-! Closing. -/

/-- The files stay as they are, whatever comes of the computation. -/
def Attempt.SparesFiles {α : Type} (x : Attempt α) : Prop :=
  ∀ s w, (runIn s w x).2.files = w.files

theorem Attempt.sparesFiles_bind {α β : Type} {x : Attempt α} {f : α → Attempt β}
    (hFirst : SparesFiles x) (hRest : ∀ a, SparesFiles (f a)) : SparesFiles (x >>= f) := by
  intro s w
  have hHere := hFirst s w
  rw [runIn_bind]
  rcases hRun : runIn s w x with ⟨fault | a, w₁⟩
  · rwa [hRun] at hHere
  · rw [hRun] at hHere
    rw [hRest a s w₁, hHere]

section

open Attempt

theorem PageSession.sparesFiles_closeEach (sessions : List PageSession) :
    SparesFiles (closeEach sessions) := by
  induction sessions with
  | nil => exact fun _ _ => rfl
  | cons p rest ih =>
      have hClose : SparesFiles p.close :=
        sparesFiles_bind (fun _ _ => rfl) fun _ _ _ => rfl
      exact sparesFiles_bind hClose fun _ => ih

theorem PageSession.sparesFiles_closeAll : SparesFiles closeAll := by
  have hDriver : SparesFiles (do
      if (← get).holdings.driver then
        let _ ← Attempt.call .stopDriver
        Outside.changeHoldings fun h => { h with driver := false } : Attempt Unit) := by
    refine sparesFiles_bind (fun _ _ => rfl) fun w => ?_
    split
    · exact sparesFiles_bind (fun _ _ => rfl) fun _ _ _ => rfl
    · exact fun _ _ => rfl
  refine sparesFiles_bind (fun _ _ => rfl) fun w =>
    sparesFiles_bind (sparesFiles_closeEach _) fun _ => sparesFiles_bind (fun _ _ => rfl) fun _ =>
      sparesFiles_bind (fun _ _ => rfl) fun w => ?_
  dsimp only
  split
  · exact sparesFiles_bind (fun _ _ => rfl) fun _ =>
      sparesFiles_bind (fun _ _ => rfl) fun _ => hDriver
  · exact hDriver

theorem Provider.sparesFiles_closeAll (provider : Provider) : SparesFiles provider.closeAll := by
  cases provider with
  | given => exact sparesFiles_bind (fun _ _ => rfl) fun _ _ _ => rfl
  | browser settings => exact PageSession.sparesFiles_closeAll

end

/-- The calls by which a provider closes all that is held in a world, and the world after that. One
from outside is told so once; with a browser of its own, it closes every context, the browser and
the driver, once each. -/
def Provider.Closes (s : Surroundings) (w : World) (made : List Call) (after : World) :
    Provider → Prop
  | given => made = [.closeSessions]
  | browser _ =>
    PageSession.Closed w.holdings (.ok ()) (s.exchanges w.calls made) after.holdings

theorem Provider.exists_closes {provider : Provider} {s : Surroundings} {w after : World}
    (hClosed : Attempt.runIn s w provider.closeAll = (.ok (), after)) :
    ∃ made, after.calls = w.calls ++ made ∧ provider.Closes s w made after := by
  cases provider with
  | given =>
      obtain ⟨v, w₁, hCall, hEnd⟩ := Attempt.runIn_bind_eq_ok hClosed
      obtain ⟨-, rfl⟩ := Prod.mk.inj hEnd
      obtain ⟨-, rfl⟩ := Prod.mk.inj hCall
      exact ⟨[.closeSessions], rfl, rfl⟩
  | browser settings =>
      have hEnds : Attempt.Ends s w PageSession.closeAll fun outcome made after =>
          PageSession.Closed w.holdings outcome made after.holdings := PageSession.ends_closeAll w
      obtain ⟨made, hCalls, hMade⟩ := hEnds
      have hRun : Attempt.runIn s w PageSession.closeAll = (.ok (), after) := hClosed
      rw [hRun] at hCalls hMade
      exact ⟨made, hCalls, hMade⟩

namespace Suite

variable {suite : Suite} {s : Surroundings} {files : List Path} {cases : List TestCase}
  {outcome : Outcome} {history : History} {path : Path} {w ran closed exported : World}

def reportOn (suite : Suite) (files : List Path) (outcome : Outcome) (history : History)
    (results : List CaseResult) (start clock : Nat) : Report where
  runId := suite.runId
  scenarioFiles := files.map (·.text)
  summary := .ofResults outcome.finished
  results := results
  history := some history.stats
  startedAt := Timestamp.toSecond start
  completedAt := Timestamp.toSecond clock

section Ends

variable (hCases : Scenario.ofFiles w.files files = .ok cases)
  (hRan : Outside.runIn s w (runCases suite.executor suite.context suite.history cases) =
    ((outcome, history), ran))
  (hClosed : Attempt.runIn s ran suite.executor.provider.closeAll = (.ok (), closed))
  (hExported : Attempt.runIn s closed (history.exportTo none History.exportLimit) =
    (.ok path, exported))

include hCases hRan hClosed hExported

/-- Where a case raised a fault, the export is the last thing that is done. -/
theorem runIn_complete_of_raised {fault : Fault} (hRaised : outcome.results = .error fault) :
    Attempt.runIn s w (suite.complete files) = (.error fault, exported) := by
  have hWorld : Attempt.runIn s w get = (.ok w, w) := rfl
  simp [complete, conclude, Attempt.runIn_bind, hWorld, hCases, hRan, hClosed, hExported, hRaised]

/-- Where all cases have results, the report on them is written. -/
theorem runIn_complete_of_returned {results : List CaseResult}
    (hReturned : outcome.results = .ok results) :
    let report := suite.reportOn files outcome history results w.clock exported.clock
    match Attempt.runIn s exported (report.write suite.reportDir) with
    | (.ok place, after) =>
      ∃ run, Attempt.runIn s w (suite.complete files) = (.ok run, after) ∧ run.report = report ∧
        run.result.reportPath = place ∧ run.result.exportPath = path
    | (.error fault, after) =>
      Attempt.runIn s w (suite.complete files) = (.error fault, after) := by
  have hWorld : Attempt.runIn s w get = (.ok w, w) := rfl
  rw [complete]
  simp only [conclude, reportOn, Attempt.runIn_bind, Attempt.runIn_lift, Attempt.runIn_ofExcept,
    Outside.runIn_now, hWorld, hCases, hRan, hClosed, hExported, hReturned]
  split
  · rename_i place after hWrite
    rw [hWrite]
    exact ⟨_, rfl, rfl, rfl, rfl⟩
  · rename_i fault after hWrite
    rw [hWrite]

/-- Nobody is called after the export. -/
theorem calls_complete : (Attempt.runIn s w (suite.complete files)).2.calls = exported.calls := by
  cases hResults : outcome.results with
  | error fault => rw [runIn_complete_of_raised hCases hRan hClosed hExported hResults]
  | ok results =>
      have hEnd := runIn_complete_of_returned hCases hRan hClosed hExported hResults
      dsimp only at hEnd
      split at hEnd
      · rename_i hWrite
        obtain ⟨run, hRun, -⟩ := hEnd
        rw [hRun, Report.calls_of_write hWrite]
      · rename_i hWrite
        rw [hEnd, Report.calls_of_write hWrite]

end Ends

/-- How a run ends when all could be closed and exported: the cases are done in the world `ran`, all
is closed in `closed`, and `exported` is left by the export. -/
structure Concluded (suite : Suite) (s : Surroundings) (files : List Path)
    (passages : List Passage) (history : History) (path : Path) (w ran closed exported : World) :
    Prop where
  /-- Nothing is closed before all cases are done. -/
  served : ∃ made, ran.calls = w.calls ++ made ∧ ∀ c ∈ made, c.serves = true
  /-- Then all is closed, once. -/
  closes : ∃ made, closed.calls = ran.calls ++ made ∧
    suite.executor.provider.Closes s ran made closed
  /-- Nobody is called any more. -/
  silent : (Attempt.runIn s w (suite.complete files)).2.calls = closed.calls
  records : history.records = suite.history.records ++ passages.flatMap (·.all)
  tells : history.Tells (history.bundle History.exportLimit closed.clock)
  /-- The export is all that is written once the cases are done. -/
  wrote : ran.files.Wrote path.parent path
    (history.bundle History.exportLimit closed.clock).indented exported.files
  holds : exported.files.Holds path (history.bundle History.exportLimit closed.clock).indented
  /-- The first fault of a case is that of the run, and nothing comes after the export. -/
  raised : ∀ fault, passages.findSome? (·.fault?) = some fault →
    Attempt.runIn s w (suite.complete files) = (.error fault, exported)
  /-- Without a fault the report is written, and says of the history what the export says. -/
  returned : passages.findSome? (·.fault?) = none → ∃ report : Report,
    report.results.map (·.records) = passages.map (·.all) ∧
    report.toJson.at? ["history"] =
      (history.bundle History.exportLimit closed.clock).at? ["stats"] ∧
    match Attempt.runIn s exported (report.write suite.reportDir) with
    | (.ok place, after) =>
      exported.files.Wrote suite.reportDir place report.toJson.indented after.files ∧
        after.files.Holds place report.toJson.indented ∧
        ∃ run, Attempt.runIn s w (suite.complete files) = (.ok run, after) ∧ run.report = report ∧
          run.result.reportPath = place ∧ run.result.exportPath = path
    | (.error fault, after) => Attempt.runIn s w (suite.complete files) = (.error fault, after)

/-- A run is always closed and exported. Whatever its cases come to, its provider and its sessions
do, all is closed once the last case is done and its history exported after that; then the first
fault of a case is raised, or the report is written. -/
theorem complete_concludes (hCases : Scenario.ofFiles w.files files = .ok cases)
    (hRan : Outside.runIn s w (runCases suite.executor suite.context suite.history cases) =
      ((outcome, history), ran))
    (hClosed : Attempt.runIn s ran suite.executor.provider.closeAll = (.ok (), closed))
    (hExported : Attempt.runIn s closed (history.exportTo none History.exportLimit) =
      (.ok path, exported)) :
    ∃ passages, Ran suite.executor suite.context s suite.history w cases passages history ran ∧
      suite.Concluded s files passages history path w ran closed exported := by
  -- the passages are those of the run, as running the cases has one outcome
  obtain ⟨passages, h', w', hPassages⟩ :=
    exists_ran suite.executor suite.context s suite.history w cases
  obtain ⟨outcome', hSame, hRaised, hReturned⟩ := hPassages.runIn_runCases
  rw [hRan] at hSame
  obtain ⟨⟨rfl, rfl⟩, rfl⟩ : (outcome = outcome' ∧ history = h') ∧ ran = w' := by simpa using hSame
  obtain ⟨hWrote, hQuiet⟩ := History.wrote_of_exportTo hExported
  refine ⟨passages, hPassages, ?_⟩
  constructor
  case served =>
    have hServed := callsOnly_runCases suite.executor suite.context suite.history cases s w
    rwa [hRan] at hServed
  case closes => exact Provider.exists_closes hClosed
  case silent => rw [calls_complete hCases hRan hClosed hExported, hQuiet]
  case records => exact hPassages.records_history
  case tells => exact history.tells_bundle closed.clock
  case wrote =>
    have hFiles := suite.executor.provider.sparesFiles_closeAll s ran
    rw [hClosed] at hFiles
    rwa [hFiles] at hWrote
  case holds => exact hWrote.holds
  case raised =>
    exact fun fault hFault =>
      runIn_complete_of_raised hCases hRan hClosed hExported (hRaised fault hFault)
  case returned =>
    intro hNone
    obtain ⟨results, hResults, hRecords⟩ := hReturned hNone
    have hEnd := runIn_complete_of_returned hCases hRan hClosed hExported hResults
    refine ⟨suite.reportOn files outcome history results w.clock exported.clock, hRecords, rfl, ?_⟩
    split
    · rename_i place after hWrite
      simp only [hWrite] at hEnd
      have hReport := Report.wrote_of_write hWrite
      exact ⟨hReport, hReport.holds, hEnd⟩
    · rename_i fault after hWrite
      simpa only [hWrite] using hEnd

/-- A provider that has a session for every flow but one. -/
def lacksFlow (flow : String) : Surroundings where
  respond _ c :=
    match c with
    | .openSession wanted =>
      if wanted == flow then { outcome := .error (.reported .runtime "no session") }
      else { outcome := .ok .null }
    | _ => { outcome := .ok .null }

def flowFiles : List Path := [Path.ofText "pay.txt", Path.ofText "look.txt"]

def twoFlows : World where
  files := { files := [(["pay.txt"], .text "## pay\nopen shop\n"),
    (["look.txt"], .text "## look\nopen shop\nscroll\n")] }

def flowCases : List TestCase := [⟨"pay", [], [⟨"open shop", none, "pay-flow"⟩]⟩,
  ⟨"look", [], [⟨"open shop", none, "look-flow"⟩, ⟨"scroll", none, "look-flow"⟩]⟩]

/-- A run on these files in three parts: the cases, closing, and the export. -/
def flowsRun : (Outcome × History) × World :=
  Outside.runIn (lacksFlow "pay-flow") twoFlows
    (runCases bareSuite.executor bareSuite.context bareSuite.history flowCases)

def flowsClosed : Except Fault Unit × World :=
  Attempt.runIn (lacksFlow "pay-flow") flowsRun.2 bareSuite.executor.provider.closeAll

def flowsExported : Except Fault Path × World :=
  Attempt.runIn (lacksFlow "pay-flow") flowsClosed.2
    (flowsRun.1.2.exportTo none History.exportLimit)

/-- The first case has no session. The other one is still run, and what it left in the history is
exported before the fault is raised. -/
theorem complete_concludes_lacksFlow :
    Scenario.ofFiles twoFlows.files flowFiles = .ok flowCases ∧ flowsClosed.1 = .ok () ∧
    flowsExported.1 = .ok (Path.ofText "out/export_0.json") ∧
    flowsRun.1.2.records.map (·.success) = [true, true] ∧
    Attempt.runIn (lacksFlow "pay-flow") twoFlows (bareSuite.complete flowFiles) =
      (.error (.reported .runtime "no session"), flowsExported.2) ∧
    ∃ passages, bareSuite.Concluded (lacksFlow "pay-flow") flowFiles passages flowsRun.1.2
      (Path.ofText "out/export_0.json") twoFlows flowsRun.2 flowsClosed.2 flowsExported.2 := by
  have hCases : Scenario.ofFiles twoFlows.files flowFiles = .ok flowCases := by decide +kernel
  have hClosed : flowsClosed.1 = .ok () := by decide +kernel
  have hExported : flowsExported.1 = .ok (Path.ofText "out/export_0.json") := by decide +kernel
  have hFault : flowsRun.1.1.results.map (fun _ => ()) =
      .error (.reported .runtime "no session") := by decide +kernel
  have hRaised : flowsRun.1.1.results = .error (.reported .runtime "no session") := by
    cases hResults : flowsRun.1.1.results with
    | ok results => simp [hResults, Except.map] at hFault
    | error fault => simpa [hResults, Except.map] using hFault
  have hRan : flowsRun = ((flowsRun.1.1, flowsRun.1.2), flowsRun.2) := rfl
  have hShut : flowsClosed = (.ok (), flowsClosed.2) := Prod.ext hClosed rfl
  have hWrote : flowsExported = (.ok (Path.ofText "out/export_0.json"), flowsExported.2) :=
    Prod.ext hExported rfl
  obtain ⟨passages, -, hConcluded⟩ := complete_concludes hCases hRan hShut hWrote
  exact ⟨hCases, hClosed, hExported, by decide +kernel,
    runIn_complete_of_raised hCases hRan hShut hWrote hRaised, passages, hConcluded⟩

end Suite

end ScenarioRunner
