import ScenarioRunner.Proofs.Except
import ScenarioRunner.Proofs.Numeral.Binary64
import ScenarioRunner.Proofs.Script.Course

/-! How scripts fail. A script has faults of its own: for lines that cannot be read or carried out,
and for expectations that are not met. What a call to the session raises ends the script as it is.
There is one more way to fail, and it has no fault of its own: a wait that is longer than a
double-precision number of seconds can be. -/
namespace ScenarioRunner.Script

/-! Waiting. -/

/-- No number of milliseconds can be read from the value. -/
def Untimed : Reply → Prop
  | .data (.int _) | .data (.bool _) => False
  | .data (.float x) => x.isNaN = true
  | .data (.str s) => ∃ refusal, Numeral.readInteger s.toList = .error refusal
  | _ => True

/-- A wait for the value would take more seconds than a double-precision number can say, which raises
a complaint. A number with a fraction is never that large unless it is infinite. -/
inductive Overlong : Reply → String → Prop
  | infinite {x : Binary64} (hFinite : x.isFinite = false) (hNumber : x.isNaN = false) :
      Overlong (.data (.float x)) "cannot convert float infinity to integer"
  | integer {n : Int} (hLarge : Binary64.limit * 1000 ≤ n.natAbs) :
      Overlong (.data (.int n)) "integer division result too large for a float"
  | text {s : String} {n : Int} (hRead : Numeral.readInteger s.toList = .ok n)
      (hLarge : Binary64.limit * 1000 ≤ n.natAbs) :
      Overlong (.data (.str s)) "integer division result too large for a float"

theorem checkDelay_eq_error_iff {n : Int} {fault : Fault} :
    checkDelay n = .error fault ↔ Binary64.limit * 1000 ≤ n.natAbs ∧
      fault = .overflow "integer division result too large for a float" := by
  have hFinite : (Binary64.ofRatio (n < 0) n.natAbs 1000).isFinite = true ↔
      n.natAbs < Binary64.limit * 1000 := Binary64.isFinite_ofRatio_iff (n < 0) (by decide)
  rw [checkDelay]
  split_ifs with hShort
  · simpa using fun hLarge : Binary64.limit * 1000 ≤ n.natAbs =>
      absurd (hFinite.mp hShort) (not_lt.mpr hLarge)
  · have hLarge : Binary64.limit * 1000 ≤ n.natAbs := not_lt.mp (mt hFinite.mpr hShort)
    simp [hLarge, eq_comm]

theorem millis_eq_error_iff {v : Reply} {fault : Fault} :
    millis v = .error fault ↔
      Untimed v ∧ fault = .script (.badWait v.quotedText) ∨
        ∃ x, v = .data (.float x) ∧ x.isFinite = false ∧ x.isNaN = false ∧
          fault = .overflow "cannot convert float infinity to integer" := by
  rw [@eq_comm _ fault, @eq_comm _ fault]
  cases v with
  | report r => simp [millis, Untimed]
  | data v =>
      cases v with
      | null | arr | obj | bool | int => simp [millis, Untimed]
      | float x =>
          cases hNumber : x.isNaN with
          | true => simp [millis, Untimed, hNumber]
          | false => cases hFinite : x.isFinite <;> simp [millis, Untimed, hNumber, hFinite]
      | str s => cases hRead : Numeral.readInteger s.toList <;> simp [millis, Untimed, hRead]

/-- Of the values that give a number of milliseconds only integers give one that is too large. -/
theorem overlong_of_millis {v : Reply} {n : Int} (hMillis : millis v = .ok n)
    (hLarge : Binary64.limit * 1000 ≤ n.natAbs) :
    Overlong v "integer division result too large for a float" := by
  have hLimit := Binary64.limit_pos
  cases v with
  | report r => cases hMillis
  | data v =>
      cases v with
      | null | arr | obj => cases hMillis
      | bool b =>
          cases hMillis
          cases b <;> simp at hLarge <;> omega
      | int n =>
          cases hMillis
          exact .integer hLarge
      | float x =>
          rw [millis] at hMillis
          split_ifs at hMillis with hNumber hFinite
          cases hMillis
          have hSmall := Binary64.natAbs_truncate_lt_limit hFinite
          omega
      | str s =>
          cases hRead : Numeral.readInteger s.toList with
          | error refusal => simp [millis, hRead] at hMillis
          | ok m =>
              obtain rfl : m = n := by simpa [millis, hRead] using hMillis
              exact .text hRead hLarge

/-- A wait fails where no time can be read from its value, or where that is overlong. -/
theorem delay_eq_error_iff {v : Reply} {fault : Fault} :
    (do checkDelay (← millis v) : Except Fault Nat) = .error fault ↔
      Untimed v ∧ fault = .script (.badWait v.quotedText) ∨
        ∃ message, Overlong v message ∧ fault = .overflow message := by
  rw [bind_eq_error_iff, millis_eq_error_iff]
  constructor
  · rintro ((hUntimed | ⟨x, rfl, hFinite, hNumber, rfl⟩) | ⟨n, hMillis, hDelay⟩)
    · exact .inl hUntimed
    · exact .inr ⟨_, .infinite hFinite hNumber, rfl⟩
    · obtain ⟨hLarge, rfl⟩ := checkDelay_eq_error_iff.mp hDelay
      exact .inr ⟨_, overlong_of_millis hMillis hLarge, rfl⟩
  · rintro (hUntimed | ⟨message, hOverlong, rfl⟩)
    · exact .inl (.inl hUntimed)
    · cases hOverlong with
      | infinite hFinite hNumber => exact .inl (.inr ⟨_, rfl, hFinite, hNumber, rfl⟩)
      | @integer n hLarge => exact .inr ⟨n, rfl, checkDelay_eq_error_iff.mpr ⟨hLarge, rfl⟩⟩
      | @text s n hRead hLarge =>
          exact .inr ⟨n, by simp [millis, hRead], checkDelay_eq_error_iff.mpr ⟨hLarge, rfl⟩⟩

/-! Single operations. -/

/-- An expectation that its values do not meet. -/
inductive Unmet : Operation → List Reply → Expectation → Prop
  | equal {actual expected : Reply} (hDiffer : actual.text ≠ expected.text) :
      Unmet .expectEqual [actual, expected] (.equal actual.text expected.text)
  | containing {whole part : Reply} (hApart : ¬ part.text.toList <:+: whole.text.toList) :
      Unmet .expectContains [whole, part] (.containing whole.text part.text)
  | notEmpty {v : Reply} (hEmpty : v.isEmpty = true) : Unmet .expectNotEmpty [v] .notEmpty

/-- How an operation fails that needs no session. -/
inductive Balks : Operation → List Reply → Fault → Prop
  | untimed {v : Reply} (hUntimed : Untimed v) : Balks .wait [v] (.script (.badWait v.quotedText))
  | overlong {v : Reply} {message : String} (hOverlong : Overlong v message) :
      Balks .wait [v] (.overflow message)
  | unmet {operation : Operation} {args : List Reply} {failed : Expectation}
      (hUnmet : Unmet operation args failed) : Balks operation args (.expectation failed)

section

variable (s : Surroundings) (w : World) (session : Session)

theorem runIn_wait_eq_error_iff {v : Reply} {fault : Fault} {w' : World} :
    Attempt.runIn s w (perform session .wait [v]) = (.error fault, w') ↔
      (do checkDelay (← millis v) : Except Fault Nat) = .error fault ∧ w' = w := by
  rw [perform, Attempt.runIn_bind, Attempt.runIn_ofExcept, @eq_comm _ w']
  cases (do checkDelay (← millis v) : Except Fault Nat) with
  | error other => simp
  | ok ms =>
      dsimp only
      rw [Attempt.runIn_bind_return]
      simp [Except.map]

/-- What is demanded fails where it does not hold. -/
theorem runIn_demand_eq_error_iff {p : Prop} [Decidable p] {a : Reply} {failed fault : Fault}
    {w' : World} :
    Attempt.runIn s w (if p then return a else throw failed) = (.error fault, w') ↔
      (¬ p ∧ fault = failed) ∧ w' = w := by
  rw [@eq_comm _ fault, @eq_comm _ w']
  by_cases hMet : p <;> simp [hMet]

/-- An operation that needs no session fails where it balks at its values, and does nothing then. -/
theorem runIn_perform_eq_error_iff {operation : Operation} {args : List Reply} {fault : Fault}
    {w' : World} (hLocal : operation.isLocal = true) (hTakes : operation.Takes args.length) :
    Attempt.runIn s w (perform session operation args) = (.error fault, w') ↔
      Balks operation args fault ∧ w' = w := by
  obtain ⟨hLeast, hMost⟩ := hTakes
  cases operation with
  | goto | back | reload | title | act | extract | observe | agent => cases hLocal
  | wait =>
      obtain ⟨v, rfl⟩ := List.length_eq_one_iff.mp (le_antisymm hMost hLeast)
      rw [runIn_wait_eq_error_iff, delay_eq_error_iff]
      refine and_congr_left' ⟨?_, fun hBalks => ?_⟩
      · rintro (⟨hUntimed, rfl⟩ | ⟨message, hOverlong, rfl⟩)
        · exact .untimed hUntimed
        · exact .overlong hOverlong
      · cases hBalks with
        | untimed hUntimed => exact .inl ⟨hUntimed, rfl⟩
        | overlong hOverlong => exact .inr ⟨_, hOverlong, rfl⟩
        | unmet hUnmet => cases hUnmet
  | expectEqual =>
      obtain ⟨actual, expected, rfl⟩ := List.length_eq_two.mp (le_antisymm hMost hLeast)
      rw [perform, runIn_demand_eq_error_iff]
      refine and_congr_left' ⟨?_, fun hBalks => ?_⟩
      · rintro ⟨hDiffer, rfl⟩
        exact .unmet (.equal (by simpa using hDiffer))
      · cases hBalks with
        | unmet hUnmet =>
            cases hUnmet with
            | equal hDiffer => exact ⟨by simpa using hDiffer, rfl⟩
  | expectContains =>
      obtain ⟨whole, part, rfl⟩ := List.length_eq_two.mp (le_antisymm hMost hLeast)
      rw [perform, runIn_demand_eq_error_iff]
      refine and_congr_left' ⟨?_, fun hBalks => ?_⟩
      · rintro ⟨hApart, rfl⟩
        exact .unmet (.containing (mt contains_iff.mpr hApart))
      · cases hBalks with
        | unmet hUnmet =>
            cases hUnmet with
            | containing hApart => exact ⟨mt contains_iff.mp hApart, rfl⟩
  | expectNotEmpty =>
      obtain ⟨v, rfl⟩ := List.length_eq_one_iff.mp (le_antisymm hMost hLeast)
      rw [perform, ← ite_not, runIn_demand_eq_error_iff, not_not]
      refine and_congr_left' ⟨?_, fun hBalks => ?_⟩
      · rintro ⟨hEmpty, rfl⟩
        exact .unmet (.notEmpty hEmpty)
      · cases hBalks with
        | unmet hUnmet =>
            cases hUnmet with
            | notEmpty hEmpty => exact ⟨hEmpty, rfl⟩

end

/-! Single lines. -/

/-- The interpreter can make nothing of a line: its operation is unknown, it has too few or too many
arguments, or a name among them is not bound. -/
inductive Line.Unprepared (look : String → Option Reply) (line : Line) : ScriptFault → Prop
  | unknownOperation (hName : Operation.ofName? line.operation = none) :
      Unprepared look line (.unknownOperation line.number line.operation)
  | wrongCount {operation : Operation} (hName : Operation.ofName? line.operation = some operation)
      (hCount : ¬ operation.Takes line.args.length) :
      Unprepared look line (.wrongCount line.number line.operation operation.arity.1
        operation.arity.2 line.args.length)
  | unknownBinding {operation : Operation} {before after : List Arg} {name : String}
      (hName : Operation.ofName? line.operation = some operation)
      (hCount : operation.Takes line.args.length) (hArgs : line.args = before ++ .ref name :: after)
      (hBefore : ∀ arg ∈ before, (arg.value? look).isSome = true) (hUnbound : look name = none) :
      Unprepared look line (.unknownBinding name)

/-- The line calls for an operation on values, which are as many as it takes. -/
structure Line.Means (look : String → Option Reply) (line : Line) (operation : Operation)
    (args : List Reply) : Prop where
  known : Operation.ofName? line.operation = some operation
  count : operation.Takes line.args.length
  values : line.args.map (·.value? look) = args.map some

/-- How a line fails: nothing can be made of it, its operation balks, or the session raises something
when it is called. -/
inductive Line.FailsWith (s : Surroundings) (session : Session) (look : String → Option Reply)
    (w : World) (line : Line) : Fault → World → Prop
  | unprepared {fault : ScriptFault} (hLine : line.Unprepared look fault) :
      FailsWith s session look w line (.script fault) w
  | balked {operation : Operation} {args : List Reply} {fault : Fault}
      (hLine : line.Means look operation args) (hBalks : Balks operation args fault) :
      FailsWith s session look w line fault w
  | raised {operation : Operation} {args : List Reply} {call : SessionCall} {fault : Fault}
      {w' : World} (hLine : line.Means look operation args)
      (hCall : operation.call? args = some call)
      (hRaised : Attempt.runIn s w (serve session call) = (.error fault, w')) :
      FailsWith s session look w line fault w'

section

variable {s : Surroundings} {w w' : World} {session : Session} {look : String → Option Reply}
  {line : Line} {fault : Fault}

theorem Balks.isLocal {operation : Operation} {args : List Reply} (h : Balks operation args fault) :
    operation.isLocal = true := by
  cases h with
  | untimed | overlong => rfl
  | unmet hUnmet => cases hUnmet <;> rfl

theorem Line.Means.takes {operation : Operation} {args : List Reply}
    (h : line.Means look operation args) : operation.Takes args.length := by
  have hLength : line.args.length = args.length := by simpa using congrArg List.length h.values
  exact hLength ▸ h.count

theorem Line.FailsWith.exists_fares (h : line.FailsWith s session look w fault w') :
    ∃ asked, Fares s session look w line asked (.error fault) w' := by
  cases h with
  | unprepared hLine =>
      cases hLine with
      | unknownOperation hName => exact ⟨none, .unknownOperation hName⟩
      | wrongCount hName hCount => exact ⟨none, .wrongCount hName hCount⟩
      | unknownBinding hName hCount hArgs hBefore hUnbound =>
          exact ⟨none, .unknownBinding hName hCount hArgs hBefore hUnbound⟩
  | @balked operation args fault hLine hBalks =>
      have hRan : Attempt.runIn s w (perform session operation args) = (.error fault, w) :=
        (runIn_perform_eq_error_iff s w session hBalks.isLocal hLine.takes).mpr ⟨hBalks, rfl⟩
      have hFares : Fares s session look w line none
          (Attempt.runIn s w (perform session operation args)).1
          { w with clock := (Attempt.runIn s w (perform session operation args)).2.clock } :=
        .settled hLine.known hLine.count hLine.values hBalks.isLocal
      rw [hRan] at hFares
      exact ⟨none, hFares⟩
  | @raised operation args call fault w' hLine hCall hRaised =>
      have hFares : Fares s session look w line (some call)
          ((Attempt.runIn s w (serve session call)).1.map (operation.value args))
          (Attempt.runIn s w (serve session call)).2 :=
        .asked hLine.known hLine.count hLine.values hCall
      rw [hRaised] at hFares
      exact ⟨some call, hFares⟩

theorem Fares.failsWith {asked : Option SessionCall}
    (h : Fares s session look w line asked (.error fault) w') :
    line.FailsWith s session look w fault w' := by
  -- the last two ways to fare give whatever the session or the operation gives
  generalize hOutcome : Except.error fault = outcome at h
  cases h with
  | unknownOperation hName =>
      cases hOutcome
      exact .unprepared (.unknownOperation hName)
  | wrongCount hName hCount =>
      cases hOutcome
      exact .unprepared (.wrongCount hName hCount)
  | unknownBinding hName hCount hArgs hBefore hUnbound =>
      cases hOutcome
      exact .unprepared (.unknownBinding hName hCount hArgs hBefore hUnbound)
  | @asked operation args call hName hCount hArgs hCall =>
      have hRaised : (Attempt.runIn s w (serve session call)).1 = .error fault :=
        map_eq_error_iff.mp hOutcome.symm
      exact .raised ⟨hName, hCount, hArgs⟩ hCall (Prod.ext hRaised rfl)
  | @settled operation args hName hCount hArgs hLocal =>
      have hLine : line.Means look operation args := ⟨hName, hCount, hArgs⟩
      have hFails : Attempt.runIn s w (perform session operation args) = (.error fault,
          (Attempt.runIn s w (perform session operation args)).2) := Prod.ext hOutcome.symm rfl
      obtain ⟨hBalks, hWorld⟩ :=
        (runIn_perform_eq_error_iff s w session hLocal hLine.takes).mp hFails
      rw [hWorld]
      exact .balked hLine hBalks

/-- A line fails as it fares. -/
theorem Line.failsWith_iff : line.FailsWith s session look w fault w' ↔
    ∃ asked, Fares s session look w line asked (.error fault) w' :=
  ⟨fun hFails => hFails.exists_fares, fun ⟨_, hFares⟩ => hFares.failsWith⟩

end

/-! Whole scripts. -/

/-- A line of a script comes up: all lines before it have been carried out. -/
structure Comes (s : Surroundings) (session : Session) (values : Assoc String) (w : World)
    (source : String) (done : List Carried) (line : Line) (w₁ : World) : Prop where
  before : Completes s session values w done w₁
  lines : ∃ rest, read source = .ok (done.map (·.line) ++ line :: rest)

/-- A script comes to an operation on values. -/
def Reaches (s : Surroundings) (session : Session) (values : Assoc String) (w : World)
    (source : String) (operation : Operation) (args : List Reply) (w₁ : World) : Prop :=
  ∃ done line, Comes s session values w source done line w₁ ∧
    line.Means (boundTo values done) operation args

/-- How a script fails: it cannot be read, or a line that comes up fails. -/
inductive FailsWith (s : Surroundings) (session : Session) (values : Assoc String) (w : World)
    (source : String) : Fault → World → Prop
  | unread {fault : ScriptFault} (hRead : read source = .error fault) :
      FailsWith s session values w source (.script fault) w
  | stopped {done : List Carried} {line : Line} {fault : Fault} {w₁ w' : World}
      (hComes : Comes s session values w source done line w₁)
      (hLine : line.FailsWith s session (boundTo values done) w₁ fault w') :
      FailsWith s session values w source fault w'

section

variable {s : Surroundings} {w w' : World} {session : Session} {values : Assoc String}
  {source : String} {fault : Fault}

theorem Ended.runIn_run {lines : List Line} {done : List Carried} {asked : Option SessionCall}
    {outcome : Except Fault Unit} (hRead : read source = .ok lines)
    (hEnded : Ended s session values w lines done asked outcome w') :
    ∃ state : State, Outside.runIn s w (run session values source) =
      ((outcome.map fun () => state.result, state.bindings), w') := by
  obtain ⟨state, -, hRun⟩ := hEnded.runIn_runLines
  exact ⟨state, by rw [runIn_run_of_read s w session values hRead, hRun]⟩

/-- A script comes to an error just as it fails. -/
theorem failsWith_iff : FailsWith s session values w source fault w' ↔
    ∃ bindings, Outside.runIn s w (run session values source) = ((.error fault, bindings), w') := by
  constructor
  · intro hFails
    cases hFails with
    | unread hRead => exact ⟨_, runIn_run_of_unreadable hRead session values s w⟩
    | stopped hComes hLine =>
        obtain ⟨rest, hRead⟩ := hComes.lines
        obtain ⟨asked, hFares⟩ := Line.failsWith_iff.mp hLine
        obtain ⟨state, hRun⟩ := (Ended.failed hComes.before rfl hFares).runIn_run hRead
        exact ⟨state.bindings, hRun⟩
  · rintro ⟨bindings, hRan⟩
    cases hRead : read source with
    | error own =>
        rw [runIn_run_of_unreadable hRead] at hRan
        cases hRan
        exact .unread hRead
    | ok lines =>
        have hStart : Completes s session values w [] w := .start
        obtain ⟨done, asked, outcome, last, hEnded⟩ :
            ∃ done asked outcome last, Ended s session values w lines done asked outcome last :=
          exists_ended hStart lines
        obtain ⟨state, hRun⟩ := hEnded.runIn_run hRead
        rw [hRun] at hRan
        cases hEnded with
        | returned => cases hRan
        | failed hDone hLines hFares =>
            cases hRan
            exact .stopped ⟨hDone, _, hRead.trans (congrArg _ hLines)⟩
              (Line.failsWith_iff.mpr ⟨_, hFares⟩)

/-- What a session from outside raises when it is called is what it answers. -/
theorem respond_of_serve_given {operation : Operation} {args : List Reply} {call : SessionCall}
    (hCall : operation.call? args = some call)
    (hRaised : Attempt.runIn s w (serve .given call) = (.error fault, w')) :
    (s.respond w.calls (.session call)).outcome = .error fault := by
  obtain ⟨f, hServe⟩ := runIn_serve_given s w hCall
  rw [hServe] at hRaised
  exact map_eq_error_iff.mp (congrArg Prod.fst hRaised)

/-- A fault is the script's own, that of an expectation or that of a call, or else of an overlong
wait. -/
theorem FailsWith.blame (hFails : FailsWith s session values w source fault w') :
    (∃ own, fault = .script own) ∨
    (∃ operation args failed w₁, Reaches s session values w source operation args w₁ ∧
      Unmet operation args failed ∧ fault = .expectation failed) ∨
    (∃ operation args call w₁, Reaches s session values w source operation args w₁ ∧
      operation.call? args = some call ∧
      Attempt.runIn s w₁ (serve session call) = (.error fault, w')) ∨
    ∃ v message w₁, Reaches s session values w source .wait [v] w₁ ∧ Overlong v message ∧
      fault = .overflow message := by
  cases hFails with
  | unread hRead => exact .inl ⟨_, rfl⟩
  | stopped hComes hLine =>
      cases hLine with
      | unprepared hLine => exact .inl ⟨_, rfl⟩
      | raised hLine hCall hRaised =>
          exact .inr (.inr (.inl ⟨_, _, _, _, ⟨_, _, hComes, hLine⟩, hCall, hRaised⟩))
      | balked hLine hBalks =>
          cases hBalks with
          | untimed hUntimed => exact .inl ⟨_, rfl⟩
          | unmet hUnmet => exact .inr (.inl ⟨_, _, _, _, ⟨_, _, hComes, hLine⟩, hUnmet, rfl⟩)
          | overlong hOverlong =>
              exact .inr (.inr (.inr ⟨_, _, _, ⟨_, _, hComes, hLine⟩, hOverlong, rfl⟩))

end

/-- A script fails with a fault of its own, with that of an expectation that is not met, or with what
a call to the session raised, just as it was raised. Only a wait that is overlong ends it with a
fault that is none of these, and every overlong wait that it comes to does. -/
theorem run_fails (s : Surroundings) (w : World) (session : Session) (values : Assoc String)
    (source : String) :
    let ran := Outside.runIn s w (run session values source)
    (∀ fault w', ran.1.1 = .error fault ∧ ran.2 = w' ↔
      FailsWith s session values w source fault w') ∧
    (∀ fault, ran.1.1 = .error fault →
      (∃ own, fault = .script own) ∨
      (∃ operation args failed w₁, Reaches s session values w source operation args w₁ ∧
        Unmet operation args failed ∧ fault = .expectation failed) ∨
      (∃ operation args call w₁, Reaches s session values w source operation args w₁ ∧
        operation.call? args = some call ∧
        Attempt.runIn s w₁ (serve session call) = (.error fault, ran.2) ∧
        (session = .given → (s.respond w₁.calls (.session call)).outcome = .error fault)) ∨
      ∃ v message w₁, Reaches s session values w source .wait [v] w₁ ∧ Overlong v message ∧
        fault = .overflow message) ∧
    ∀ v message w₁, Reaches s session values w source .wait [v] w₁ → Overlong v message →
      ran.1.1 = .error (.overflow message) := by
  intro ran
  have hFails (fault : Fault) (w' : World) : ran.1.1 = .error fault ∧ ran.2 = w' ↔
      FailsWith s session values w source fault w' := by
    rw [failsWith_iff]
    constructor
    · rintro ⟨hFault, hWorld⟩
      exact ⟨ran.1.2, Prod.ext (Prod.ext hFault rfl) hWorld⟩
    · rintro ⟨bindings, hRan⟩
      exact ⟨congrArg (·.1.1) hRan, congrArg Prod.snd hRan⟩
  refine ⟨hFails, fun fault hFault => ?_, ?_⟩
  · rcases ((hFails fault ran.2).mp ⟨hFault, rfl⟩).blame with hOwn | hUnmet |
      ⟨operation, args, call, w₁, hReaches, hCall, hRaised⟩ | hOverlong
    · exact .inl hOwn
    · exact .inr (.inl hUnmet)
    · refine .inr (.inr (.inl ⟨operation, args, call, w₁, hReaches, hCall, hRaised, ?_⟩))
      rintro rfl
      exact respond_of_serve_given hCall hRaised
    · exact .inr (.inr (.inr hOverlong))
  · rintro v message w₁ ⟨done, line, hComes, hLine⟩ hOverlong
    exact ((hFails _ _).mpr (.stopped hComes (.balked hLine (.overlong hOverlong)))).1

def waitAsTold : String := "extract delay -> ms\nwait $ms"

theorem read_waitAsTold : read waitAsTold = .ok [⟨1, "extract", [.word "delay"], some "ms"⟩,
    ⟨2, "wait", [.ref "ms"], none⟩] :=
  toOption_eq_some_iff.mp (by decide +kernel)

/-- What the page says may be any value. -/
theorem reaches_waitAsTold (v : Json) :
    ∃ w₁, Reaches { respond := fun _ _ => { outcome := .ok v } } .given [] {} waitAsTold .wait
      [.data v] w₁ := by
  have hExtract := @Fares.asked { respond := fun _ _ => { outcome := .ok v } } .given
    (boundTo [] []) {} ⟨1, "extract", [.word "delay"], some "ms"⟩ .extract [.ofText "delay"] _
    rfl (by decide) rfl rfl
  exact ⟨_, _, _, ⟨.next .start hExtract, [], read_waitAsTold⟩, rfl, by decide, rfl⟩

/-- A number that is too large ends the script with a fault that is not its own, though the script
can be read and the page has raised nothing. -/
theorem run_fails_of_large_number :
    (Outside.runIn { respond := fun _ _ => { outcome := .ok (.int (10 ^ 312)) } } {}
      (run .given [] waitAsTold)).1.1 =
        .error (.overflow "integer division result too large for a float") := by
  obtain ⟨w₁, hReaches⟩ := reaches_waitAsTold (.int (10 ^ 312))
  exact (run_fails _ _ _ _ _).2.2 _ _ w₁ hReaches (.integer (by decide +kernel))

end ScenarioRunner.Script
