import ScenarioRunner.Proofs.Script.Assertion

/-! The course of a script. Lines are carried out one after another, each with what the lines before
it have bound, up to the first that fails. A line whose operation needs the session makes one call to
it, and no other line makes a call. -/
namespace ScenarioRunner.Script

/-! Single operations. -/

def Operation.isLocal : Operation → Bool
  | wait | expectEqual | expectContains | expectNotEmpty => true
  | _ => false

def Operation.call? : Operation → List Reply → Option SessionCall
  | goto, url :: _ => some (.navigate url)
  | back, _ => some .goBack
  | reload, _ => some .reload
  | title, _ => some .title
  | act, text :: _ => some (.act text.text none true)
  | extract, [target] => some (.extract target.text (.ofText "auto"))
  | extract, target :: shape :: _ => some (.extract target.text shape)
  | observe, target :: _ => some (.observe target.text)
  | agent, instruction :: _ => some (.runTask instruction.text)
  | _, _ => none

def Operation.value : Operation → List Reply → Reply → Reply
  | goto, url :: _, _ => url
  | _, _, answer => answer

def Operation.Takes (operation : Operation) (count : Nat) : Prop :=
  operation.arity.1 ≤ count ∧ count ≤ operation.arity.2

instance (operation : Operation) (count : Nat) : Decidable (operation.Takes count) :=
  inferInstanceAs (Decidable (_ ∧ _))

/-- What a session makes of the call of a script. -/
def serve (session : Session) : SessionCall → Attempt Reply
  | .navigate url => do
    session.navigate url
    return nothing
  | .goBack => do
    session.goBack
    return nothing
  | .reload => do
    session.reload
    return nothing
  | .title => do return .data (← session.title)
  | .act text _ _ => do return .data (← session.actForScript text)
  | .extract target shape => do return .data (← session.extract target shape)
  | .observe target => do return .data (← session.observe target)
  | .runTask instruction => session.runTask instruction

/-- Among operations with as many arguments as they take, those that need a session make a call. -/
theorem isSome_call?_iff {operation : Operation} {args : List Reply}
    (hTakes : operation.Takes args.length) :
    (operation.call? args).isSome = true ↔ operation.isLocal = false := by
  obtain ⟨hLeast, hMost⟩ := hTakes
  cases operation <;> rcases args with _ | ⟨a, _ | ⟨b, _ | ⟨c, args⟩⟩⟩ <;>
    simp_all [Operation.call?, Operation.isLocal, Operation.arity]

section

variable (s : Surroundings) (w : World) (session : Session)

/-- An operation that makes a call is over when the call is answered, or fails as the call does. -/
theorem runIn_perform_of_call {operation : Operation} {args : List Reply} {call : SessionCall}
    (hCall : operation.call? args = some call) :
    Attempt.runIn s w (perform session operation args) =
      ((Attempt.runIn s w (serve session call)).1.map (operation.value args),
        (Attempt.runIn s w (serve session call)).2) := by
  have hMap {α : Type} (e : Except Fault α) : e.map id = e := by cases e <;> rfl
  cases operation with
  | goto =>
      cases args with
      | nil => cases hCall
      | cons url rest =>
          cases hCall
          show Attempt.runIn s w (do session.navigate url; return url) = _
          rw [serve, Attempt.runIn_bind_return, Attempt.runIn_bind_return]
          cases (Attempt.runIn s w (session.navigate url)).1 <;> rfl
  | back | reload | title =>
      cases hCall
      exact Prod.ext (hMap _).symm rfl
  | act | observe | agent =>
      cases args with
      | nil => cases hCall
      | cons text rest =>
          cases hCall
          exact Prod.ext (hMap _).symm rfl
  | extract =>
      rcases args with _ | ⟨target, _ | ⟨shape, rest⟩⟩
      · cases hCall
      · cases hCall
        exact Prod.ext (hMap _).symm rfl
      · cases hCall
        exact Prod.ext (hMap _).symm rfl
  | wait | expectEqual | expectContains | expectNotEmpty => cases hCall

/-- An operation that needs no session changes nothing but the clock. -/
theorem runIn_perform_of_isLocal {operation : Operation} (hLocal : operation.isLocal = true)
    (args : List Reply) :
    (Attempt.runIn s w (perform session operation args)).2 =
      { w with clock := (Attempt.runIn s w (perform session operation args)).2.clock } := by
  rw [perform.eq_def]
  split
  case h_10 ms rest =>
      -- waiting moves the clock, unless the time cannot be read
      rw [Attempt.runIn_bind, Attempt.runIn_ofExcept]
      cases (do checkDelay (← millis ms) : Except Fault Nat) <;> rfl
  case h_11 => split <;> rfl
  case h_12 => split <;> rfl
  case h_13 => split <;> rfl
  case h_14 => rfl
  all_goals cases hLocal

/-- A call to a session that is provided from outside is made just as it is; nothing but its answer
tells what comes of it. -/
theorem runIn_serve_given {operation : Operation} {args : List Reply} {call : SessionCall}
    (hCall : operation.call? args = some call) :
    ∃ f : Json → Reply, Attempt.runIn s w (serve .given call) =
      ((Attempt.runIn s w (Session.ask call)).1.map f,
        (Attempt.runIn s w (Session.ask call)).2) := by
  cases call with
  | navigate | goBack | reload =>
      have hTwice (ask : Attempt Json) :
          Attempt.runIn s w (do (do let _ ← ask); return nothing) =
            ((Attempt.runIn s w ask).1.map fun _ => nothing, (Attempt.runIn s w ask).2) := by
        rw [Attempt.runIn_bind_return, Attempt.runIn_bind_return]
        cases (Attempt.runIn s w ask).1 <;> rfl
      exact ⟨fun _ => nothing, hTwice _⟩
  | act text values fromScript =>
      have hShape : SessionCall.act text values fromScript = .act text none true := by
        cases operation <;> rcases args with _ | ⟨a, _ | ⟨b, args⟩⟩ <;> cases hCall <;> rfl
      rw [hShape]
      exact ⟨Reply.data, Attempt.runIn_bind_return ..⟩
  | title | extract | observe | runTask => exact ⟨Reply.data, Attempt.runIn_bind_return ..⟩

theorem calls_serve_given {operation : Operation} {args : List Reply} {call : SessionCall}
    (hCall : operation.call? args = some call) :
    (Attempt.runIn s w (serve .given call)).2.calls = w.calls ++ [.session call] := by
  obtain ⟨f, hServe⟩ := runIn_serve_given s w hCall
  rw [hServe]
  rfl

end

/-! Single lines. -/

/-- What an argument stands for, if names stand for what they are looked up as. -/
def Arg.value? (look : String → Option Reply) : Arg → Option Reply
  | word text => some (.ofText text)
  | ref name => look name

/-- How a line fares in a world: the call that it makes of the session, what comes of it, and the
world that it leaves. -/
inductive Fares (s : Surroundings) (session : Session) (look : String → Option Reply) (w : World)
    (line : Line) : Option SessionCall → Except Fault Reply → World → Prop
  | unknownOperation (hName : Operation.ofName? line.operation = none) :
      Fares s session look w line none
        (.error (.script (.unknownOperation line.number line.operation))) w
  | wrongCount {operation : Operation} (hName : Operation.ofName? line.operation = some operation)
      (hCount : ¬ operation.Takes line.args.length) :
      Fares s session look w line none
        (.error (.script (.wrongCount line.number line.operation operation.arity.1
          operation.arity.2 line.args.length))) w
  | unknownBinding {operation : Operation} {before after : List Arg} {name : String}
      (hName : Operation.ofName? line.operation = some operation)
      (hCount : operation.Takes line.args.length) (hArgs : line.args = before ++ .ref name :: after)
      (hBefore : ∀ arg ∈ before, (arg.value? look).isSome = true) (hUnbound : look name = none) :
      Fares s session look w line none (.error (.script (.unknownBinding name))) w
  | asked {operation : Operation} {args : List Reply} {call : SessionCall}
      (hName : Operation.ofName? line.operation = some operation)
      (hCount : operation.Takes line.args.length)
      (hArgs : line.args.map (·.value? look) = args.map some)
      (hCall : operation.call? args = some call) :
      Fares s session look w line (some call)
        ((Attempt.runIn s w (serve session call)).1.map (operation.value args))
        (Attempt.runIn s w (serve session call)).2
  | settled {operation : Operation} {args : List Reply}
      (hName : Operation.ofName? line.operation = some operation)
      (hCount : operation.Takes line.args.length)
      (hArgs : line.args.map (·.value? look) = args.map some)
      (hLocal : operation.isLocal = true) :
      Fares s session look w line none (Attempt.runIn s w (perform session operation args)).1
        { w with clock := (Attempt.runIn s w (perform session operation args)).2.clock }

/-- All arguments stand for something, or there is a first that does not. -/
theorem exists_values (look : String → Option Reply) (args : List Arg) :
    (∃ values : List Reply, args.map (·.value? look) = values.map some) ∨
      ∃ before name after, args = before ++ .ref name :: after ∧
        (∀ arg ∈ before, (arg.value? look).isSome = true) ∧ look name = none := by
  induction args with
  | nil => exact .inl ⟨[], rfl⟩
  | cons arg rest ih =>
      cases hValue : arg.value? look with
      | none =>
          cases arg with
          | word text => cases hValue
          | ref name => exact .inr ⟨[], name, rest, rfl, by simp, hValue⟩
      | some value =>
          rcases ih with ⟨values, hValues⟩ | ⟨before, name, after, hRest, hBefore, hUnbound⟩
          · exact .inl ⟨value :: values, by simp [hValue, hValues]⟩
          · refine .inr ⟨arg :: before, name, after, by simp [hRest], ?_, hUnbound⟩
            simpa [hValue] using hBefore

section

variable {bindings : Assoc Reply} {look : String → Option Reply}
  (hLook : ∀ name, bindings.get? name = look name)

include hLook

theorem resolve_of_value? {arg : Arg} {value : Reply} (hValue : arg.value? look = some value) :
    resolve bindings arg = .ok value := by
  cases arg with
  | word text =>
      cases hValue
      rfl
  | ref name =>
      rw [Arg.value?, ← hLook] at hValue
      rw [resolve, hValue]

theorem resolve_of_unbound {name : String} (hUnbound : look name = none) :
    resolve bindings (.ref name) = .error (.unknownBinding name) := by
  rw [resolve, hLook, hUnbound]

theorem resolveAll_of_values {args : List Arg} {values : List Reply}
    (hArgs : args.map (·.value? look) = values.map some) :
    resolveAll bindings args = .ok values := by
  induction args generalizing values with
  | nil =>
      obtain rfl : values = [] := by simpa using hArgs.symm
      rfl
  | cons arg rest ih =>
      cases values with
      | nil => cases hArgs
      | cons value values =>
          obtain ⟨hValue, hRest⟩ := List.cons.inj hArgs
          rw [resolveAll, resolve_of_value? hLook hValue]
          show (do return value :: (← resolveAll bindings rest)) = _
          rw [ih hRest]
          rfl

theorem resolveAll_of_unbound {before after : List Arg} {name : String}
    (hBefore : ∀ arg ∈ before, (arg.value? look).isSome = true) (hUnbound : look name = none) :
    resolveAll bindings (before ++ .ref name :: after) = .error (.unknownBinding name) := by
  induction before with
  | nil =>
      rw [List.nil_append, resolveAll, resolve_of_unbound hLook hUnbound]
      rfl
  | cons arg before ih =>
      obtain ⟨hFirst, hRest⟩ := List.forall_mem_cons.mp hBefore
      obtain ⟨value, hValue⟩ := Option.isSome_iff_exists.mp hFirst
      rw [List.cons_append, resolveAll, resolve_of_value? hLook hValue]
      show (do return value :: (← resolveAll bindings _)) = _
      rw [ih hRest]
      rfl

end

section

variable {s : Surroundings} {w w' : World} {session : Session} {look : String → Option Reply}
  {line : Line} {asked : Option SessionCall} {outcome : Except Fault Reply}

/-- Every line fares in some way. -/
theorem exists_fares (s : Surroundings) (w : World) (session : Session)
    (look : String → Option Reply) (line : Line) :
    ∃ asked outcome w', Fares s session look w line asked outcome w' := by
  cases hName : Operation.ofName? line.operation with
  | none => exact ⟨_, _, _, .unknownOperation hName⟩
  | some operation =>
      by_cases hCount : operation.Takes line.args.length
      · rcases exists_values look line.args with
          ⟨values, hArgs⟩ | ⟨before, name, after, hArgs, hBefore, hUnbound⟩
        · have hLength : line.args.length = values.length := by
            simpa using congrArg List.length hArgs
          cases hCall : operation.call? values with
          | some call => exact ⟨_, _, _, .asked hName hCount hArgs hCall⟩
          | none =>
              have hLocal : operation.isLocal = true := by
                have hIff := isSome_call?_iff (hLength ▸ hCount)
                simpa [hCall] using hIff
              exact ⟨_, _, _, .settled hName hCount hArgs hLocal⟩
        · exact ⟨_, _, _, .unknownBinding hName hCount hArgs hBefore hUnbound⟩
      · exact ⟨_, _, _, .wrongCount hName hCount⟩

theorem prepare_of_takes {bindings : Assoc Reply} {operation : Operation}
    (hName : Operation.ofName? line.operation = some operation)
    (hCount : operation.Takes line.args.length) :
    prepare bindings line = (do return (operation, ← resolveAll bindings line.args)) := by
  have hFits : (decide (operation.arity.1 ≤ line.args.length) &&
      decide (line.args.length ≤ operation.arity.2)) = true := by simpa [Operation.Takes] using hCount
  rw [prepare, hName]
  simp only [hFits, if_true]

theorem runIn_runLine_of_error {state : State} {fault : ScriptFault}
    (hPrepare : prepare state.bindings line = .error fault) :
    Attempt.runIn s w (runLine session state line) = (.error (.script fault), w) := by
  rw [runLine, hPrepare, Attempt.runIn_bind]
  rfl

/-- A line is carried out as it fares. -/
theorem Fares.runIn_runLine {state : State} (hFares : Fares s session look w line asked outcome w')
    (hLook : ∀ name, state.bindings.get? name = look name) :
    Attempt.runIn s w (runLine session state line) = (outcome.map (state.after line), w') := by
  cases hFares with
  | unknownOperation hName =>
      apply runIn_runLine_of_error
      rw [prepare, hName]
  | @wrongCount operation hName hCount =>
      apply runIn_runLine_of_error
      have hMisfit : (decide (operation.arity.1 ≤ line.args.length) &&
          decide (line.args.length ≤ operation.arity.2)) = false := by
        simpa [Operation.Takes] using hCount
      rw [prepare, hName]
      simp [hMisfit]
  | unknownBinding hName hCount hArgs hBefore hUnbound =>
      apply runIn_runLine_of_error
      rw [prepare_of_takes hName hCount, hArgs, resolveAll_of_unbound hLook hBefore hUnbound]
      rfl
  | @asked operation args call hName hCount hArgs hCall =>
      have hPrepare : prepare state.bindings line = .ok (operation, args) := by
        rw [prepare_of_takes hName hCount, resolveAll_of_values hLook hArgs]
        rfl
      rw [Script.runIn_runLine s w session hPrepare, runIn_perform_of_call s w session hCall]
      cases (Attempt.runIn s w (serve session call)).1 <;> rfl
  | @settled operation args hName hCount hArgs hLocal =>
      have hPrepare : prepare state.bindings line = .ok (operation, args) := by
        rw [prepare_of_takes hName hCount, resolveAll_of_values hLook hArgs]
        rfl
      rw [Script.runIn_runLine s w session hPrepare, ← runIn_perform_of_isLocal s w session hLocal]
      rcases Attempt.runIn s w (perform session operation args) with ⟨fault | value, after⟩ <;> rfl

/-- A session that is provided from outside gets the call of a line, and no other call is made. -/
theorem Fares.calls_given (hFares : Fares s .given look w line asked outcome w') :
    w'.calls = w.calls ++ asked.toList.map .session := by
  cases hFares with
  | asked hName hCount hArgs hCall => exact calls_serve_given s w hCall
  | unknownOperation | wrongCount | unknownBinding | settled => simp

end

/-! Lines one after another. -/

/-- A line that was carried out, with the call that it made and the value that it gave. -/
structure Carried where
  line : Line
  asked : Option SessionCall
  value : Reply

/-- What a name stands for once lines have been carried out: the value of the last of them that binds
the name, or else the variable of this name. -/
def boundTo (values : Assoc String) (done : List Carried) (name : String) : Option Reply :=
  match done.reverse.find? fun carried => carried.line.boundName == some name with
  | some carried => some carried.value
  | none => (values.get? name).map .ofText

/-- Lines have been carried out one after another, each with what the ones before it have bound. -/
inductive Completes (s : Surroundings) (session : Session) (values : Assoc String) (w : World) :
    List Carried → World → Prop
  | start : Completes s session values w [] w
  | next {w₁ w₂ : World} {done : List Carried} {line : Line} {asked : Option SessionCall}
      {value : Reply} (hDone : Completes s session values w done w₁)
      (hLine : Fares s session (boundTo values done) w₁ line asked (.ok value) w₂) :
      Completes s session values w (done ++ [⟨line, asked, value⟩]) w₂

/-- How lines end: all have been carried out, or those before the first that fails; the lines behind
that one do nothing. -/
inductive Ended (s : Surroundings) (session : Session) (values : Assoc String) (w : World)
    (lines : List Line) : List Carried → Option SessionCall → Except Fault Unit → World → Prop
  | returned {done : List Carried} {w' : World} (hDone : Completes s session values w done w')
      (hLines : lines = done.map (·.line)) : Ended s session values w lines done none (.ok ()) w'
  | failed {done : List Carried} {w₁ w' : World} {line : Line} {rest : List Line}
      {asked : Option SessionCall} {fault : Fault} (hDone : Completes s session values w done w₁)
      (hLines : lines = done.map (·.line) ++ line :: rest)
      (hLine : Fares s session (boundTo values done) w₁ line asked (.error fault) w') :
      Ended s session values w lines done asked (.error fault) w'

/-- The interpreter stands behind lines that have been carried out. -/
structure Stands (values : Assoc String) (done : List Carried) (state : State) : Prop where
  bindings : ∀ name, state.bindings.get? name = boundTo values done name
  own : ∀ name, state.result.bindings.get? name = boundTo [] done name
  operations : state.result.operations = done.length

theorem boundTo_append (values : Assoc String) (done : List Carried) (carried : Carried)
    (name : String) :
    boundTo values (done ++ [carried]) name =
      if carried.line.boundName = some name then some carried.value
      else boundTo values done name := by
  by_cases hBinds : carried.line.boundName = some name <;>
    simp [boundTo, hBinds]

theorem stands_start (values : Assoc String) :
    Stands values [] { bindings := values.mapValues Reply.ofText } := by
  constructor
  · intro name
    show Assoc.get? _ name = (values.get? name).map Reply.ofText
    induction values with
    | nil => rfl
    | cons entry rest ih =>
        obtain ⟨key, value⟩ := entry
        by_cases hKey : name = key <;> simp_all [Assoc.mapValues, Assoc.get?_cons]
  · intro name
    rfl
  · rfl

/-- A line that was carried out is one more. -/
theorem Stands.after {values : Assoc String} {done : List Carried} {state : State}
    (hStands : Stands values done state) (carried : Carried) :
    Stands values (done ++ [carried]) (state.after carried.line carried.value) := by
  constructor
  · intro name
    rw [boundTo_append, State.after]
    cases hName : carried.line.boundName with
    | none => simpa using hStands.bindings name
    | some bound => simp [Assoc.get?_put, hStands.bindings, eq_comm]
  · intro name
    rw [boundTo_append, State.after]
    cases hName : carried.line.boundName with
    | none => simpa using hStands.own name
    | some bound => simp [Assoc.get?_put, hStands.own, eq_comm]
  · simp [State.after, hStands.operations]

section

variable {s : Surroundings} {session : Session} {values : Assoc String} {w w' : World}
  {lines : List Line} {done : List Carried} {asked : Option SessionCall}
  {outcome : Except Fault Unit}

/-- The interpreter goes through lines that can be carried out, and stands behind them whatever lines
are still to come. -/
theorem Completes.stands (hDone : Completes s session values w done w') :
    ∃ state, Stands values done state ∧ ∀ rest,
      Outside.runIn s w (runLines session { bindings := values.mapValues Reply.ofText }
        (done.map (·.line) ++ rest)) = Outside.runIn s w' (runLines session state rest) := by
  induction hDone with
  | start => exact ⟨_, stands_start values, fun rest => rfl⟩
  | @next w₁ w₂ done line asked value hDone hLine ih =>
      obtain ⟨state, hStands, hRun⟩ := ih
      refine ⟨state.after line value, hStands.after ⟨line, asked, value⟩, fun rest => ?_⟩
      rw [List.map_append, List.append_assoc, hRun, List.map_singleton, List.singleton_append,
        runIn_runLines_cons, hLine.runIn_runLine hStands.bindings]
      rfl

/-- Lines that follow on lines that have been carried out come to an end. -/
theorem exists_ended (hDone : Completes s session values w done w') (lines : List Line) :
    ∃ all asked outcome last,
      Ended s session values w (done.map (·.line) ++ lines) all asked outcome last := by
  induction lines generalizing done w' with
  | nil => exact ⟨done, none, .ok (), w', .returned hDone (List.append_nil _)⟩
  | cons line rest ih =>
      obtain ⟨asked, outcome, w₂, hLine⟩ := exists_fares s w' session (boundTo values done) line
      cases outcome with
      | error fault => exact ⟨done, asked, .error fault, w₂, .failed hDone rfl hLine⟩
      | ok value => simpa using ih (hDone.next hLine)

/-- Lines are run as they end. -/
theorem Ended.runIn_runLines (hEnded : Ended s session values w lines done asked outcome w') :
    ∃ state, Stands values done state ∧
      Outside.runIn s w (runLines session { bindings := values.mapValues Reply.ofText } lines) =
        ((outcome, state), w') := by
  cases hEnded with
  | returned hDone hLines =>
      obtain ⟨state, hStands, hRun⟩ := hDone.stands
      have hLast := hRun []
      rw [List.append_nil] at hLast
      rw [hLines, hLast]
      exact ⟨state, hStands, rfl⟩
  | failed hDone hLines hLine =>
      obtain ⟨state, hStands, hRun⟩ := hDone.stands
      rw [hLines, hRun, runIn_runLines_cons, hLine.runIn_runLine hStands.bindings]
      exact ⟨state, hStands, rfl⟩

/-- If all goes well, every line has been carried out. -/
theorem Ended.length_eq (hEnded : Ended s session values w lines done asked (.ok ()) w') :
    done.length = lines.length := by
  cases hEnded with
  | returned hDone hLines => simp [hLines]

theorem Completes.calls_given (hDone : Completes s .given values w done w') :
    w'.calls = w.calls ++ (done.filterMap (·.asked)).map .session := by
  induction hDone with
  | start => simp
  | @next w₁ w₂ done line asked value hDone hLine ih =>
      rw [hLine.calls_given, ih]
      cases asked <;> simp

/-- A session that is provided from outside gets the calls of the lines, in their order. -/
theorem Ended.calls_given (hEnded : Ended s .given values w lines done asked outcome w') :
    w'.calls = w.calls ++ (done.filterMap (·.asked) ++ asked.toList).map .session := by
  cases hEnded with
  | returned hDone hLines => simp [hDone.calls_given]
  | failed hDone hLines hLine => simp [hLine.calls_given, hDone.calls_given]

end

/-- A script that cannot be read does nothing. The lines of any other are carried out in order up to
the first that fails, which ends the script as it failed. Behind each line the interpreter has bound
what the lines so far have bound, and the variables else; if all lines succeed, the result counts
them. -/
theorem run_in_order (s : Surroundings) (w : World) (session : Session) (values : Assoc String)
    (source : String) :
    let ran := Outside.runIn s w (run session values source)
    match read source with
    | .error fault => ran = ((.error (.script fault), values.mapValues .ofText), w)
    | .ok lines =>
      (∃ done asked outcome, Ended s session values w lines done asked outcome ran.2 ∧
        ran.1.1.map (·.operations) = outcome.map (fun () => lines.length) ∧
        (∀ name, ran.1.2.get? name = boundTo values done name) ∧
        (session = .given → ran.2.calls =
          w.calls ++ (done.filterMap (·.asked) ++ asked.toList).map .session)) ∧
      ∀ done w', Completes s session values w done w' → ∃ state, Stands values done state ∧
        ∀ rest, Outside.runIn s w (runLines session { bindings := values.mapValues .ofText }
          (done.map (·.line) ++ rest)) = Outside.runIn s w' (runLines session state rest) := by
  intro ran
  cases hRead : read source with
  | error fault =>
      show Outside.runIn s w (run session values source) = _
      rw [run, hRead]
      rfl
  | ok lines =>
      refine ⟨?_, fun done w' hDone => hDone.stands⟩
      have hStart : Completes s session values w [] w := .start
      obtain ⟨done, asked, outcome, w', hEnded⟩ :
          ∃ done asked outcome w', Ended s session values w lines done asked outcome w' :=
        exists_ended hStart lines
      obtain ⟨state, hStands, hRun⟩ := hEnded.runIn_runLines
      have hRan : ran = ((outcome.map fun () => state.result, state.bindings), w') := by
        show Outside.runIn s w (run session values source) = _
        rw [runIn_run_of_read s w session values hRead, hRun]
      rw [hRan]
      refine ⟨done, asked, outcome, hEnded, ?_, hStands.bindings, ?_⟩
      · cases outcome with
        | error fault => rfl
        | ok _ => exact congrArg Except.ok (hStands.operations.trans hEnded.length_eq)
      · rintro rfl
        exact hEnded.calls_given

end ScenarioRunner.Script
