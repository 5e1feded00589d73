import ScenarioRunner.Proofs.Dispatch
import ScenarioRunner.Proofs.Exchange
import ScenarioRunner.Proofs.Placeholder
import ScenarioRunner.Proofs.Rule.Order
import ScenarioRunner.Proofs.Url

/-! Steps that open an address. What such a step asks of its session is said first, as a navigation;
the address is looked up among the variables, and the base address stands in where there is none to
be had. Main statements: a valid step always has somewhere to go, and a good address that a rule
captures is opened as it was written. -/
namespace ScenarioRunner

/-- What a step that opens an address asks a session for. -/
inductive Navigation
  | reload
  | back
  | visit (url : String)
deriving DecidableEq

namespace Navigation

def ofMove : Move → Navigation
  | .refresh => .reload
  | .back => .back

/-- What a session does for a navigation, and what the step comes to. -/
def carryOut (session : Session) : Navigation → Attempt StepResult
  | reload => do
    session.reload
    return .refreshed
  | back => do
    session.goBack
    return .wentBack
  | visit url => do
    session.navigate (.ofText url)
    return .opened url (← session.title)

/-- The calls to a session that is provided from outside. The title is asked for once the address has
been opened. -/
def calls (s : Surroundings) (w : World) : Navigation → List Call
  | reload => [.session .reload]
  | back => [.session .goBack]
  | visit url =>
    let navigate := Call.session (.navigate (.ofText url))
    if (s.respond w.calls navigate).outcome.isOk then [navigate, .session .title] else [navigate]

/-- A session that was given carries out a navigation by exactly its calls. -/
theorem calls_carryOut_given (s : Surroundings) (w : World) (navigation : Navigation) :
    (Attempt.runIn s w (navigation.carryOut .given)).2.calls = w.calls ++ navigation.calls s w := by
  have hAsk (c : SessionCall) : Attempt.runIn s w (do let _ ← Session.ask c) =
      ((s.respond w.calls (.session c)).outcome.map fun _ => (), w.called s (.session c)) :=
    Attempt.runIn_bind_return s w (Session.ask c) fun _ => ()
  cases navigation with
  | reload =>
      rw [carryOut, Attempt.runIn_bind_return, Session.reload, hAsk]
      rfl
  | back =>
      rw [carryOut, Attempt.runIn_bind_return, Session.goBack, hAsk]
      rfl
  | visit url =>
      rw [carryOut, Attempt.runIn_bind, Session.navigate, hAsk, calls]
      cases (s.respond w.calls (.session (.navigate (.ofText url)))).outcome with
      | error fault => rfl
      | ok answer =>
          show (Attempt.runIn s _ (do return StepResult.opened url (← Session.ask .title))).2.calls = _
          rw [Attempt.runIn_bind_return]
          exact List.append_assoc w.calls _ _

end Navigation

namespace Dispatch

/-- An address that can be opened: there is one, and no percent sign stands at its start. -/
def Usable (url : String) : Prop := url ≠ "" ∧ startsWith url "%" = false

instance (url : String) : Decidable (Usable url) := inferInstanceAs (Decidable (_ ∧ _))

/-- What is looked up for the address that a step names. -/
inductive LooksUp (values : Assoc String) (asked : String) : Option String → Prop
  /-- The address is the name of a variable with a value. -/
  | named {value : String} (hValue : Placeholder.value? values asked = some value) :
      LooksUp values asked (some value)
  /-- The address is a placeholder. -/
  | placeholder {name : String} (hNone : Placeholder.value? values asked = none)
      (hAsked : asked = "%" ++ name ++ "%") (hName : name ≠ "") :
      LooksUp values asked (values.get? name)
  | itself (hNone : Placeholder.value? values asked = none)
      (hOther : ∀ name, name ≠ "" → asked ≠ "%" ++ name ++ "%") : LooksUp values asked (some asked)

/-- Where a step goes: to what is looked up among the variables of the context and the values that
were put into its placeholders, or to the base address if that cannot be opened. -/
inductive Navigates (context : Context) (d : Descriptor) : Navigation → Prop
  | reload (hMove : d.move? = some .refresh) : Navigates context d .reload
  | back (hMove : d.move? = some .back) : Navigates context d .back
  | found {asked url : String} (hMove : d.move? = none) (hAsked : d.filled? "url" = some asked)
      (hLooksUp : LooksUp (context.values.override d.captured) asked (some url))
      (hUsable : Usable url) : Navigates context d (.visit url)
  | base {asked : String} {looked : Option String} (hMove : d.move? = none)
      (hAsked : d.filled? "url" = some asked)
      (hLooksUp : LooksUp (context.values.override d.captured) asked looked)
      (hUnusable : ∀ url, looked = some url → ¬ Usable url) :
      Navigates context d (.visit context.baseUrl)

/-- How a placeholder is told from other texts. -/
theorem placeholder_iff {asked name : String} :
    asked = "%" ++ name ++ "%" ∧ name ≠ "" ↔
      (2 < asked.toList.length && startsWith asked "%" && endsWith asked "%") = true ∧
        name = String.ofList (asked.toList.drop 1).dropLast := by
  simp only [startsWith, endsWith, Bool.and_eq_true, decide_eq_true_eq, List.isPrefixOf_iff_prefix,
    List.isSuffixOf_iff_suffix]
  constructor
  · rintro ⟨rfl, hName⟩
    have hLength : 0 < name.toList.length := by
      rw [List.length_pos_iff]
      simpa using hName
    have hChars : ("%" ++ name ++ "%").toList = '%' :: (name.toList ++ ['%']) := by simp
    rw [hChars]
    refine ⟨⟨⟨?_, ⟨_, rfl⟩⟩, ⟨'%' :: name.toList, rfl⟩⟩, by simp⟩
    simp only [List.length_cons, List.length_append]
    omega
  · rintro ⟨⟨⟨hLength, rest, hRest⟩, front, hFront⟩, rfl⟩
    cases front with
    | nil => simp [← hFront] at hLength
    | cons c inside =>
        have hChars : asked.toList = '%' :: (inside ++ ['%']) := by
          rw [← hRest] at hFront
          obtain ⟨rfl, -⟩ := List.cons.inj hFront
          rw [← hRest, ← hFront]
          rfl
        have hInside : (asked.toList.drop 1).dropLast = inside := by simp [hChars]
        rw [hInside, ← String.toList_inj, hChars]
        refine ⟨by simp, fun hEmpty => ?_⟩
        simp [hChars, String.ofList_eq_empty_iff.mp hEmpty] at hLength

/-- A variable is looked up in one way only. -/
theorem LooksUp.unique {values : Assoc String} {asked : String} {first second : Option String}
    (hFirst : LooksUp values asked first) (hSecond : LooksUp values asked second) :
    first = second := by
  cases hFirst with
  | named hValue =>
      cases hSecond with
      | named hOther => exact hValue.symm.trans hOther
      | placeholder hNone | itself hNone => simp [hValue] at hNone
  | @placeholder name hNone hAsked hName =>
      cases hSecond with
      | named hOther => simp [hNone] at hOther
      | @placeholder other _ hAgain _ =>
          rw [(placeholder_iff.mp ⟨hAsked, hName⟩).2, ← (placeholder_iff.mp ⟨hAgain, ‹_›⟩).2]
      | itself _ hOther => exact absurd hAsked (hOther name hName)
  | itself hNone hOther =>
      cases hSecond with
      | named hValue => simp [hNone] at hValue
      | placeholder _ hAsked hName => exact absurd hAsked (hOther _ hName)
      | itself => rfl

/-- Where a step goes, by the rules that carry it out. -/
def navigation (d : Descriptor) (context : Context) : Navigation :=
  d.move?.elim (.visit (targetUrl (d.param? "url") d context)) .ofMove

theorem goto_eq (d : Descriptor) (session : Session) (context : Context) :
    goto d session context = (navigation d context).carryOut session := by
  rw [goto, navigation]
  cases d.move? with
  | none => rfl
  | some move => cases move <;> rfl

/-- The address that is opened for what was looked up. -/
def opened (looked : Option String) (context : Context) : String :=
  (looked.filter fun url => decide (Usable url)).getD context.baseUrl

/-- An address that can be used is opened. -/
theorem opened_of_usable {url : String} (h : Usable url) (context : Context) :
    opened (some url) context = url := by
  rw [opened, Option.filter_some, if_pos (by simpa using h), Option.getD_some]

/-- Without an address that can be used the base is opened. -/
theorem opened_of_unusable {looked : Option String} (h : ∀ url, looked = some url → ¬ Usable url)
    (context : Context) : opened looked context = context.baseUrl := by
  have hNone : looked.filter (fun url => decide (Usable url)) = none :=
    Option.filter_eq_none_iff.mpr fun url hUrl => by simpa using h url hUrl
  rw [opened, hNone, Option.getD_none]

theorem opened_some (url : String) (context : Context) : opened (some url) context =
    if url == "" || startsWith url "%" then context.baseUrl else url := by
  by_cases hEmpty : url = "" <;> cases hSign : startsWith url "%" <;>
    simp [opened, Option.filter, Usable, hEmpty, hSign]

/-- Every value that a step asks for leads to some address by the order of lookups. -/
theorem exists_looksUp {d : Descriptor} {asked : String} (hAsked : d.filled? "url" = some asked)
    (context : Context) :
    ∃ looked, LooksUp (context.values.override d.captured) asked looked ∧
      targetUrl (d.param? "url") d context = opened looked context := by
  have hFilled : (d.param? "url").filter (· != "") = some asked := hAsked
  rw [targetUrl, hFilled]
  dsimp only
  cases hKnown : ((context.values.override d.captured).get? asked).filter (· != "") with
  | some known => exact ⟨some known, .named hKnown, (opened_some known context).symm⟩
  | none =>
      dsimp only
      by_cases hShape : (2 < asked.toList.length && startsWith asked "%" && endsWith asked "%") = true
      · obtain ⟨hPlaceholder, hName⟩ := placeholder_iff.mpr ⟨hShape, rfl⟩
        refine ⟨_, .placeholder hKnown hPlaceholder hName, ?_⟩
        rw [if_pos hShape]
        cases (context.values.override d.captured).get?
            (String.ofList (asked.toList.drop 1).dropLast) with
        | none => rfl
        | some value => exact (opened_some value context).symm
      · have hOther (name : String) (hName : name ≠ "") : asked ≠ "%" ++ name ++ "%" :=
          fun hPlaceholder => hShape (placeholder_iff.mp ⟨hPlaceholder, hName⟩).1
        refine ⟨some asked, .itself hKnown hOther, ?_⟩
        rw [if_neg hShape]
        exact (opened_some asked context).symm

/-- A step that asks for an address and for no move visits what is found for it. -/
theorem eq_visit {d : Descriptor} {context : Context} {asked : String} (hMove : d.move? = none)
    (hAsked : d.filled? "url" = some asked) {looked : Option String}
    (hLooksUp : LooksUp (context.values.override d.captured) asked looked) :
    navigation d context = .visit (opened looked context) := by
  obtain ⟨other, hOther, hUrl⟩ := exists_looksUp hAsked context
  obtain rfl := hOther.unique hLooksUp
  rw [navigation, hMove, Option.elim_none, hUrl]

/-- A valid step has just one place to go. -/
theorem navigates_iff {d : Descriptor} {context : Context} (hValid : d.isValid = true)
    (hKind : d.kind = .goto) {navigation : Navigation} :
    Navigates context d navigation ↔ navigation = Dispatch.navigation d context := by
  constructor
  · intro hNavigates
    cases hNavigates with
    | reload hMove | back hMove =>
        rw [Dispatch.navigation, hMove]
        rfl
    | found hMove hAsked hLooksUp hUsable =>
        rw [eq_visit hMove hAsked hLooksUp, opened_of_usable hUsable]
    | base hMove hAsked hLooksUp hUnusable =>
        rw [eq_visit hMove hAsked hLooksUp, opened_of_unusable hUnusable]
  · rintro rfl
    cases hMove : d.move? with
    | some move =>
        cases move with
        | refresh =>
            rw [Dispatch.navigation, hMove]
            exact .reload hMove
        | back =>
            rw [Dispatch.navigation, hMove]
            exact .back hMove
    | none =>
        have hParts : d.invalid = false ∧ (d.filled? "url").isSome = true := by
          simpa [Descriptor.isValid, hKind, hMove] using hValid
        obtain ⟨asked, hAsked⟩ := Option.isSome_iff_exists.mp hParts.2
        obtain ⟨looked, hLooksUp, -⟩ := exists_looksUp hAsked context
        rw [eq_visit hMove hAsked hLooksUp]
        by_cases hUsable : ∃ url, looked = some url ∧ Usable url
        · obtain ⟨url, rfl, hUsable⟩ := hUsable
          rw [opened_of_usable hUsable]
          exact .found hMove hAsked hLooksUp hUsable
        · have hUnusable : ∀ url, looked = some url → ¬ Usable url :=
            fun url hUrl hHere => hUsable ⟨url, hUrl, hHere⟩
          rw [opened_of_unusable hUnusable]
          exact .base hMove hAsked hLooksUp hUnusable

/-- What is opened is usable if the base address is. -/
theorem Navigates.usable {context : Context} {d : Descriptor} {url : String}
    (h : Navigates context d (.visit url)) (hBase : Usable context.baseUrl) : Usable url := by
  cases h with
  | found _ _ _ hUsable => exact hUsable
  | base => exact hBase

/-- However a step is carried out, its session is asked for this navigation and for nothing else, and
the step succeeds just if that does. -/
def Asks (d : Descriptor) (context : Context) (navigation : Navigation) : Prop :=
  ∀ (s : Surroundings) (w : World) (config : Config) (h : History) (session : Session)
    (workflow : String),
    let asked := Attempt.runIn s { w with ids := w.ids + 1 } (navigation.carryOut session)
    let ended := Outside.runIn s w (execute config h d session workflow context)
    ended.2 = asked.2 ∧ ended.1.1.success = asked.1.isOk ∧
      (session = .given → ended.2.calls = w.calls ++ navigation.calls s w)

/-- A valid step of this kind asks for the navigation that is carried out. -/
theorem asks_navigation {d : Descriptor} (hValid : d.isValid = true) (hKind : d.kind = .goto)
    (context : Context) : Asks d context (navigation d context) := by
  intro s w config h session workflow asked ended
  have hRun : Attempt.runIn s { w with ids := w.ids + 1 } (goto d session context) =
      (asked.1, asked.2) := by rw [goto_eq]
  have hPerform : perform config h d session context = handleWith h (goto d session context) := by
    rw [perform, hKind]
  have hHandled := runIn_handleWith s { w with ids := w.ids + 1 } h hRun
  rw [← hPerform] at hHandled
  have hEnded : ended = _ :=
    runIn_execute_of_isValid s w config h d session workflow context hValid hHandled
  rw [hEnded]
  refine ⟨rfl, success_recordOf d workflow _ _ _ _, ?_⟩
  rintro rfl
  exact Navigation.calls_carryOut_given s { w with ids := w.ids + 1 } (navigation d context)

end Dispatch

namespace Interpretation

variable {registry : Registry} {step : String} {values : Assoc String}

/-- Only a rule makes a step open an address. -/
theorem exists_match_of_goto (hKind : (interpret registry step values).kind = .goto) :
    ∃ rule m, interpret registry step values =
      ofMatch (trimmed step) (Placeholder.resolve (trimmed step) values) rule m := by
  by_cases hStep : trimmed step = ""
  · simp [interpret, hStep, fallback] at hKind
  · cases hFirst : firstMatch? registry (Placeholder.resolve (trimmed step) values).text with
    | none => simp [interpret_of_none hStep hFirst, fallback] at hKind
    | some found => exact ⟨found.1, found.2, interpret_of_some hStep hFirst⟩

def resolutionOf (d : Descriptor) : Placeholder.Resolution := ⟨d.resolved, d.captured, d.unresolved⟩

/-- What was put into the placeholders of a step, and which of them were left. -/
theorem resolution_interpret (registry : Registry) (step : String) (values : Assoc String) :
    resolutionOf (interpret registry step values) = Placeholder.resolve (trimmed step) values := by
  have hFallback (wording : String) (r : Placeholder.Resolution) (reason : Option String) :
      resolutionOf (fallback wording r reason) = r := rfl
  have hMatch (wording : String) (r : Placeholder.Resolution) (rule : Rule) (m : Regex.Match) :
      resolutionOf (ofMatch wording r rule m) = r := rfl
  by_cases hStep : trimmed step = ""
  · have hPieces : Placeholder.mark.pieces "" = [] := rfl
    have hNames : Placeholder.names "" = [] := by decide
    rw [hStep, Placeholder.resolve, SlotMark.fill, hPieces, hNames]
    simp [interpret, hStep, fallback, resolutionOf]
  · cases hFirst : firstMatch? registry (Placeholder.resolve (trimmed step) values).text with
    | none =>
        rw [interpret_of_none hStep hFirst]
        exact hFallback _ _ _
    | some found =>
        rw [interpret_of_some hStep hFirst]
        exact hMatch _ _ _ _

/-- The values that were put into a step are those of the variables that it is carried out with. -/
theorem get?_override_interpret (name : String) :
    (values.override (interpret registry step values).captured).get? name = values.get? name := by
  have hCaptured : (interpret registry step values).captured =
      (Placeholder.resolve (trimmed step) values).captured :=
    congrArg (·.captured) (resolution_interpret registry step values)
  rw [hCaptured]
  exact Placeholder.get?_override_captured (trimmed step) values name

/-- A rule that opens addresses takes the step, and this is what it captures for the address. -/
def Captures (registry : Registry) (step : String) (values : Assoc String) (url : String) : Prop :=
  trimmed step ≠ "" ∧ ∃ rule m,
    firstMatch? registry (Placeholder.resolve (trimmed step) values).text = some (rule, m) ∧
      rule.kind = "goto" ∧ (paramsOf rule m).get? "url" = some url

/-- The address that is captured is cleaned. -/
theorem Captures.param? {url : String} (h : Captures registry step values url) :
    (interpret registry step values).kind = .goto ∧
      (interpret registry step values).param? "url" = some (sanitizeUrl url) := by
  obtain ⟨hStep, rule, m, hFirst, hKind, hUrl⟩ := h
  rw [interpret_of_some hStep hFirst]
  constructor
  · show ActionKind.ofName rule.kind = .goto
    rw [hKind]
    rfl
  · show (cleanParams rule (paramsOf rule m)).get? "url" = some (sanitizeUrl url)
    rw [cleanParams, hKind, hUrl]
    exact (Assoc.get?_put (paramsOf rule m) "url" "url" (sanitizeUrl url)).trans (if_pos rfl)

/-- A step that opens an address is valid if it names one. -/
theorem isValid_interpret_of_goto (hKind : (interpret registry step values).kind = .goto)
    {asked : String} (hAsked : (interpret registry step values).filled? "url" = some asked) :
    (interpret registry step values).isValid = true := by
  have hRead : (interpret registry step values).invalid = false := by
    obtain ⟨rule, m, hMatch⟩ := exists_match_of_goto hKind
    rw [hMatch]
    rfl
  simp [Descriptor.isValid, hKind, hAsked, hRead]

end Interpretation

open Interpretation

/-- A usable address opens no placeholder. -/
theorem usable_of_isValidUrl {url : String} (hValid : isValidUrl url = true) :
    Dispatch.Usable url := by
  constructor
  · rintro rfl
    exact absurd hValid (by decide)
  · cases hSign : startsWith url "%" with
    | false => rfl
    | true =>
        rw [startsWith, List.isPrefixOf_iff_prefix] at hSign
        obtain ⟨rest, hUrl⟩ := hSign
        have hChars : url.toList = '%' :: rest := by rw [← hUrl]; rfl
        rw [isValidUrl, hChars, Url.isValid_percent] at hValid
        cases hValid

namespace Dispatch

/-- A valid step that opens an address goes on to one place: it reloads the page, goes back, or opens
what is looked up for its address, if that can be opened, and the base address else. A placeholder
that was left unresolved leads to the base address. -/
theorem execute_navigates {context : Context} (hBase : Usable context.baseUrl) :
    (∀ d : Descriptor, d.isValid = true → d.kind = .goto → ∃ navigation, Asks d context navigation ∧
      (∀ other, Navigates context d other ↔ other = navigation) ∧
      ∀ url, navigation = .visit url → Usable url) ∧
    ∀ (registry : Registry) (step name : String),
      let d := interpret registry step context.values
      d.kind = .goto → d.move? = none → d.param? "url" = some ("%" ++ name ++ "%") →
      name ∈ d.unresolved → (∀ key ∈ context.values.keys, '%' ∉ key.toList) →
      d.isValid = true ∧ Asks d context (.visit context.baseUrl) := by
  constructor
  · intro d hValid hKind
    refine ⟨navigation d context, asks_navigation hValid hKind context,
      fun other => navigates_iff hValid hKind, fun url hVisit => ?_⟩
    exact ((navigates_iff hValid hKind).mpr hVisit.symm).usable hBase
  · intro registry step name d hKind hMove hUrl hUnresolved hKeys
    have hAsked : d.filled? "url" = some ("%" ++ name ++ "%") := by
      rw [Descriptor.filled?, hUrl]
      simp
    have hValid : d.isValid = true := isValid_interpret_of_goto hKind hAsked
    have hNavigates : Navigates context d (.visit context.baseUrl) := by
      have hLeft : name ∈ (Placeholder.resolve (trimmed step) context.values).unresolved := by
        rwa [← resolution_interpret registry step context.values]
      obtain ⟨hName, hNone⟩ := Placeholder.mem_unresolved_iff.mp hLeft
      have hSign : '%' ∈ ("%" ++ name ++ "%").toList := by simp
      have hNoName : Placeholder.value? (context.values.override d.captured)
          ("%" ++ name ++ "%") = none := by
        rw [Placeholder.value?, get?_override_interpret, Assoc.get?_eq_none_of_keys hKeys hSign]
        rfl
      have hLooksUp := LooksUp.placeholder hNoName rfl (Placeholder.ne_empty_of_mem_names hName)
      refine .base hMove hAsked hLooksUp fun url hValue hUsable => ?_
      rw [get?_override_interpret] at hValue
      simp [Placeholder.value?, hValue, hUsable.1] at hNone
    have hAsks := asks_navigation hValid hKind context
    rw [← (navigates_iff hValid hKind).mp hNavigates] at hAsks
    exact ⟨hValid, hAsks⟩

/-- A rule that takes what stands behind a word for an address. -/
def visitTable : RuleTable :=
  [("goto", [{ name := "visit", pattern := "visit (.+)", groups := ["url"] }])]

/-- The variable has an empty value, so its placeholder is left; and a value that is a placeholder
itself is not opened. -/
theorem execute_navigates_home : ∃ registry, Registry.build visitTable [] = .ok registry ∧
    let context : Context := { values := [("HOME", "")], baseUrl := "http://base.test" }
    let d := interpret registry "visit %HOME%" context.values
    let looping : Descriptor :=
      { kind := .goto, wording := "", resolved := "", params := [("url", "LOOP")]
        captured := [("LOOP", "%LOOP%")] }
    Asks d context (.visit "http://base.test") ∧ Asks looping context (.visit "http://base.test") := by
  have hBuilt : (Registry.build visitTable []).toOption.map (fun registry =>
      let d := interpret registry "visit %HOME%" [("HOME", "")]
      (d.kind, d.move?, d.param? "url", d.unresolved)) =
        some (.goto, none, some "%HOME%", ["HOME"]) := by
    decide +kernel
  cases hBuild : Registry.build visitTable [] with
  | error fault => simp [hBuild, Except.toOption] at hBuilt
  | ok registry =>
      obtain ⟨hKind, hMove, hUrl, hUnresolved⟩ : _ ∧ _ ∧ _ ∧ _ := by
        simpa [hBuild, Except.toOption] using hBuilt
      refine ⟨registry, rfl, ?_⟩
      intro context d looping
      have hBase : Usable context.baseUrl := by decide
      obtain ⟨hEach, hLeft⟩ := execute_navigates hBase
      have hHome := (hLeft registry "visit %HOME%" "HOME" hKind hMove hUrl
        (by rw [hUnresolved]; exact List.mem_cons_self) (by decide)).2
      obtain ⟨navigation, hAsks, hOnly, -⟩ := hEach looping (by decide) rfl
      have hLooks : LooksUp (context.values.override looping.captured) "LOOP" (some "%LOOP%") :=
        .named (by decide)
      obtain rfl := (hOnly (.visit context.baseUrl)).mp <|
        .base (by decide) (by decide) hLooks fun url hUrl => by
          obtain rfl := Option.some.inj hUrl
          decide
      exact ⟨hHome, hAsks⟩

/-- A good address is cleaned to itself just if it is plain or the first address in it is not usable.
A step that captures such an address, and moves by no action of its own, opens it as it was written,
unless the address is the name of a variable. -/
theorem visits_intact {url : String} (hValid : isValidUrl url = true) :
    (sanitizeUrl url = url ↔ Url.Intact url.toList) ∧
    (Url.Intact url.toList → ∀ (registry : Registry) (step : String) (context : Context),
      let d := interpret registry step context.values
      Captures registry step context.values url →
      Placeholder.value? context.values url = none →
      d.isValid = true ∧ Asks d context (d.move?.elim (.visit url) .ofMove)) := by
  refine ⟨sanitizeUrl_eq_self_iff, ?_⟩
  intro hIntact registry step context d hCaptures hNone
  have hUsable : Usable url := usable_of_isValidUrl hValid
  obtain ⟨hKind, hUrl⟩ := hCaptures.param?
  have hAsked : d.filled? "url" = some url := by
    rw [Descriptor.filled?, hUrl, sanitizeUrl_eq_self_iff.mpr hIntact]
    simpa using hUsable.1
  have hStepValid : d.isValid = true := isValid_interpret_of_goto hKind hAsked
  have hLooksUp : LooksUp (context.values.override d.captured) url (some url) := by
    refine .itself ?_ fun name hName hPlaceholder => ?_
    · rw [Placeholder.value?, get?_override_interpret]
      exact hNone
    · have hSign := (placeholder_iff.mp ⟨hPlaceholder, hName⟩).1
      simp [hUsable.2] at hSign
  refine ⟨hStepValid, ?_⟩
  have hAsks := asks_navigation hStepValid hKind context
  cases hMove : d.move? with
  | some move => rwa [navigation, hMove] at hAsks
  | none =>
      rwa [← (navigates_iff hStepValid hKind).mp (.found hMove hAsked hLooksUp hUsable)] at hAsks

/-- A plain address with another one in its query. -/
theorem visits_intact_query :
    let url := "https://shop.test/go?next=http://other.test"
    sanitizeUrl url = url ∧ ∃ registry, Registry.build visitTable [] = .ok registry ∧
      Asks (interpret registry ("visit " ++ url) []) {} (.visit url) := by
  intro url
  have hPlain : Url.Plain url.toList := by
    refine ⟨"https://".toList, by decide, "shop.test/go?next=http://other.test".toList, ?_, ?_, ?_⟩
    · decide +kernel
    · decide +kernel
    · exact List.all_eq_true.mp (by decide +kernel)
  have hStep : trimmed ("visit " ++ url) = "visit " ++ url := by decide +kernel
  have hBuilt : (Registry.build visitTable []).toOption.map (fun registry =>
      ((firstMatch? registry (Placeholder.resolve (trimmed ("visit " ++ url)) []).text).map
        fun found => (found.1.kind, (paramsOf found.1 found.2).get? "url"),
        (interpret registry ("visit " ++ url) []).move?)) =
          some (some ("goto", some url), none) := by
    decide +kernel
  have hValid : isValidUrl url = true := by decide +kernel
  obtain ⟨hSame, hVisits⟩ := visits_intact hValid
  refine ⟨hSame.mpr (.inl hPlain), ?_⟩
  cases hBuild : Registry.build visitTable [] with
  | error fault => simp [hBuild, Except.toOption] at hBuilt
  | ok registry =>
      simp only [hBuild, Except.toOption, Option.map_some, Option.some.injEq, Prod.mk.injEq,
        Option.map_eq_some_iff, Prod.exists] at hBuilt
      obtain ⟨⟨rule, m, hFirst, hKind, hUrl⟩, hMove⟩ := hBuilt
      have hCaptures : Captures registry ("visit " ++ url) [] url :=
        ⟨by rw [hStep]; simp, rule, m, hFirst, hKind, hUrl⟩
      have hAsks := (hVisits (.inl hPlain) registry _ {} hCaptures rfl).2
      rw [hMove] at hAsks
      exact ⟨registry, rfl, hAsks⟩

/-- What stands behind a blank is cut off, though the whole is a good address. -/
theorem sanitizeUrl_shortens :
    let url := "https://example.com/home 这里"
    trimmed url = url ∧ isValidUrl url = true ∧ sanitizeUrl url ≠ url := by
  decide +kernel

end Dispatch

end ScenarioRunner
