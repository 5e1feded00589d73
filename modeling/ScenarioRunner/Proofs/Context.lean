import ScenarioRunner.Proofs.Placeholder
import ScenarioRunner.Proofs.World
import ScenarioRunner.Runner

/-! What a step takes from its context. It is read with the values of the variables that it names;
when it is carried out, the context matters only to a step that opens an address, and only through
the address that it opens. -/
namespace ScenarioRunner

namespace Context

/-- Two contexts give the same values to names. -/
def AgreeOn (first second : Context) (names : List String) : Prop :=
  ∀ name ∈ names, first.values.get? name = second.values.get? name

end Context

namespace Interpretation

/-- A step is read alike with values that are the same for the variables it names. -/
theorem interpret_congr (registry : Registry) {step : String} {first second : Assoc String}
    (hSame : ∀ name ∈ Placeholder.names step, first.get? name = second.get? name) :
    interpret registry step first = interpret registry step second := by
  have hResolve : Placeholder.resolve (trimmed step) first =
      Placeholder.resolve (trimmed step) second := by
    refine Placeholder.resolve_congr fun name hName => hSame name ?_
    rwa [Placeholder.names_trimmed] at hName
  rw [interpret, interpret, hResolve]

end Interpretation

namespace Dispatch

variable {config : Config} {h : History} {d : Descriptor} {session : Session} {workflow : String}
  {first second : Context}

/-- A step that opens an address is carried out alike where that is the same address. -/
theorem goto_congr
    (hUrl : targetUrl (d.param? "url") d first = targetUrl (d.param? "url") d second) :
    goto d session first = goto d session second := by
  rw [goto, goto, hUrl]

/-- Performing a step depends on its context only through the address that a navigation goes to. -/
theorem perform_congr (hUrl : d.kind = .goto →
    targetUrl (d.param? "url") d first = targetUrl (d.param? "url") d second) :
    perform config h d session first = perform config h d session second := by
  rw [perform, perform]
  cases hKind : d.kind with
  | goto => rw [goto_congr (hUrl hKind)]
  | _ => rfl

/-- Executing a step depends on its context only through that address, too. -/
theorem execute_congr (hUrl : d.kind = .goto →
    targetUrl (d.param? "url") d first = targetUrl (d.param? "url") d second) :
    execute config h d session workflow first = execute config h d session workflow second := by
  have hPerform : ∀ checked, d.checked = .ok checked →
      perform config h checked session first = perform config h checked session second := by
    intro checked hChecked
    rw [Descriptor.checked] at hChecked
    split at hChecked
    · cases hChecked
      exact perform_congr hUrl
    · cases hChecked
  rw [execute, execute]
  cases hChecked : d.checked with
  | ok checked => simp only [hPerform checked hChecked]
  | error fault => rfl

end Dispatch

namespace Context

open Interpretation

/-- Variables that a step does not name have no influence on it. With contexts that agree on its
names it gets the same descriptor. Unless it opens an address, and also then if that is the same
address, it makes the same calls and leaves the same record, history and world. -/
theorem same_of_agreeOn {first second : Context} {step : String}
    (hAgree : first.AgreeOn second (Placeholder.names step)) (registry : Registry) :
    let d := interpret registry step first.values
    interpret registry step second.values = d ∧
    ∀ (s : Surroundings) (w : World) (config : Config) (h : History) (session : Session)
      (workflow : String),
      let carriedOut (c : Context) := Outside.runIn s w
        (Dispatch.execute config h (interpret registry step c.values) session workflow c)
      (d.kind ≠ .goto ∨ Dispatch.targetUrl (d.param? "url") d first =
        Dispatch.targetUrl (d.param? "url") d second) →
      carriedOut first = carriedOut second := by
  have hSame : interpret registry step first.values = interpret registry step second.values :=
    interpret_congr registry hAgree
  refine ⟨hSame.symm, fun s w config h session workflow hUrl => ?_⟩
  dsimp only
  rw [← hSame, Dispatch.execute_congr fun hKind => hUrl.resolve_left (not_not.mpr hKind)]

/-- A rule whose script has a slot with the name of a variable. -/
def sayTable : RuleTable := [("act", [{
  name := "say"
  pattern := "say (.+)"
  groups := ["line"]
  template := some "act $\x7bline\x7d $\x7bTOKEN\x7d" }])]

def firstSay : Context where
  values := [("USER", "ann"), ("TOKEN", "red")]
  baseUrl := "http://first"

def secondSay : Context where
  values := [("TOKEN", "blue"), ("HOME", "/"), ("USER", "ann")]
  baseUrl := "http://second"

/-- The step names one variable. The slot of the script has the name of another one, and stays empty
in both contexts. -/
theorem same_of_agreeOn_say :
    firstSay.AgreeOn secondSay (Placeholder.names "say %USER%") ∧
    ∃ registry, Registry.build [] sayTable = .ok registry ∧
      let d := interpret registry "say %USER%" firstSay.values
      d.script = some "act ann $\x7bTOKEN\x7d" ∧ d.kind ≠ .goto ∧
      ∀ (s : Surroundings) (h : History), Outside.runIn s {}
          (Dispatch.execute {} h d .given "flow" firstSay) =
        Outside.runIn s {} (Dispatch.execute {} h
          (interpret registry "say %USER%" secondSay.values) .given "flow" secondSay) := by
  have hAgree : firstSay.AgreeOn secondSay (Placeholder.names "say %USER%") := by
    have hNames : Placeholder.names "say %USER%" = ["USER"] := by decide +kernel
    intro name hName
    rw [hNames, List.mem_singleton] at hName
    rw [hName]
    decide
  have hBuilt : (Registry.build [] sayTable).toOption.map (fun registry =>
      let d := interpret registry "say %USER%" firstSay.values
      (d.script, d.kind)) = some (some "act ann $\x7bTOKEN\x7d", .act) := by
    decide +kernel
  refine ⟨hAgree, ?_⟩
  cases hBuild : Registry.build [] sayTable with
  | error fault => simp [hBuild, Except.toOption] at hBuilt
  | ok registry =>
      simp only [hBuild, Except.toOption, Option.map_some, Option.some.injEq,
        Prod.mk.injEq] at hBuilt
      obtain ⟨hScript, hKind⟩ := hBuilt
      have hAct : (interpret registry "say %USER%" firstSay.values).kind ≠ .goto := by
        rw [hKind]
        decide
      refine ⟨registry, rfl, hScript, hAct, fun s h => ?_⟩
      exact (same_of_agreeOn hAgree registry).2 s {} {} h .given "flow" (.inl hAct)

end Context

end ScenarioRunner
