import Mathlib.Algebra.Order.Ring.Int
import ScenarioRunner.History

/-! What is counted of a history: the counts of all kinds add up to the number of records, and so do
the successes and the failures. -/
namespace ScenarioRunner

def countSum (counts : Assoc Int) : Int := (counts.map (·.2)).sum

/-- Writing a count changes the sum by what it differs from the count before. -/
theorem countSum_put (counts : Assoc Int) (name : String) (count : Int) :
    countSum (counts.put name count) = countSum counts + count - (counts.get? name).getD 0 := by
  induction counts with
  | nil => simp [countSum, Assoc.put]
  | cons entry rest ih =>
      obtain ⟨key, old⟩ := entry
      rw [Assoc.put, Assoc.get?_cons]
      by_cases hKey : key = name
      · simp [countSum, hKey]
        omega
      · have hOther : (name == key) = false := by simpa using Ne.symm hKey
        simp only [countSum] at ih
        simp [countSum, hKey, hOther, ih]
        omega

/-- Each name is counted once. -/
theorem countSum_tally (names : List String) : countSum (tally names) = names.length := by
  -- the table so far is general, as counting goes on from any table
  have hFold (counts : Assoc Int) : countSum
      (names.foldl (fun counts name => counts.put name ((counts.get? name).getD 0 + 1)) counts) =
        countSum counts + names.length := by
    induction names generalizing counts with
    | nil => simp
    | cons name rest ih =>
        rw [List.foldl_cons, ih, countSum_put, List.length_cons]
        push_cast
        omega
  rw [tally, hFold]
  simp [countSum]

namespace History

variable (h : History)

/-- The successes of a history are counted one by one. -/
theorem successful_stats : h.stats.successful = h.records.countP (·.success) := by
  rw [stats, List.countP_eq_length_filter]

/-- What is no success is counted as a failure. -/
theorem failed_stats : h.stats.failed = h.records.length - h.records.countP (·.success) := by
  rw [stats, List.countP_eq_length_filter]

/-- Every record is counted under its kind, and no record twice. -/
theorem countSum_kinds_stats : countSum h.stats.kinds = h.records.length := by
  rw [stats, countSum_tally, List.length_map]

end History

end ScenarioRunner
