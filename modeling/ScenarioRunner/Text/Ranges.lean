/-! Membership in tables of code point ranges. A table lists closed ranges, ascending and apart. -/
namespace ScenarioRunner.Text

/-- Lies in one of the ranges; the search ends at the first range that starts beyond `n`. -/
def inRanges : List (Nat × Nat) → Nat → Bool
  | [], _ => false
  | r :: rest, n => if n < r.1 then false else n ≤ r.2 || inRanges rest n

/-- The ranges are not empty, ascend and do not touch. -/
def wellFormed : List (Nat × Nat) → Bool
  | [] => true
  | [r] => r.1 ≤ r.2
  | r :: s :: rest => r.1 ≤ r.2 && r.2 + 1 < s.1 && wellFormed (s :: rest)

end ScenarioRunner.Text
