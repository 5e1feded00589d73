import ScenarioRunner.Numeral.Binary64

/-! The text of a double-precision number: the fewest digits that read back to it, and of those the
nearest. It is written positionally, with at least one digit after the point, as long as the leading
digit stands between the fourth place after the point and the sixteenth before it, and otherwise
with a signed exponent of at least two digits. -/
namespace ScenarioRunner.Binary64

/-- A decimal number `digits * 10 ^ exponent`. -/
structure Decimal where
  digits : Nat
  exponent : Int
deriving DecidableEq, Repr

/-- Compares `a * 10 ^ i` with `n * 2 ^ j`, exactly. -/
def compareScaled (a : Nat) (i : Int) (n : Nat) (j : Int) : Ordering :=
  compare (a * Nat.pow 10 i.toNat * Nat.pow 2 (-j).toNat)
    (n * Nat.pow 2 j.toNat * Nat.pow 10 (-i).toNat)

/-- The decimal lies among the reals that round to the number: from halfway to the neighbour below
to halfway to the neighbour above, the ends included exactly for an even significand. -/
def readsBack (x : Binary64) (d : Decimal) : Bool :=
  let m := x.significand
  let q := x.scale
  let low := if x.narrowBelow then 4 * m - 1 else 4 * m - 2
  let atEnds := m % 2 == 0
  let fromLow := compareScaled d.digits d.exponent low (q - 2)
  let fromHigh := compareScaled d.digits d.exponent (4 * m + 2) (q - 2)
  (fromLow == .gt || (atEnds && fromLow == .eq)) && (fromHigh == .lt || (atEnds && fromHigh == .eq))

/-- The least `k` with `m * 2 ^ q < 10 ^ k`, searched upward from a bound that lies below it. -/
def leadingPlace (x : Binary64) : Int :=
  let bits : Int := x.significand.log2 + x.scale
  let start := bits * 3 / 10 - 2
  let above := (List.range 40).find? fun (n : Nat) =>
    compareScaled 1 (start + (n : Int)) x.significand x.scale == .gt
  start + ((above.getD 40 : Nat) : Int)

/-- The decimal with `count` digits that lies nearest and reads back, if one does. -/
def candidate? (x : Binary64) (place : Int) (count : Nat) : Option Decimal :=
  let grid := place - count
  let (num, den) := x.ratio
  let floor := num * Nat.pow 10 (-grid).toNat / (den * Nat.pow 10 grid.toNat)
  let below : Decimal := ⟨floor, grid⟩
  let above : Decimal := ⟨floor + 1, grid⟩
  match x.readsBack below, x.readsBack above with
  | true, false => some below
  | false, true => some above
  | false, false => none
  | true, true =>
    match compareScaled (2 * floor + 1) grid (2 * x.significand) x.scale with
    | .gt => some below
    | .lt => some above
    | .eq => some (if floor % 2 = 0 then below else above)

/-- Moves trailing zeros of the digits into the exponent. -/
def dropZeros : Nat → Decimal → Decimal
  | 0, d => d
  | fuel + 1, d =>
    if d.digits ≠ 0 && d.digits % 10 = 0 then dropZeros fuel ⟨d.digits / 10, d.exponent + 1⟩ else d

/-- The shortest decimal that reads back to a finite number other than zero. Seventeen digits
always do; the exact value stands in where the search should end without an answer. -/
def shortest (x : Binary64) : Decimal :=
  let place := x.leadingPlace
  let found := (List.range 17).findSome? fun n => x.candidate? place (n + 1)
  let exact : Decimal :=
    ⟨x.significand * Nat.pow 2 x.scale.toNat * Nat.pow 5 (-x.scale).toNat, min x.scale 0⟩
  let d := found.getD exact
  dropZeros (Nat.toDigits 10 d.digits).length d

/-- Writes a decimal with digits `ds`, the first of which stands for `10 ^ lead`. -/
def layout (ds : List Char) (lead : Int) : List Char :=
  if -4 ≤ lead && lead < 16 then
    if lead < 0 then '0' :: '.' :: List.replicate (-lead - 1).toNat '0' ++ ds
    else
      let whole := lead.toNat + 1
      let before := ds.take whole ++ List.replicate (whole - ds.length) '0'
      let after := ds.drop whole
      before ++ '.' :: (if after.isEmpty then ['0'] else after)
  else
    let mantissa := match ds with
      | [] => []
      | [d] => [d]
      | d :: rest => d :: '.' :: rest
    let size := Nat.toDigits 10 lead.natAbs
    mantissa ++ 'e' :: (if lead < 0 then '-' else '+') ::
      (List.replicate (2 - size.length) '0' ++ size)

/-- The text of a finite number. -/
def finiteText (x : Binary64) : List Char :=
  let magnitude :=
    if x.isZero then ['0', '.', '0']
    else
      let d := x.shortest
      let ds := Nat.toDigits 10 d.digits
      layout ds (d.exponent + ds.length - 1)
  if x.isNegative then '-' :: magnitude else magnitude

/-- The text of a number in messages. -/
def text (x : Binary64) : String :=
  if x.isNaN then "nan"
  else if x.isFinite then String.ofList x.finiteText
  else if x.isNegative then "-inf" else "inf"

end ScenarioRunner.Binary64
