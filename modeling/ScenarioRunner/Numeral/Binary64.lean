/-! Double-precision numbers, kept by their 64 bits so that equality is decidable. A finite one
stands for `m * 2 ^ q`; everything here is done in exact integer arithmetic on `m` and `q`, with
one rounding at the end: to the nearest number, and to the even one of two equally near. -/
namespace ScenarioRunner

/-- The integer nearest to `num / den`; a half goes to the even neighbour. -/
def roundDiv (num den : Nat) : Nat :=
  let q := num / den
  let r := num % den
  if 2 * r < den then q
  else if den < 2 * r then q + 1
  else if q % 2 = 0 then q else q + 1

structure Binary64 where
  bits : UInt64
deriving DecidableEq, Repr

namespace Binary64

def isNegative (x : Binary64) : Bool := x.bits >>> 63 == 1

def exponentField (x : Binary64) : Nat := ((x.bits >>> 52) &&& 0x7FF).toNat

def fraction (x : Binary64) : Nat := (x.bits &&& 0xFFFFFFFFFFFFF).toNat

def isFinite (x : Binary64) : Bool := x.exponentField != 0x7FF

def isNaN (x : Binary64) : Bool := !x.isFinite && x.fraction != 0

/-- The integer `m` in the magnitude `m * 2 ^ q` of a finite number. -/
def significand (x : Binary64) : Nat :=
  if x.exponentField = 0 then x.fraction else Nat.pow 2 52 + x.fraction

/-- The exponent `q` in the magnitude `m * 2 ^ q` of a finite number. -/
def scale (x : Binary64) : Int :=
  if x.exponentField = 0 then -1074 else (x.exponentField : Int) - 1075

/-- Below a power of two the numbers lie twice as close as above it. -/
def narrowBelow (x : Binary64) : Bool := x.fraction = 0 && 1 < x.exponentField

def isZero (x : Binary64) : Bool := x.isFinite && x.significand == 0

/-- The numerator and denominator of the magnitude of a finite number. -/
def ratio (x : Binary64) : Nat × Nat :=
  (x.significand * Nat.pow 2 x.scale.toNat, Nat.pow 2 (-x.scale).toNat)

def signBit (negative : Bool) : UInt64 := if negative then 0x8000000000000000 else 0

def zero (negative : Bool) : Binary64 := ⟨signBit negative⟩

def infinity (negative : Bool) : Binary64 := ⟨signBit negative ||| 0x7FF0000000000000⟩

def nan : Binary64 := ⟨0x7FF8000000000000⟩

/-- The number nearest to `num / den`, or an infinity where that lies beyond the largest one. -/
def ofRatio (negative : Bool) (num den : Nat) : Binary64 :=
  if num = 0 then zero negative
  else
    -- `guess` is the wanted exponent or one below it, so that the quotient has 53 or 54 bits
    let guess : Int := (num.log2 : Int) - den.log2 - 53
    let quotient (q : Int) := num * Nat.pow 2 (-q).toNat / (den * Nat.pow 2 q.toNat)
    let q := if quotient guess < Nat.pow 2 53 then guess else guess + 1
    let q := max q (-1074)
    let m := roundDiv (num * Nat.pow 2 (-q).toNat) (den * Nat.pow 2 q.toNat)
    -- rounding up to the next power of two carries into the exponent field by itself
    let magnitude := if m < Nat.pow 2 52 then m else (q + 1074).toNat * Nat.pow 2 52 + m
    if 0x7FF0000000000000 ≤ magnitude then infinity negative
    else ⟨signBit negative ||| UInt64.ofNat magnitude⟩

/-- The number nearest to `digits * 10 ^ exponent`. -/
def ofDecimal (negative : Bool) (digits : Nat) (exponent : Int) : Binary64 :=
  -- the length in digits settles the far ends, where the powers of ten would be needlessly large
  let top := exponent + (Nat.toDigits 10 digits).length
  if digits = 0 || top < -330 then zero negative
  else if 320 < top then infinity negative
  else ofRatio negative (digits * Nat.pow 10 exponent.toNat) (Nat.pow 10 (-exponent).toNat)

/-- The nearest integer to a finite number; a half goes to the even neighbour. -/
def roundToInt (x : Binary64) : Int :=
  let (num, den) := x.ratio
  let n : Int := roundDiv num den
  if x.isNegative then -n else n

/-- The integer part of a finite number, toward zero. -/
def truncate (x : Binary64) : Int :=
  let (num, den) := x.ratio
  let n : Int := (num / den : Nat)
  if x.isNegative then -n else n

/-- The integer that a finite number without fraction stands for. -/
def toInt? (x : Binary64) : Option Int :=
  if x.isFinite && x.ratio.1 % x.ratio.2 == 0 then some x.truncate else none

/-- A finite number rounded to `places` decimal places, a half of the last place to even. -/
def roundTo (places : Nat) (x : Binary64) : Binary64 :=
  let (num, den) := x.ratio
  ofRatio x.isNegative (roundDiv (num * Nat.pow 10 places) den) (Nat.pow 10 places)

/-- The product of a finite number with a natural number, rounded. -/
def times (x : Binary64) (n : Nat) : Binary64 :=
  let (num, den) := x.ratio
  ofRatio x.isNegative (num * n) den

end Binary64

/-- The percentage `part` of `whole` as a quotient that is rounded before it is multiplied. -/
def percentage (part whole : Nat) : Binary64 := (Binary64.ofRatio false part whole).times 100

end ScenarioRunner
