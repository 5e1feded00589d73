import ScenarioRunner.Json.Value
import ScenarioRunner.Numeral.Integer

/-! Reading typed values out of JSON. A reading either succeeds or names every place that does not
fit; a place is a path of field names and list positions, joined by points. Numbers and truth values
are read leniently, from several forms; texts only from strings. -/
namespace ScenarioRunner

/-- The outcome of reading: a value, or all places that do not fit. -/
inductive Checked (α : Type)
  | good (value : α)
  | bad (places : List String)

namespace Checked

variable {α β : Type}

instance : Applicative Checked where
  pure := good
  seq f x :=
    match f, x () with
    | good f, good x => good (f x)
    | good _, bad p => bad p
    | bad p, good _ => bad p
    | bad p, bad q => bad (p ++ q)

/-- The places of a reading, seen from one level further out. -/
def under (name : String) : Checked α → Checked α
  | good value => good value
  | bad places => bad (places.map fun p => if p == "" then name else name ++ "." ++ p)

/-- Collects readings; all of them have to succeed. -/
def all : List (Checked α) → Checked (List α)
  | [] => good []
  | x :: rest => List.cons <$> x <*> all rest

/-- Puts a further condition on what was read. -/
def ensure (p : α → Bool) : Checked α → Checked α
  | good value => if p value then good value else bad [""]
  | bad places => bad places

def toExcept : Checked α → Except (List String) α
  | good value => .ok value
  | bad places => .error places


/-- The value itself does not fit. -/
def misfit {α : Type} : Checked α := .bad [""]

def text : Json → Checked String
  | .str s => pure s
  | _ => misfit

/-- Digits of an integer between which single underscores may stand. -/
def plainDigits? (s : List Char) : Option Nat :=
  let parts := s.splitOn '_'
  if parts.all (fun p => !p.isEmpty && p.all fun c => c.isDigit) then
    some (Numeral.ofDigits (parts.flatten.map fun c => c.toNat - '0'.toNat))
  else none

/-- The text without a point that only zeros follow. -/
def withoutFraction (s : List Char) : List Char :=
  match s.dropWhile (· != '.') with
  | '.' :: zeros => if zeros.all (· == '0') then s.takeWhile (· != '.') else s
  | _ => s

/-- White space in the sense of Unicode, which leaves out the separators `U+001C` to `U+001F`. -/
def isPlainSpace (c : Char) : Bool := Text.isBlank c && !(0x1C ≤ c.toNat && c.toNat ≤ 0x1F)

/-- An integer in a string: a sign, digits, and perhaps a fraction of zeros. A negative number has
no further zeros in front. -/
def integerText? (s : List Char) : Option Int :=
  match Text.trimWhere isPlainSpace s with
  | '-' :: rest =>
    let ds := withoutFraction rest
    if ds.head? == some '0' && ds != ['0'] then none
    else (plainDigits? ds).map fun n => -(n : Int)
  | '+' :: rest => (plainDigits? (withoutFraction rest)).map Int.ofNat
  | rest => (plainDigits? (withoutFraction rest)).map Int.ofNat

/-- A number without fraction, of less than 64 bits. -/
def wholeNumber? (x : Binary64) : Option Int :=
  match x.toInt? with
  | some n => if n.natAbs < Nat.pow 2 63 then some n else none
  | none => none

def int : Json → Checked Int
  | .bool b => pure (if b then 1 else 0)
  | .int n => pure n
  | .float x =>
    match wholeNumber? x with
    | some n => pure n
    | none => misfit
  | .str s =>
    if Numeral.maxDigits < s.length then misfit
    else
      match integerText? s.toList with
      | some n => pure n
      | none => misfit
  | _ => misfit

/-- The exponent of a decimal number: a sign and digits. -/
def exponentText? (s : List Char) : Option Int :=
  let (negative, ds) := match s with
    | '-' :: rest => (true, rest)
    | '+' :: rest => (false, rest)
    | rest => (false, rest)
  if ds.isEmpty || !ds.all Char.isDigit then none
  else
    let n : Int := Numeral.ofDigits (ds.map fun c => c.toNat - '0'.toNat)
    some (if negative then -n else n)

/-- A decimal number without its sign: digits with or without a point, perhaps an exponent. -/
def magnitudeText? (negative : Bool) (s : List Char) : Option Binary64 :=
  let whole := s.takeWhile Char.isDigit
  let (places, s) := match s.dropWhile Char.isDigit with
    | '.' :: rest => (rest.takeWhile Char.isDigit, rest.dropWhile Char.isDigit)
    | rest => ([], rest)
  let digits := Numeral.ofDigits ((whole ++ places).map fun c => c.toNat - '0'.toNat)
  let number (exponent : Int) := Binary64.ofDecimal negative digits (exponent - places.length)
  if whole.isEmpty && places.isEmpty then none
  else
    match s with
    | [] => some (number 0)
    | mark :: exponent =>
      if mark == 'e' || mark == 'E' then (exponentText? exponent).map number else none

/-- A number with its sign, or the name of one of the values that are no finite numbers. -/
def signedText? (s : List Char) : Option Binary64 :=
  let (negative, s) := match s with
    | '-' :: rest => (true, rest)
    | '+' :: rest => (false, rest)
    | rest => (false, rest)
  let word := s.map Char.toLower
  if word == "inf".toList || word == "infinity".toList then some (.infinity negative)
  else if word == "nan".toList then some .nan
  else magnitudeText? negative s

/-- The text without its underscores, each of which has to stand alone inside of it. -/
def withoutUnderscores? (s : List Char) : Option (List Char) :=
  let parts := s.splitOn '_'
  if parts.all (!·.isEmpty) then some parts.flatten else none

/-- A number in a string. -/
def doubleText? (s : List Char) : Option Binary64 :=
  signedText? (Text.trimWhere isPlainSpace s) <|> (withoutUnderscores? s).bind signedText?

def double : Json → Checked Binary64
  | .bool b => pure (.ofRatio false b.toNat 1)
  | .int n =>
    let x := Binary64.ofRatio (n < 0) n.natAbs 1
    if x.isFinite then pure x else misfit
  | .float x => pure x
  | .str s =>
    match doubleText? s.toList with
    | some x => pure x
    | none => misfit
  | _ => misfit

def trueWords : List String := ["1", "on", "t", "true", "y", "yes"]

def falseWords : List String := ["0", "off", "f", "false", "n", "no"]

def truthOf (n : Int) : Checked Bool :=
  if n = 0 then pure false else if n = 1 then pure true else misfit

def bool : Json → Checked Bool
  | .bool b => pure b
  | .int n => truthOf n
  | .float x =>
    match wholeNumber? x with
    | some n => truthOf n
    | none => misfit
  | .str s =>
    let word := s.map Char.toLower
    if trueWords.contains word then pure true
    else if falseWords.contains word then pure false
    else misfit
  | _ => misfit

/-- A list whose items are all read in one way. -/
def list {α : Type} (read : Json → Checked α) : Json → Checked (List α)
  | .arr items => all (items.mapIdx fun i v => (read v).under (toString i))
  | _ => misfit

/-- An object whose values are all read in one way. -/
def table {α : Type} (read : Json → Checked α) : Json → Checked (Assoc α)
  | .obj fields =>
    all (fields.map fun (name, v) => (fun value => (name, value)) <$> (read v).under name)
  | _ => misfit

/-- Null, or a value that is read. -/
def optional {α : Type} (read : Json → Checked α) : Json → Checked (Option α)
  | .null => pure none
  | v => some <$> read v

/-- Any value. -/
def any (v : Json) : Checked Json := pure v

/-- A field that has to be there. -/
def need {α : Type} (fields : Assoc Json) (name : String) (read : Json → Checked α) : Checked α :=
  match fields.get? name with
  | some v => (read v).under name
  | none => .bad [name]

/-- A field with a default. -/
def get {α : Type} (fields : Assoc Json) (name : String) (read : Json → Checked α) (default : α) :
    Checked α :=
  match fields.get? name with
  | some v => (read v).under name
  | none => pure default


end Checked

end ScenarioRunner
