import ScenarioRunner.Datum
import ScenarioRunner.Json.Fields

/-! What the scalars of a YAML document stand for. A plain scalar that looks like nothing, a truth
value, a number or a date is one; all others are texts. Integers may be written to the bases two,
eight, ten, sixteen and sixty, and digits may be parted by underscores. -/
namespace ScenarioRunner.Yaml

/-- The fault of a document that breaks the rules of the notation. -/
def malformed : Fault := .badYaml "the document is malformed"

inductive Scalar
  | value (a : Atom)
  /-- The key under which other mappings are taken over. -/
  | merge
  /-- The sign that only a key may be. -/
  | equals

namespace Scalar

def nullWords : List String := ["", "~", "null", "Null", "NULL"]

def trueWords : List String := ["yes", "Yes", "YES", "true", "True", "TRUE", "on", "On", "ON"]

def falseWords : List String := ["no", "No", "NO", "false", "False", "FALSE", "off", "Off", "OFF"]

/-- The value of a hexadecimal digit. -/
def hexDigit? (c : Char) : Option Nat :=
  if '0' ≤ c && c ≤ '9' then some (c.toNat - '0'.toNat)
  else if 'a' ≤ c && c ≤ 'f' then some (c.toNat - 'a'.toNat + 10)
  else if 'A' ≤ c && c ≤ 'F' then some (c.toNat - 'A'.toNat + 10)
  else none

def isDigitOf (base : Nat) (c : Char) : Bool := (hexDigit? c).any (· < base)

/-- A digit to the base or an underscore. -/
def isSpaced (base : Nat) (c : Char) : Bool := c == '_' || isDigitOf base c

/-- The number that digits stand for; underscores count for nothing, but at least one digit has to
be there. The number of decimal digits is limited. -/
def numberOf? (base : Nat) (s : List Char) : Option Nat :=
  let ds := s.filter (· != '_')
  if ds.isEmpty || (base == 10 && Numeral.maxDigits < ds.length) then none
  else some (ds.foldl (fun n c => base * n + (hexDigit? c).getD 0) 0)

/-- A number that starts with a digit other than zero, or is zero itself. -/
def isDecimal : List Char → Bool
  | ['0'] => true
  | '0' :: _ => false
  | c :: rest => isDigitOf 10 c && rest.all (isSpaced 10)
  | [] => false

/-- One or two digits below sixty. -/
def isSixtieth : List Char → Bool
  | [c] => isDigitOf 10 c
  | [c, d] => isDigitOf 6 c && isDigitOf 10 d
  | _ => false

/-- The digits of an integer without its sign, read to the base in which they are written. Nothing
where the text is no integer; `some none` where it is one that has no value. -/
def magnitude? (s : List Char) : Option (Option Nat) :=
  let parts := s.splitOn ':'
  match s with
  | '0' :: 'b' :: c :: rest =>
    if (c :: rest).all (isSpaced 2) then some (numberOf? 2 (c :: rest)) else none
  | '0' :: 'x' :: c :: rest =>
    if (c :: rest).all (isSpaced 16) then some (numberOf? 16 (c :: rest)) else none
  | '0' :: c :: rest => if (c :: rest).all (isSpaced 8) then some (numberOf? 8 s) else none
  | s =>
    if isDecimal s then some (numberOf? 10 s)
    else if s.head? != some '0' && isDecimal (parts.headD []) && 1 < parts.length &&
        (parts.drop 1).all isSixtieth then
      some (parts.foldl (fun n part => do return 60 * (← n) + (← numberOf? 10 part)) (some 0))
    else none

/-- The sign of a number and the text after it. -/
def signOf : List Char → Bool × List Char
  | '-' :: rest => (true, rest)
  | '+' :: rest => (false, rest)
  | rest => (false, rest)

def integer? (s : List Char) : Option (Option Int) :=
  let (negative, s) := signOf s
  (magnitude? s).map fun n => n.map fun n => if negative then -(n : Int) else n

/-- Nothing, or an exponent with its sign. -/
def isPower : List Char → Bool
  | [] => true
  | mark :: sign :: ds =>
    (mark == 'e' || mark == 'E') && (sign == '+' || sign == '-') && !ds.isEmpty &&
      ds.all (isDigitOf 10)
  | _ => false

/-- Digits, a point and what may follow it. A number that starts with the point has no sign. -/
def isPointed (signed : Bool) (s : List Char) : Bool :=
  let whole := s.takeWhile (isSpaced 10)
  let fraction := (s.drop (whole.length + 1)).takeWhile (isSpaced 10)
  let startsRight := if whole.isEmpty then !signed && (fraction.head?.any (isDigitOf 10))
    else whole.head?.any (isDigitOf 10)
  startsRight && s[whole.length]? == some '.' &&
    isPower (s.drop (whole.length + 1 + fraction.length))

/-- The parts of a number to the base sixty, the last of which has a point. -/
def isPointedSixty (s : List Char) : Bool :=
  let parts := s.splitOn ':'
  let last := parts.getLastD []
  let head := parts.headD []
  1 < parts.length && head.head?.any (isDigitOf 10) && head.all (isSpaced 10) &&
    ((parts.drop 1).dropLast).all isSixtieth && isSixtieth (last.takeWhile (· != '.')) &&
    last.contains '.' && ((last.dropWhile (· != '.')).drop 1).all (isSpaced 10)

def infinityWords : List String := [".inf", ".Inf", ".INF"]

def nanWords : List String := [".nan", ".NaN", ".NAN"]

/-- The value of a number to the base sixty: its whole part counts, with the digits after the
point as a fraction. -/
def sixtyValue (negative : Bool) (s : List Char) : Binary64 :=
  let places := ((s.dropWhile (· != '.')).drop 1).filter (· != '_')
  let parts := (s.takeWhile (· != '.')).splitOn ':'
  let whole := parts.foldl (fun n part => 60 * n + (numberOf? 10 part).getD 0) 0
  let scale := Nat.pow 10 places.length
  .ofRatio negative (whole * scale + (numberOf? 10 places).getD 0) scale

def double? (s : List Char) : Option Binary64 :=
  let (negative, magnitude) := signOf s
  let word := String.ofList magnitude
  if infinityWords.contains word then some (.infinity negative)
  else if nanWords.contains (String.ofList s) then some .nan
  else if isPointed (magnitude.length != s.length) magnitude then
    Checked.magnitudeText? negative (magnitude.filter (· != '_'))
  else if isPointedSixty magnitude then some (sixtyValue negative magnitude)
  else none

/-- Takes between `least` and `most` digits. -/
def takeDigits? (least most : Nat) (s : List Char) : Option (Nat × List Char) :=
  let ds := (s.takeWhile (isDigitOf 10)).take most
  if ds.length < least then none else some ((numberOf? 10 ds).getD 0, s.drop ds.length)

def takeChar? (c : Char) : List Char → Option (List Char)
  | [] => none
  | d :: rest => if d == c then some rest else none

def isLeap (year : Nat) : Bool := year % 4 == 0 && (year % 100 != 0 || year % 400 == 0)

def daysIn (year month : Nat) : Nat :=
  if month == 2 then if isLeap year then 29 else 28
  else if [4, 6, 9, 11].contains month then 30
  else 31

def isDay (year month day : Nat) : Bool :=
  1 ≤ year && 1 ≤ month && month ≤ 12 && 1 ≤ day && day ≤ daysIn year month

/-- The offset from universal time at the end of a date: whether it is a possible one. -/
def offset? (s : List Char) : Option Bool :=
  match s.dropWhile fun c => c == ' ' || c == '\t' with
  | [] => if s.isEmpty then some true else none
  | ['Z'] => some true
  | sign :: rest =>
    if sign == '+' || sign == '-' then do
      let (hours, rest) ← takeDigits? 1 2 rest
      if rest.isEmpty then some (hours < 24)
      else
        let (minutes, rest) ← takeDigits? 2 2 (← takeChar? ':' rest)
        if rest.isEmpty then some (hours * 60 + minutes < 24 * 60) else none
    else none

/-- The time of day in a date and what follows it: whether they are possible ones. -/
def clock? (s : List Char) : Option Bool := do
  let rest ← match s with
    | 'T' :: rest => some rest
    | 't' :: rest => some rest
    | s =>
      let blanks := s.takeWhile fun c => c == ' ' || c == '\t'
      if blanks.isEmpty then none else some (s.drop blanks.length)
  let (hour, rest) ← takeDigits? 1 2 rest
  let (minute, rest) ← takeDigits? 2 2 (← takeChar? ':' rest)
  let (second, rest) ← takeDigits? 2 2 (← takeChar? ':' rest)
  let rest := match rest with
    | '.' :: rest => rest.dropWhile (isDigitOf 10)
    | rest => rest
  let sound ← offset? rest
  return sound && hour < 24 && minute < 60 && second < 60

/-- Whether a text looks like a date, and whether there is such a date. -/
def date? (s : List Char) : Option Bool := do
  let (year, rest) ← takeDigits? 4 4 s
  let afterYear ← takeChar? '-' rest
  let (month, rest) ← takeDigits? 1 2 afterYear
  let afterMonth ← takeChar? '-' rest
  let (day, rest) ← takeDigits? 1 2 afterMonth
  if rest.isEmpty then if s.length == 10 then some (isDay year month day) else none
  else return (← clock? rest) && isDay year month day

/-- A day or a moment of it, with the text that it was written as. -/
def dateValue (text : String) : Scalar :=
  value (.other (if text.length == 10 then "datetime.date" else "datetime.datetime") text)

/-- The fault of a number or a date that does not exist. -/
def noSuchValue (text : String) : Fault := .reported .value s!"there is no value {quoted text}"

/-- What a plain scalar stands for. -/
def ofPlain (text : String) : Except Fault Scalar :=
  let s := text.toList
  if nullWords.contains text then .ok (value .null)
  else if trueWords.contains text then .ok (value (.bool true))
  else if falseWords.contains text then .ok (value (.bool false))
  else if text == "<<" then .ok merge
  else if text == "=" then .ok equals
  else
    match integer? s, double? s, date? s with
    | some (some n), _, _ => .ok (value (.int n))
    | some none, _, _ => .error (noSuchValue text)
    | none, some x, _ => .ok (value (.float x))
    | none, none, some true => .ok (dateValue text)
    | none, none, some false => .error (noSuchValue text)
    | none, none, none => .ok (value (.text text))

/-- The tags by which a scalar says what it stands for. -/
inductive Tag
  | plain
  | str
  | null
  | merge
  | bool
  | int
  | float
  | timestamp

def tag? (tag : String) : Option Tag :=
  [("!", .plain), ("tag:yaml.org,2002:str", .str), ("tag:yaml.org,2002:null", .null),
    ("tag:yaml.org,2002:merge", .merge), ("tag:yaml.org,2002:bool", .bool),
    ("tag:yaml.org,2002:int", .int), ("tag:yaml.org,2002:float", .float),
    ("tag:yaml.org,2002:timestamp", .timestamp)].lookup tag

/-- A truth word that is none has no value in the table of these words. -/
def boolOf (text : String) : Except Fault Atom :=
  let word := text.map Char.toLower
  if trueWords.contains word then .ok (.bool true)
  else if falseWords.contains word then .ok (.bool false)
  else .error (.reported (.other ⟨"KeyError", by decide⟩) word)

/-- A number of no characters has no first one. -/
def noFirst : Fault := .outOfRange "string index out of range"

def intOf (text : String) : Except Fault Atom :=
  let s := text.toList.filter (· != '_')
  if (signOf s).2.isEmpty then .error noFirst
  else
    match integer? text.toList with
    | some (some n) => .ok (.int n)
    | _ => .error (noSuchValue text)

def floatOf (text : String) : Except Fault Atom :=
  if (text.toList.filter (· != '_')).isEmpty then .error noFirst
  else
    match double? text.toList, integer? text.toList with
    | some x, _ => .ok (.float x)
    | none, some (some n) => .ok (.float (.ofRatio (n < 0) n.natAbs 1))
    | none, _ => .error (noSuchValue text)

/-- What a scalar with a tag stands for. -/
def ofTagged (tag text : String) : Except Fault Scalar :=
  match tag? tag with
  | none => .error malformed
  | some .plain => ofPlain text
  | some .str => .ok (value (.text text))
  | some .null => .ok (value .null)
  | some .merge => .ok merge
  | some .bool => value <$> boolOf text
  | some .int => value <$> intOf text
  | some .float => value <$> floatOf text
  | some .timestamp =>
    match date? text.toList with
    | some true => .ok (dateValue text)
    | some false => .error (noSuchValue text)
    | none => .error (.noAttribute "'NoneType' object has no attribute 'groupdict'")

/-- The value of a scalar outside of keys. The signs that only a key may be stand for nothing here. -/
def datum? : Scalar → Option Datum
  | value a => some (.atom a)
  | merge => none
  | equals => none

/-- The scalar as a key. -/
def key : Scalar → Atom
  | value a => a
  | merge => .text "<<"
  | equals => .text "="

end Scalar

end ScenarioRunner.Yaml
