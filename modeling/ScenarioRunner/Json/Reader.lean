import ScenarioRunner.Json.Value
import ScenarioRunner.Numeral.Integer

/-! Reading JSON text. The reader works on what is left of the text; a fault remembers how much was
left, from which its line and column are found. Beside the standard's values it takes `NaN`,
`Infinity` and `-Infinity`; of equal names in an object the last one counts. Control characters
inside strings are refused by the strict reader and taken by the lenient one. -/
namespace ScenarioRunner.Json

/-- What is wrong at a place of the text. -/
inductive Complaint
  | expectingValue
  | expectingName
  | expectingColon
  | expectingComma
  | extraData
  | unterminatedString
  | invalidEscape
  | invalidUnicodeEscape
  | controlCharacter
  | byteOrderMark
deriving DecidableEq, Repr

def Complaint.message : Complaint → String
  | expectingValue => "Expecting value"
  | expectingName => "Expecting property name enclosed in double quotes"
  | expectingColon => "Expecting ':' delimiter"
  | expectingComma => "Expecting ',' delimiter"
  | extraData => "Extra data"
  | unterminatedString => "Unterminated string starting at"
  | invalidEscape => "Invalid \\escape"
  | invalidUnicodeEscape => "Invalid \\uXXXX escape"
  | controlCharacter => "Invalid control character at"
  | byteOrderMark => "Unexpected UTF-8 BOM (decode using utf-8-sig)"

/-- Why a text was refused, with the number of characters left at the fault. -/
inductive Refusal
  | badText (complaint : Complaint) (left : Nat)
  /-- An integer has more digits than are read. -/
  | longInteger (digits : Nat)
deriving DecidableEq, Repr

def refuse {α : Type} (complaint : Complaint) (rest : List Char) : Except Refusal α :=
  .error (.badText complaint rest.length)

def isSpace (c : Char) : Bool := c == ' ' || c == '\t' || c == '\n' || c == '\r'

def skipSpace (s : List Char) : List Char := s.dropWhile isSpace

def hexValue? (c : Char) : Option Nat :=
  if '0' ≤ c && c ≤ '9' then some (c.toNat - '0'.toNat)
  else if 'a' ≤ c && c ≤ 'f' then some (c.toNat - 'a'.toNat + 10)
  else if 'A' ≤ c && c ≤ 'F' then some (c.toNat - 'A'.toNat + 10)
  else none

/-- Four hexadecimal digits with at least one character after them. -/
def hexFour? : List Char → Option (Nat × List Char)
  | a :: b :: c :: d :: next :: rest => do
    let a ← hexValue? a
    let b ← hexValue? b
    let c ← hexValue? c
    let d ← hexValue? d
    return (((a * 16 + b) * 16 + c) * 16 + d, next :: rest)
  | _ => none

/-- The character after a backslash and the one it stands for. -/
def escapeLetter? : Char → Option Char
  | '"' => some '"'
  | '\\' => some '\\'
  | '/' => some '/'
  | 'b' => some '\x08'
  | 'f' => some '\x0c'
  | 'n' => some '\n'
  | 'r' => some '\r'
  | 't' => some '\t'
  | _ => none

/-- The character of a code unit; a surrogate without its partner is the replacement character. -/
def unitChar (n : Nat) : Char :=
  if 0xD800 ≤ n && n ≤ 0xDFFF then '\ufffd' else Char.ofNat n

/-- Whether the text goes on with an escaped code unit and something after it. -/
def unitFollows : List Char → Bool
  | '\\' :: 'u' :: _ :: _ :: _ :: _ :: _ :: _ => true
  | _ => false

/-- The characters of a string literal from behind its opening quote, where `opened` is the text
from that quote on. -/
def readChars (strict : Bool) (opened : List Char) : Nat → List Char → Except Refusal (List Char × List Char)
  | 0, _ => refuse .unterminatedString opened
  | _ + 1, [] => refuse .unterminatedString opened
  | _ + 1, '"' :: rest => .ok ([], rest)
  | _ + 1, ['\\'] => refuse .unterminatedString opened
  | fuel + 1, '\\' :: 'u' :: rest =>
    match hexFour? rest with
    | none => refuse .invalidUnicodeEscape ('u' :: rest)
    | some (unit, after) =>
      if 0xD800 ≤ unit && unit ≤ 0xDBFF && unitFollows after then
        match hexFour? (after.drop 2) with
        | none => refuse .invalidUnicodeEscape (after.drop 1)
        | some (second, later) =>
          if 0xDC00 ≤ second && second ≤ 0xDFFF then do
            let (s, rest) ← readChars strict opened fuel later
            let c := Char.ofNat (0x10000 + (unit - 0xD800) * 0x400 + (second - 0xDC00))
            return (c :: s, rest)
          else do
            let (s, rest) ← readChars strict opened fuel after
            return (unitChar unit :: s, rest)
      else do
        let (s, rest) ← readChars strict opened fuel after
        return (unitChar unit :: s, rest)
  | fuel + 1, '\\' :: c :: rest =>
    match escapeLetter? c with
    | none => refuse .invalidEscape ('\\' :: c :: rest)
    | some e => do
      let (s, rest) ← readChars strict opened fuel rest
      return (e :: s, rest)
  | fuel + 1, c :: rest =>
    if strict && c.toNat < 0x20 then refuse .controlCharacter (c :: rest)
    else do
      let (s, rest) ← readChars strict opened fuel rest
      return (c :: s, rest)

/-- A string literal, from its opening quote on. -/
def readString (strict : Bool) (s : List Char) : Except Refusal (String × List Char) := do
  let (chars, rest) ← readChars strict s s.length (s.drop 1)
  return (String.ofList chars, rest)

def isAsciiDigit (c : Char) : Bool := '0' ≤ c && c ≤ '9'

def naturalOf (ds : List Char) : Nat := Numeral.ofDigits (ds.map fun c => c.toNat - '0'.toNat)

/-- The digits after a point, with the text after them; nothing where no digit follows. -/
def fraction? : List Char → Option (List Char × List Char)
  | '.' :: rest =>
    let ds := rest.takeWhile isAsciiDigit
    if ds.isEmpty then none else some (ds, rest.dropWhile isAsciiDigit)
  | _ => none

/-- An exponent, with the text after it; nothing where no digit follows the mark. -/
def exponent? : List Char → Option (Int × List Char)
  | mark :: rest =>
    if mark == 'e' || mark == 'E' then
      let (negative, rest) := match rest with
        | '-' :: rest => (true, rest)
        | '+' :: rest => (false, rest)
        | rest => (false, rest)
      let ds := rest.takeWhile isAsciiDigit
      if ds.isEmpty then none
      else
        let n : Int := naturalOf ds
        some (if negative then -n else n, rest.dropWhile isAsciiDigit)
    else none
  | [] => none

/-- The digits before the point: a zero, or digits that do not start with one. -/
def wholePart? : List Char → Option (List Char × List Char)
  | '0' :: rest => some (['0'], rest)
  | c :: rest =>
    if isAsciiDigit c then
      some (c :: rest.takeWhile isAsciiDigit, rest.dropWhile isAsciiDigit)
    else none
  | [] => none

/-- A number without its sign. A fraction or an exponent makes it a double-precision number. -/
def readMagnitude (negative : Bool) (whole rest : List Char) : Except Refusal (Json × List Char) :=
  match fraction? rest, exponent? ((fraction? rest).elim rest (·.2)) with
  | none, none =>
    if Numeral.maxDigits < whole.length then .error (.longInteger whole.length)
    else
      let n : Int := naturalOf whole
      .ok (.int (if negative then -n else n), rest)
  | part, power =>
    let places := part.elim [] (·.1)
    let afterPart := part.elim rest (·.2)
    let exponent := power.elim 0 (·.1)
    let rest := power.elim afterPart (·.2)
    .ok (.float (.ofDecimal negative (naturalOf (whole ++ places)) (exponent - places.length)), rest)

def readNumber (s : List Char) : Except Refusal (Json × List Char) :=
  let (negative, digits) := match s with
    | '-' :: rest => (true, rest)
    | rest => (false, rest)
  match wholePart? digits with
  | some (whole, rest) => readMagnitude negative whole rest
  | none => refuse .expectingValue s

/-- Words that stand for a value. -/
def words : List (List Char × Json) :=
  [("null".toList, .null), ("true".toList, .bool true), ("false".toList, .bool false),
   ("NaN".toList, .float .nan), ("Infinity".toList, .float (.infinity false)),
   ("-Infinity".toList, .float (.infinity true))]

def readWord? (s : List Char) : Option (Json × List Char) :=
  words.findSome? fun (word, value) => if word.isPrefixOf s then some (value, s.drop word.length) else none

mutual

/-- A value at the very start of the text. Each call spends one unit of fuel, and a text of `n`
characters needs at most `2 * n + 2`. -/
def readValue (strict : Bool) : Nat → List Char → Except Refusal (Json × List Char)
  | 0, s => refuse .expectingValue s
  | _ + 1, [] => refuse .expectingValue []
  | fuel + 1, c :: rest =>
    if c == '"' then (readString strict (c :: rest)).map fun (s, rest) => (.str s, rest)
    else if c == '\x7b' then
      match skipSpace rest with
      | '\x7d' :: rest => .ok (.obj [], rest)
      | rest => do
        let (fields, rest) ← readFields strict fuel rest
        return (.obj (Assoc.ofPairs fields), rest)
    else if c == '[' then
      match skipSpace rest with
      | ']' :: rest => .ok (.arr [], rest)
      | rest => do
        let (items, rest) ← readItems strict fuel rest
        return (.arr items, rest)
    else
      match readWord? (c :: rest) with
      | some reading => .ok reading
      | none => readNumber (c :: rest)

/-- The items of a list, the first of which starts here, and the bracket that closes it. -/
def readItems (strict : Bool) : Nat → List Char → Except Refusal (List Json × List Char)
  | 0, s => refuse .expectingValue s
  | fuel + 1, s => do
    let (v, rest) ← readValue strict fuel s
    match skipSpace rest with
    | ']' :: rest => return ([v], rest)
    | ',' :: rest =>
      let (items, rest) ← readItems strict fuel (skipSpace rest)
      return (v :: items, rest)
    | rest => refuse .expectingComma rest

/-- The fields of an object, the first of which starts here, and the brace that closes it. -/
def readFields (strict : Bool) : Nat → List Char → Except Refusal (List (String × Json) × List Char)
  | 0, s => refuse .expectingName s
  | fuel + 1, s =>
    match s with
    | '"' :: _ => do
      let (name, rest) ← readString strict s
      match skipSpace rest with
      | ':' :: rest =>
        let (v, rest) ← readValue strict fuel (skipSpace rest)
        match skipSpace rest with
        | '\x7d' :: rest => return ([(name, v)], rest)
        | ',' :: rest =>
          let (fields, rest) ← readFields strict fuel (skipSpace rest)
          return ((name, v) :: fields, rest)
        | rest => refuse .expectingComma rest
      | rest => refuse .expectingColon rest
    | s => refuse .expectingName s

end

/-- Reads a whole document. -/
def readDocument (strict : Bool) (s : List Char) : Except Refusal Json :=
  match s with
  | '\ufeff' :: _ => refuse .byteOrderMark s
  | _ => do
    let start := skipSpace s
    let (v, rest) ← readValue strict (2 * start.length + 2) start
    match skipSpace rest with
    | [] => return v
    | rest => refuse .extraData rest

/-- The message of a refusal of the text `s`. -/
def Refusal.message (s : List Char) : Refusal → String
  | badText complaint left =>
    let place := s.length - left
    let before := s.take place
    let line := before.count '\n' + 1
    let column := (before.reverse.takeWhile (· != '\n')).length + 1
    s!"{complaint.message}: line {line} column {column} (char {place})"
  | longInteger digits =>
    s!"Exceeds the limit ({Numeral.maxDigits} digits) for integer string conversion: value has " ++
      s!"{digits} digits; use sys.set_int_max_str_digits() to increase the limit"

end ScenarioRunner.Json
