import ScenarioRunner.Yaml.Place
import ScenarioRunner.Yaml.Scalar

/-! The texts of YAML scalars: quoted, plain and block ones. A break inside a quoted or plain scalar
and the blanks around it read as one blank; of several breaks in a row the first is dropped. Each
reader gives the text and the place after it, or nothing where the text is malformed. -/
namespace ScenarioRunner.Yaml

/-- What breaks in a row come to inside a folded text: the first is dropped, and it leaves a blank if
it was the only one. Breaks other than the newline stay. -/
def folded (first : Char) (others : List Char) : List Char :=
  if first != '\n' then first :: others
  else if others.isEmpty then [' ']
  else others

namespace Quoted

/-- The character that a letter after a backslash stands for. -/
def escape? : Char → Option Char
  | '0' => some '\x00'
  | 'a' => some '\x07'
  | 'b' => some '\x08'
  | 't' => some '\t'
  | '\t' => some '\t'
  | 'n' => some '\n'
  | 'v' => some '\x0b'
  | 'f' => some '\x0c'
  | 'r' => some '\r'
  | 'e' => some '\x1b'
  | ' ' => some ' '
  | '"' => some '"'
  | '\\' => some '\\'
  | '/' => some '/'
  | 'N' => some '\u0085'
  | '_' => some '\u00a0'
  | 'L' => some '\u2028'
  | 'P' => some '\u2029'
  | _ => none

/-- How many hexadecimal digits follow a letter after a backslash. -/
def escapeWidth? : Char → Option Nat
  | 'x' => some 2
  | 'u' => some 4
  | 'U' => some 8
  | _ => none

/-- The breaks from here on, with the blanks before and after each. No line may part documents. -/
def breaks? : Nat → Place → Option (List Char × Place)
  | 0, p => some ([], p)
  | fuel + 1, p =>
    if p.isAnySeparator then none
    else
      let p := p.skipRun isBlankChar
      match p.takeBreak? with
      | none => some ([], p)
      | some (c, p) => do
        let (others, p) ← breaks? fuel p
        return (c :: others, p)

/-- What blanks and breaks come to, and the place after them. -/
def spaces? (p : Place) : Option (List Char × Place) :=
  let blanks := p.run isBlankChar
  let p := p.skip blanks.length
  match p.here?, p.takeBreak? with
  | none, _ => none
  | some _, none => some (blanks, p)
  | some _, some (first, p) => do
    let (others, p) ← breaks? p.rest.length p
    return (folded first others, p)

/-- The character of an escape from behind its letter. -/
def numbered? (width : Nat) (p : Place) : Option (Char × Place) :=
  let ds := p.rest.take width
  let n := ds.foldl (fun n c => 16 * n + (Scalar.hexDigit? c).getD 0) 0
  if ds.length == width && ds.all (fun c => (Scalar.hexDigit? c).isSome) && n ≤ 0x10FFFF then
    some (if 0xD800 ≤ n && n ≤ 0xDFFF then '\ufffd' else Char.ofNat n, p.skip width)
  else none

/-- The text up to the closing quote, and the place after that. -/
def body? (double : Bool) : Nat → Place → Option (List Char × Place)
  | 0, _ => none
  | fuel + 1, p =>
    let go (text : List Char) (p : Place) := (body? double fuel p).map fun (rest, p) => (text ++ rest, p)
    match p.here? with
    | none => none
    | some c =>
      if isBlankChar c || isBreak c then do
        let (text, p) ← spaces? p
        go text p
      else if !double && c == '\'' then
        if p.ahead? 1 == some '\'' then go ['\''] (p.skip 2) else some ([], p.next)
      else if double && c == '"' then some ([], p.next)
      else if double && c == '\\' then do
        let letter ← p.ahead? 1
        match escape? letter, escapeWidth? letter with
        | some e, _ => go [e] (p.skip 2)
        | none, some width => do
          let (e, p) ← numbered? width (p.skip 2)
          go [e] p
        | none, none =>
          if isBreak letter then do
            let (others, p) ← breaks? p.rest.length (p.skip 2)
            go others p
          else none
      else go [c] p.next

/-- A quoted scalar, from its opening quote on. -/
def read? (p : Place) : Option (String × Place) := do
  let (text, after) ← body? (p.is '"') p.rest.length p.next
  return (String.ofList text, after)

end Quoted

namespace Plain

/-- Ends a word of a plain scalar; `after` is the character behind. Between brackets more characters
do. -/
def endsWord (inFlow : Bool) (c : Char) (after : Option Char) : Bool :=
  isBlankChar c || isBreak c ||
    (c == ':' && (isGap after || (inFlow && after.any ",[]\x7b\x7d".toList.contains))) ||
    (inFlow && ",?[]\x7b\x7d".toList.contains c)

/-- The length of the word that starts the text. -/
def wordLength (inFlow : Bool) : List Char → Nat
  | [] => 0
  | c :: rest => if endsWord inFlow c rest.head? then 0 else wordLength inFlow rest + 1

/-- Breaks and blanks from here on, up to a line that parts documents. The flag tells that there is
such a line. -/
def breaks : Nat → Place → List Char × Place × Bool
  | 0, p => ([], p, false)
  | fuel + 1, p =>
    if p.isAnySeparator then ([], p, true)
    else
      let p := p.skipRun (· == ' ')
      match p.takeBreak? with
      | none => ([], p, false)
      | some (c, p) =>
        let (others, p, parted) := breaks fuel p
        (c :: others, p, parted)

/-- What blanks and breaks behind a word come to, and the place after them; whether a break was
among them; and whether the scalar can go on. -/
structure Space where
  text : List Char
  place : Place
  broken : Bool := false
  goesOn : Bool := true

def space (p : Place) : Space :=
  let blanks := p.run (· == ' ')
  let p := p.skip blanks.length
  match p.takeBreak? with
  | none => { text := blanks, place := p, goesOn := !blanks.isEmpty }
  | some (first, p) =>
    let (others, p, parted) := breaks p.rest.length p
    { text := folded first others, place := p, broken := true, goesOn := !parted }

/-- A scalar that was read: its text, the place after it, and whether it ends at the start of a line. -/
structure Reading where
  text : List Char
  place : Place
  broken : Bool

/-- The words from here on; lines outside of brackets have to be indented at least so far. -/
def words (inFlow : Bool) (indent : Nat) : Nat → Place → Reading
  | 0, p => ⟨[], p, false⟩
  | fuel + 1, p =>
    let length := if p.is '#' then 0 else wordLength inFlow p.rest
    if length = 0 then ⟨[], p, false⟩
    else
      let word := p.rest.take length
      let gap := space (p.skip length)
      let stop : Reading := ⟨word, gap.place, gap.broken⟩
      if !gap.goesOn || gap.place.is '#' || (!inFlow && gap.place.column < indent) then stop
      else
        let more := words inFlow indent fuel gap.place
        if more.text.isEmpty then stop
        else { more with text := word ++ gap.text ++ more.text }

end Plain

namespace Block

/-- What becomes of the breaks at the end of a block. -/
inductive Chomping
  | clip
  | strip
  | keep
deriving DecidableEq, Repr

def chomping? : Char → Option Chomping
  | '+' => some .keep
  | '-' => some .strip
  | _ => none

/-- A step of indentation. -/
def step? (c : Char) : Option Nat :=
  if '1' ≤ c && c ≤ '9' then some (c.toNat - '0'.toNat) else none

structure Header where
  chomping : Chomping := .clip
  /-- How far the block is indented beyond its parent, where the header tells. -/
  step : Option Nat := none
deriving DecidableEq, Repr

/-- The signs behind the one that opens a block, in either order. -/
def header (p : Place) : Header × Place :=
  match p.here?.bind chomping?, p.here?.bind step? with
  | some chomping, _ =>
    match p.next.here?.bind step? with
    | some step => (⟨chomping, some step⟩, p.skip 2)
    | none => (⟨chomping, none⟩, p.next)
  | none, some step =>
    match p.next.here?.bind chomping? with
    | some chomping => (⟨chomping, some step⟩, p.skip 2)
    | none => (⟨.clip, some step⟩, p.next)
  | none, none => ({}, p)

/-- The place after the rest of the header's line, which may hold a comment. -/
def afterHeader? (p : Place) : Option Place :=
  if !(isLineEnd p.here? || p.is ' ') then none
  else
    let p := (p.skipRun (· == ' ')).skipComment
    if isLineEnd p.here? then some p.skipBreak else none

/-- The empty lines before the first line of a block, and the deepest indentation among them and
that line. -/
def margin (deepest : Nat) : Nat → Place → List Char × Nat × Place
  | 0, p => ([], deepest, p)
  | fuel + 1, p =>
    let p := p.skipRun (· == ' ')
    let deepest := max deepest p.column
    match p.takeBreak? with
    | none => ([], deepest, p)
    | some (c, p) =>
      let (others, deepest, p) := margin deepest fuel p
      (c :: others, deepest, p)

/-- The place after the blanks here, up to a column. -/
def toColumn (column : Nat) (p : Place) : Place :=
  p.skip (min (column - p.column) (p.run (· == ' ')).length)

/-- The empty lines from here on, and the place at the column of the next line. -/
def breaks (column : Nat) : Nat → Place → List Char × Place
  | 0, p => ([], p)
  | fuel + 1, p =>
    let p := toColumn column p
    match p.takeBreak? with
    | none => ([], p)
    | some (c, p) =>
      let (others, p) := breaks column fuel p
      (c :: others, p)

/-- What stands between a line and the next one of the block. In a folded block two lines that both
start at its column run together. -/
def between (fold : Bool) (lineBreak : List Char) (first next : Option Char) (empty : List Char) :
    List Char :=
  let starts (c : Option Char) := !c.any isBlankChar
  if fold && lineBreak == ['\n'] && starts first && starts next then
    if empty.isEmpty then [' '] else []
  else lineBreak

/-- The breaks that a block ends with. -/
def ending (chomping : Chomping) (lineBreak empty : List Char) : List Char :=
  match chomping with
  | .strip => []
  | .clip => lineBreak
  | .keep => lineBreak ++ empty

/-- The lines of a block from here on, where `empty` are the empty lines before. -/
def lines (fold : Bool) (chomping : Chomping) (column : Nat) :
    Nat → List Char → Place → List Char × Place
  | 0, _, p => ([], p)
  | fuel + 1, empty, p =>
    let line := p.run (!isBreak ·)
    let afterLine := p.skip line.length
    let lineBreak := (afterLine.takeBreak?.map (·.1)).toList
    let (later, next) := breaks column p.rest.length afterLine.skipBreak
    if next.column == column && next.here?.isSome then
      let (rest, after) := lines fold chomping column fuel later next
      (empty ++ line ++ between fold lineBreak p.here? next.here? later ++ rest, after)
    else (empty ++ line ++ ending chomping lineBreak later, next)

/-- A block, from the sign that opens it on, inside of a parent with an indentation. -/
def read? (parent : Int) (p : Place) : Option (String × Place) := do
  let (header, after) := header p.next
  let start ← afterHeader? after
  let least := max 1 (parent + 1).toNat
  let fuel := p.rest.length
  let (column, empty, first) := match header.step with
    | some step =>
      let column := least + step - 1
      let (empty, first) := breaks column fuel start
      (column, empty, first)
    | none =>
      let (empty, deepest, first) := margin 0 fuel start
      (max least deepest, empty, first)
  let (text, after) :=
    if first.column == column && first.here?.isSome then
      lines (p.is '>') header.chomping column fuel empty first
    else (ending header.chomping [] empty, first)
  return (String.ofList text, after)

end Block

end ScenarioRunner.Yaml
