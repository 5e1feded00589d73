import ScenarioRunner.Numeral.Integer
import ScenarioRunner.Regex.Syntax
import ScenarioRunner.Text.Identifier
import ScenarioRunner.Text.Name

/-! Reading the source of a regular expression. The reader goes through the source once; every call
that reads further spends fuel, of which there is enough for the length of the source. How deep
groups may be nested has no limit here. -/
namespace ScenarioRunner.Regex

/-- Why a source is no regular expression. -/
inductive Fault
  /-- The source breaks a rule of the notation. -/
  | malformed
  /-- A repetition count is too large to be counted. -/
  | countTooLarge
deriving DecidableEq, Repr

/-- Options of a group. -/
structure Options where
  ignoreCase : Bool := false
  manyLines : Bool := false
  dotAll : Bool := false
  verbose : Bool := false
  ascii : Bool := false
deriving DecidableEq, Repr

def Options.caseRule (o : Options) : CaseRule :=
  if o.ignoreCase then (if o.ascii then .asciiLetters else .allLetters) else .exact

/-- The least and the greatest number of characters that a node reads, the latter if bounded. -/
abbrev Width := Nat × Option Nat

def Width.add (v w : Width) : Width := (v.1 + w.1, do return (← v.2) + (← w.2))

def Width.join (v w : Width) : Width := (min v.1 w.1, do return max (← v.2) (← w.2))

/-- The width of a node, given the widths of the groups closed so far. -/
def Node.width (closed : List (Nat × Width)) : Node → Width
  | .empty => (0, some 0)
  | .one _ => (1, some 1)
  | .anchor _ => (0, some 0)
  | .seq a b => (a.width closed).add (b.width closed)
  | .either a b => (a.width closed).join (b.width closed)
  | .group _ body => body.width closed
  | .again _ least most body =>
    let (low, high) := body.width closed
    (low * least,
      match high, most with
      | some 0, _ => some 0
      | _, some 0 => some 0
      | some h, some m => some (h * m)
      | _, _ => none)
  | .backref number _ => (closed.lookup number).getD (0, some 0)
  | .ahead .. => (0, some 0)
  | .behind .. => (0, some 0)
  | .atomic body => body.width closed
  | .ifGroup _ yes no => (yes.width closed).join (no.width closed)

/-- What the reader knows at a place of the source. -/
structure Progress where
  rest : List Char
  /-- The number of the next group. -/
  nextGroup : Nat := 1
  names : List (String × Nat) := []
  closed : List (Nat × Width) := []
  /-- Inside a look behind: the number of the first group that it may not refer to. -/
  behindFrom : Option Nat := none
  /-- The groups that conditions ask for by number. -/
  asked : List Nat := []
  /-- Some look behind has no fixed width, which only counts when all of the source was read. -/
  uneven : Bool := false

abbrev ReadM := StateT Progress (Except Fault)

def fail {α : Type} : ReadM α := throw .malformed

/-- The next sign: a character, or a backslash and the character after it. A sign of two characters
is therefore an escape. -/
def peek : ReadM (Option (List Char)) := do
  match (← get).rest with
  | [] => return none
  | ['\\'] => fail
  | '\\' :: c :: _ => return some ['\\', c]
  | c :: _ => return some [c]

def skip (n : Nat) : ReadM Unit := modify fun p => { p with rest := p.rest.drop n }

def take? : ReadM (Option (List Char)) := do
  let sign ← peek
  skip (sign.elim 0 List.length)
  return sign

/-- Reads the character `c` if it comes next. -/
def accept (c : Char) : ReadM Bool := do
  if (← peek) == some [c] then
    skip 1
    return true
  return false

/-- Reads up to `n` characters of a kind. -/
def takeUpTo (n : Nat) (kind : Char → Bool) : ReadM (List Char) := do
  let found := ((← get).rest.take n).takeWhile kind
  skip found.length
  return found

/-- The text before the first sign that is the character `c`, and the text behind it. -/
def cutAtSign? (c : Char) : List Char → Option (List Char × List Char)
  | [] => none
  | '\\' :: d :: rest => (cutAtSign? c rest).map fun (before, after) => ('\\' :: d :: before, after)
  | d :: rest =>
    if d == c then some ([], rest)
    else (cutAtSign? c rest).map fun (before, after) => (d :: before, after)

/-- Reads up to the first sign that is the character `c` and over it, if there is one. -/
def takePast? (c : Char) : ReadM (Option (List Char)) := do
  match cutAtSign? c (← get).rest with
  | some (before, after) =>
    modify fun p => { p with rest := after }
    return some before
  | none => return none

/-- Reads up to the terminator and over it. What is read is not empty. -/
def takeUntil (terminator : Char) : ReadM (List Char) := do
  match ← takePast? terminator with
  | some name => if name.isEmpty then fail else return name
  | none => fail

def isOctal (c : Char) : Bool := '0' ≤ c && c ≤ '7'

def isHex (c : Char) : Bool := c.isDigit || ('a' ≤ c && c ≤ 'f') || ('A' ≤ c && c ≤ 'F')

def digitOf (c : Char) : Nat :=
  if c.isDigit then c.toNat - '0'.toNat else c.toLower.toNat - 'a'.toNat + 10

def numberIn (base : Nat) (ds : List Char) : Nat := ds.foldl (fun n c => base * n + digitOf c) 0

/-- A code point of exactly `n` hexadecimal digits. -/
def hexCode (n : Nat) : ReadM Nat := do
  let ds ← takeUpTo n isHex
  if ds.length != n then fail
  let code := numberIn 16 ds
  if 0x10FFFF < code then fail
  return code

/-- The code point of a character that is called by its name. -/
def namedCode : ReadM Nat := do
  if !(← accept '\x7b') then fail
  match Text.codeNamed? (← takeUntil '\x7d') with
  | some code => return code
  | none => fail

/-- The control character that an escape letter names. -/
def controlCode? : Char → Option Nat
  | 'a' => some 7
  | 'b' => some 8
  | 'f' => some 12
  | 'n' => some 10
  | 'r' => some 13
  | 't' => some 9
  | 'v' => some 11
  | '\\' => some 92
  | _ => none

def category? (ascii : Bool) : Char → Option SetItem
  | 'd' => some (.category .digit false ascii)
  | 'D' => some (.category .digit true ascii)
  | 's' => some (.category .blank false ascii)
  | 'S' => some (.category .blank true ascii)
  | 'w' => some (.category .word false ascii)
  | 'W' => some (.category .word true ascii)
  | _ => none

/-- A code point written in hexadecimal or by its name, after the letter that says so. -/
def codeEscape? : Char → Option (ReadM Nat)
  | 'N' => some namedCode
  | 'x' => some (hexCode 2)
  | 'u' => some (hexCode 4)
  | 'U' => some (hexCode 8)
  | _ => none

/-- An escape inside a character set. -/
def setEscape (o : Options) (c : Char) : ReadM SetItem := do
  if let some code := controlCode? c then return .char code
  if let some item := category? o.ascii c then return item
  if let some code := codeEscape? c then return .char (← code)
  if isOctal c then
    let n := numberIn 8 (c :: (← takeUpTo 2 isOctal))
    if 0o377 < n then fail
    return .char n
  if c.isAlphanum then fail
  return .char c.toNat

def single (o : Options) (code : Nat) : Node := .one { items := [.char code], caseRule := o.caseRule }

/-- The group may be referred to: it is closed and, inside a look behind, lies before it. -/
def checkBehind (number : Nat) : ReadM Unit := do
  let p ← get
  if let some first := p.behindFrom then
    if (p.closed.lookup number).isNone || first ≤ number then fail

def referTo (o : Options) (number : Nat) : ReadM Node := do
  if ((← get).closed.lookup number).isNone then fail
  checkBehind number
  return .backref number o.caseRule

/-- Anchors with an escape letter. -/
def anchor? (ascii : Bool) : Char → Option Anchor
  | 'A' => some .textStart
  | 'Z' => some .textEnd
  | 'b' => some (.wordEdge false ascii)
  | 'B' => some (.wordEdge true ascii)
  | _ => none

/-- An escape outside of sets. -/
def escape (o : Options) (c : Char) : ReadM Node := do
  if let some a := anchor? o.ascii c then return .anchor a
  if let some item := category? o.ascii c then
    return .one { items := [item], caseRule := o.caseRule }
  if let some code := controlCode? c then return single o code
  if let some code := codeEscape? c then return single o (← code)
  if c == '0' then return single o (numberIn 8 (c :: (← takeUpTo 2 isOctal)))
  if c.isDigit then
    -- three octal digits are a code point, anything shorter refers to a group
    let second ← takeUpTo 1 Char.isDigit
    if isOctal c && second.all isOctal && !second.isEmpty then
      let third ← takeUpTo 1 isOctal
      if !third.isEmpty then
        let n := numberIn 8 (c :: second ++ third)
        if 0o377 < n then fail
        return single o n
    return ← referTo o (numberIn 10 (c :: second))
  if c.isAlphanum then fail
  return single o c.toNat

/-- The code point of a sign inside a set, or the category that it names. -/
def setSign (o : Options) : List Char → ReadM SetItem
  | [_, c] => setEscape o c
  | [c] => return .char c.toNat
  | _ => fail

/-- The items of a set up to its closing bracket, which closes it only after a first item. -/
def setItems (o : Options) : Nat → List SetItem → ReadM (List SetItem)
  | 0, _ => fail
  | fuel + 1, items => do
    let some sign ← take? | fail
    if sign == [']'] && !items.isEmpty then return items.reverse
    let low ← setSign o sign
    if ← accept '-' then
      let some sign ← take? | fail
      if sign == [']'] then return (.char '-'.toNat :: low :: items).reverse
      match low, ← setSign o sign with
      | .char a, .char b => if b < a then fail else setItems o fuel (.range a b :: items)
      | _, _ => fail
    else setItems o fuel (low :: items)

def charSet (o : Options) : ReadM Node := do
  let inverted ← accept '^'
  let items ← setItems o ((← get).rest.length + 1) []
  return .one { items, inverted, caseRule := o.caseRule }

/-- Counts at or beyond this one cannot be counted. -/
def countLimit : Nat := 4294967295

/-- The count that digits stand for. More digits than a numeral may have are none at all. -/
def count (ds : List Char) : ReadM Nat := do
  if Numeral.maxDigits < ds.length then fail
  let n := numberIn 10 ds
  if countLimit ≤ n then throw .countTooLarge
  return n

/-- The counts between braces, or nothing if the braces are no repetition. -/
def counts? : ReadM (Option (Nat × Option Nat)) := do
  let start := (← get).rest
  let low ← takeUpTo start.length Char.isDigit
  let high ← if ← accept ',' then takeUpTo start.length Char.isDigit else pure low
  if start.head? == some '\x7d' || !(← accept '\x7d') then
    modify fun p => { p with rest := start }
    return none
  let least ← count low
  if high.isEmpty then return some (least, none)
  let most ← count high
  if most < least then fail
  return some (least, some most)

/-- What may be done with the part read last. -/
inductive Standing
  /-- Can be repeated. -/
  | free
  | anchored
  | repeated
deriving DecidableEq

/-- Flags of a group, switched on before the minus and off after it. -/
structure Switches where
  on : List Char
  off : List Char

def isFlag (c : Char) : Bool := c == 'i' || c == 'm' || c == 's' || c == 'x' || c == 'a' || c == 'u'

/-- Reads flags up to the colon; the letters `a` and `u` exclude each other and cannot be off. -/
def switches : ReadM Switches := do
  let on ← takeUpTo (← get).rest.length isFlag
  let minus ← accept '-'
  let off ← if minus then takeUpTo (← get).rest.length isFlag else pure []
  if !(← accept ':') || (minus && off.isEmpty) then fail
  if on.contains 'a' && on.contains 'u' then fail
  if off.contains 'a' || off.contains 'u' || on.any off.contains then fail
  return ⟨on, off⟩

def Options.switch (o : Options) (s : Switches) : Options :=
  let set (flag : Char) (old : Bool) := (old || s.on.contains flag) && !s.off.contains flag
  { ignoreCase := set 'i' o.ignoreCase
    manyLines := set 'm' o.manyLines
    dotAll := set 's' o.dotAll
    verbose := set 'x' o.verbose
    ascii := s.on.contains 'a' || (o.ascii && !s.on.contains 'u') }

def openGroup (name : Option String) : ReadM Nat := do
  let p ← get
  if let some name := name then
    if p.names.any (·.1 == name) then fail
  let names := name.elim p.names fun name => (name, p.nextGroup) :: p.names
  set { p with nextGroup := p.nextGroup + 1, names }
  return p.nextGroup

/-- The opening of a group, as far as it settles what the group is. -/
inductive Opening
  | capture (name : Option String)
  | plain (o : Options)
  | atomic
  | ahead (negative : Bool)
  | behind (negative : Bool)
  | condition (number : Nat)
  /-- A comment, already read to its end. -/
  | comment
  | whole (node : Node)

/-- Numbers at or beyond this one are no numbers of groups. -/
def groupLimit : Nat := 1073741823

/-- The group that a condition asks for, by its name or by its number. -/
def askedGroup (name : List Char) : ReadM Nat := do
  if Text.isIdentifier name then
    match (← get).names.lookup (String.ofList name) with
    | some n => return n
    | none => fail
  else
    match Numeral.readInteger name with
    | .ok n =>
      if n ≤ 0 || (groupLimit : Int) ≤ n then fail
      modify fun p => { p with asked := n.toNat :: p.asked }
      return n.toNat
    | .error _ => fail

def condition : ReadM Opening := do
  let number ← askedGroup (← takeUntil ')')
  checkBehind number
  return .condition number

/-- Reads what stands after an opening bracket. -/
def opening (o : Options) : ReadM Opening := do
  if !(← accept '?') then return .capture none
  let some sign ← peek | fail
  match sign with
  | ['P'] =>
    skip 1
    if ← accept '<' then
      let name ← takeUntil '>'
      if Text.isIdentifier name then return .capture (some (String.ofList name)) else fail
    if ← accept '=' then
      let name ← takeUntil ')'
      match (← get).names.lookup (String.ofList name) with
      | some number => return .whole (← referTo o number)
      | none => fail
    fail
  | [':'] => skip 1; return .plain o
  | ['>'] => skip 1; return .atomic
  | ['='] => skip 1; return .ahead false
  | ['!'] => skip 1; return .ahead true
  | ['<'] =>
    skip 1
    if ← accept '=' then return .behind false
    if ← accept '!' then return .behind true
    fail
  | ['('] => skip 1; condition
  | ['#'] =>
    skip 1
    if (← takePast? ')').isNone then fail
    return .comment
  | _ => return .plain (o.switch (← switches))

/-- White space that the verbose notation passes over. -/
def isSpacing (c : Char) : Bool := c == ' ' || ('\t' ≤ c && c ≤ '\r')

/-- Passes over a comment of the verbose notation, which ends with its line or with the source. -/
def skipLine : ReadM Unit := do
  if (← takePast? '\n').isNone then modify fun p => { p with rest := [] }

mutual

/-- Alternatives, up to a closing bracket or the end. -/
def alternatives (o : Options) : Nat → ReadM Node
  | 0 => fail
  | fuel + 1 => do
    let first ← sequence o fuel [] .free
    if ← accept '|' then
      return .either first (← alternatives o fuel)
    return first

/-- A sequence of parts, of which `parts` were read already, the last one first. -/
def sequence (o : Options) : Nat → List Node → Standing → ReadM Node
  | 0, _, _ => fail
  | fuel + 1, parts, standing => do
    let finished := Node.ofList parts.reverse
    match ← peek with
    | none => return finished
    | some ['|'] => return finished
    | some [')'] => return finished
    | some [_, c] =>
      skip 2
      let node ← escape o c
      let standing := match node with
        | .anchor _ => .anchored
        | _ => .free
      sequence o fuel (node :: parts) standing
    | some [c] =>
      skip 1
      if o.verbose && isSpacing c then sequence o fuel parts standing
      else if o.verbose && c == '#' then
        skipLine
        sequence o fuel parts standing
      else if c == '[' then sequence o fuel ((← charSet o) :: parts) .free
      else if c == '.' then
        let items := if o.dotAll then [] else [.char '\n'.toNat]
        sequence o fuel (.one { items, inverted := true } :: parts) .free
      else if c == '^' then
        sequence o fuel (.anchor (if o.manyLines then .lineStart else .textStart) :: parts) .anchored
      else if c == '$' then
        sequence o fuel (.anchor (if o.manyLines then .lineEnd else .lastLineEnd) :: parts) .anchored
      else if c == '*' then repetition o fuel parts standing 0 none
      else if c == '+' then repetition o fuel parts standing 1 none
      else if c == '?' then repetition o fuel parts standing 0 (some 1)
      else if c == '\x7b' then
        match ← counts? with
        | some (least, most) => repetition o fuel parts standing least most
        | none => sequence o fuel (single o c.toNat :: parts) .free
      else if c == '(' then
        match ← opening o with
        | .comment => sequence o fuel parts standing
        | .whole node => sequence o fuel (node :: parts) .free
        | opened => sequence o fuel ((← group o fuel opened) :: parts) .free
      else sequence o fuel (single o c.toNat :: parts) .free
    | some _ => fail

/-- Repeats the part read last. -/
def repetition (o : Options) : Nat → List Node → Standing → Nat → Option Nat → ReadM Node
  | 0, _, _, _, _ => fail
  | fuel + 1, parts, standing, least, most => do
    match parts, standing with
    | body :: parts, .free =>
      let greed ← do
        if ← accept '?' then pure Greed.reluctant
        else if ← accept '+' then pure Greed.possessive
        else pure Greed.greedy
      sequence o fuel (.again greed least most body :: parts) .repeated
    | _, _ => fail

/-- The inside of a group and its closing bracket. -/
def group (o : Options) : Nat → Opening → ReadM Node
  | 0, _ => fail
  | fuel + 1, opened => do
    match opened with
    | .capture name =>
      let number ← openGroup name
      let body ← alternatives o fuel
      if !(← accept ')') then fail
      modify fun p => { p with closed := (number, body.width p.closed) :: p.closed }
      return .group number body
    | .plain inner =>
      let body ← alternatives inner fuel
      if !(← accept ')') then fail
      return body
    | .atomic =>
      let body ← alternatives o fuel
      if !(← accept ')') then fail
      return .atomic body
    | .ahead negative =>
      let body ← alternatives o fuel
      if !(← accept ')') then fail
      return .ahead negative body
    | .behind negative =>
      let outer := (← get).behindFrom
      modify fun p => { p with behindFrom := some (outer.getD p.nextGroup) }
      let body ← alternatives o fuel
      modify fun p => { p with behindFrom := outer }
      if !(← accept ')') then fail
      let (low, high) := body.width (← get).closed
      if high != some low || countLimit ≤ low then modify fun p => { p with uneven := true }
      return .behind negative low body
    | .condition number =>
      let yes ← sequence o fuel [] .free
      let no ← if ← accept '|' then sequence o fuel [] .free else pure .empty
      if !(← accept ')') then fail
      return .ifGroup number yes no
    | .comment => return .empty
    | .whole node => return node

end

/-- All of the source was read, and what had to wait for its end is as it should be. -/
def Progress.isFinished (p : Progress) : Bool :=
  p.rest.isEmpty && !p.uneven && p.asked.all (· < p.nextGroup)

/-- The regular expression with the given source. -/
def Pattern.read (source : String) : Except Fault Pattern := do
  let s := source.toList
  let (body, p) ← (alternatives {} (4 * s.length + 4)).run { rest := s }
  if !p.isFinished then throw .malformed
  return ⟨source, p.nextGroup - 1, body⟩

end ScenarioRunner.Regex
