import ScenarioRunner.Yaml.Quoted

/-! The tokens of a YAML document. Indentation opens and closes blocks; a key that no sign announces
is known as one only by the colon behind it, so the tokens that open it are put in front of it
afterwards. Between brackets indentation counts for nothing. -/
namespace ScenarioRunner.Yaml

inductive Token
  | directive
  | documentStart
  | documentEnd
  | sequenceBlock
  | mappingBlock
  | blockEnd
  | sequenceOpen
  | sequenceClose
  | mappingOpen
  | mappingClose
  /-- The dash before an entry of a block. -/
  | entry
  /-- The comma between entries inside brackets. -/
  | comma
  | key
  | value
  | alias (name : String)
  | anchor (name : String)
  | tag (name : String)
  | scalar (text : String) (plain : Bool)
deriving DecidableEq, Repr

/-- Where a key may have started that no sign announces. -/
structure KeyStart where
  /-- How many tokens come before it. -/
  position : Nat
  /-- Nothing but a key can stand there. -/
  required : Bool
  place : Place

/-- A document on its way to tokens. -/
structure Scan where
  place : Place
  tokens : List Token := []
  /-- How many brackets are open. -/
  flow : Nat := 0
  /-- The column of the innermost block, and those of the blocks around it. -/
  indent : Int := -1
  outer : List Int := []
  /-- A key may start here without a sign. -/
  mayKey : Bool := true
  /-- The last possible start of a key at each depth of brackets. -/
  keyStarts : List (Nat × KeyStart) := []

namespace Scan

variable (s : Scan)

def emit (token : Token) : Scan := { s with tokens := s.tokens ++ [token] }

def moveTo (p : Place) : Scan := { s with place := p }

def column : Int := s.place.column

def insertAt (position : Nat) (token : Token) : Scan :=
  { s with tokens := s.tokens.take position ++ token :: s.tokens.drop position }

/-- Closes the blocks that are deeper than a column. -/
def closeBlocks (column : Int) : List Int → Scan → Scan
  | [], s => s
  | indent :: outer, s =>
    if column < s.indent then closeBlocks column outer ({ s with indent, outer }.emit .blockEnd) else s

def unwind (column : Int) : Scan := if 0 < s.flow then s else closeBlocks column s.outer s

/-- Opens a block at a column that is deeper than the innermost one. -/
def openBlock (column : Int) (position : Nat) (token : Token) : Scan :=
  if s.indent < column then
    { s with indent := column, outer := s.indent :: s.outer }.insertAt position token
  else s

/-- Forgets the possible key at this depth of brackets; one that was required has to have come. -/
def dropKey? : Option Scan :=
  match s.keyStarts.lookup s.flow with
  | some start =>
    if start.required then none
    else some { s with keyStarts := s.keyStarts.filter (·.1 != s.flow) }
  | none => some s

/-- Remembers that a key may start here. -/
def saveKey? : Option Scan :=
  let required := s.flow == 0 && s.indent == s.column
  if s.mayKey then do
    let s ← s.dropKey?
    let start : KeyStart := ⟨s.tokens.length, required, s.place⟩
    return { s with keyStarts := (s.flow, start) :: s.keyStarts }
  else some s

/-- The most characters that a key may span. -/
def keyLimit : Nat := 1024

/-- A possible key that started on an earlier line or too far back is none. -/
def isStale (start : KeyStart) : Bool :=
  start.place.line != s.place.line || start.place.index + keyLimit < s.place.index

/-- Forgets possible keys that have become impossible. -/
def dropStale? : Option Scan :=
  if s.keyStarts.any fun (_, start) => s.isStale start && start.required then none
  else some { s with keyStarts := s.keyStarts.filter fun (_, start) => !s.isStale start }

/-- Skips blanks, comments and breaks. Outside of brackets a key may start on a new line. -/
def toNext : Nat → Scan → Scan
  | 0, s => s
  | fuel + 1, s =>
    let p := (s.place.skipRun (· == ' ')).skipComment
    match p.takeBreak? with
    | some (_, p) => toNext fuel { s with place := p, mayKey := s.mayKey || s.flow == 0 }
    | none => s.moveTo p

/-- The version of a document: two numbers around a point, the first of which has to be one. -/
def version? (p : Place) : Option Place :=
  let p := p.skipRun (· == ' ')
  let major := p.run Char.isDigit
  let minor := (p.skip (major.length + 1)).run Char.isDigit
  if major == ['1'] && p.ahead? 1 == some '.' && !minor.isEmpty then some (p.skip (2 + minor.length))
  else none

/-- A line that tells something about the document. Only its version counts; prefixes of tags are
not known. -/
def directive? : Option Scan := do
  let s ← (s.unwind (-1)).dropKey?
  let name := String.ofList (s.place.next.run fun c => c.isAlphanum || c == '-' || c == '_')
  let after := s.place.skip (name.length + 1)
  let p ←
    if name == "" || name == "TAG" then none
    else if name == "YAML" then version? after
    else some (after.skipRun (!isBreak ·))
  let p := (p.skipRun (· == ' ')).skipComment
  if isLineEnd p.here? then return ({ s with mayKey := false }.moveTo p.skipBreak).emit .directive
  else none

/-- A mark between documents. -/
def separator? (token : Token) : Option Scan := do
  let s ← (s.unwind (-1)).dropKey?
  return ({ s with mayKey := false }.moveTo (s.place.skip 3)).emit token

def openBracket? (token : Token) : Option Scan := do
  let s ← s.saveKey?
  return ({ s with flow := s.flow + 1, mayKey := true }.moveTo s.place.next).emit token

/-- A closing bracket; one that closes nothing cannot stand anywhere. -/
def closeBracket? (token : Token) : Option Scan := do
  let s ← s.dropKey?
  if s.flow = 0 then none
  else return ({ s with flow := s.flow - 1, mayKey := false }.moveTo s.place.next).emit token

def comma? : Option Scan := do
  let s ← { s with mayKey := true }.dropKey?
  return (s.moveTo s.place.next).emit .comma

/-- A sign that opens a block if it is deeper than the innermost one; it may stand only where a key
may start. -/
def opened? (token : Token) : Option Scan :=
  if 0 < s.flow then some s
  else if s.mayKey then some (s.openBlock s.column s.tokens.length token)
  else none

def entry? : Option Scan := do
  let s ← s.opened? .sequenceBlock
  let s ← { s with mayKey := true }.dropKey?
  return (s.moveTo s.place.next).emit .entry

def key? : Option Scan := do
  let s ← s.opened? .mappingBlock
  let s ← { s with mayKey := s.flow == 0 }.dropKey?
  return (s.moveTo s.place.next).emit .key

/-- A colon. With a possible key before it, the tokens that open the key are put in front of it. -/
def value? : Option Scan := do
  let s ← match s.keyStarts.lookup s.flow with
    | some start => do
      let s := { s with keyStarts := s.keyStarts.filter (·.1 != s.flow), mayKey := false }
      let s := s.insertAt start.position .key
      pure (if 0 < s.flow then s else s.openBlock start.place.column start.position .mappingBlock)
    | none => do
      let s ← s.opened? .mappingBlock
      { s with mayKey := s.flow == 0 }.dropKey?
  return (s.moveTo s.place.next).emit .value

def isNameChar (c : Char) : Bool := c.isAlphanum || c == '-' || c == '_'

/-- An anchor or an alias. -/
def named? (make : String → Token) : Option Scan := do
  let s ← s.saveKey?
  let name := s.place.next.run isNameChar
  let after := s.place.skip (name.length + 1)
  if name.isEmpty then none
  else if isGap after.here? || after.here?.any "?:,]\x7d%@\x60".toList.contains then
    return ({ s with mayKey := false }.moveTo after).emit (make (String.ofList name))
  else none

/-- May stand in a tag. -/
def isTagChar (c : Char) : Bool :=
  c.isAlphanum || "-;/?:@&=+$,_.!~*'()[]".toList.contains c

/-- What the short forms of tags stand for. -/
def standardTags : List Char := "tag:yaml.org,2002:".toList

/-- The name of a tag and the place after it. -/
def tagName? (p : Place) : Option (List Char × Place) :=
  match p.ahead? 1 with
  | some '<' =>
    let name := (p.skip 2).run isTagChar
    let after := p.skip (name.length + 2)
    if name.isEmpty || !after.is '>' then none else some (name, after.next)
  | some '!' =>
    let name := (p.skip 2).run isTagChar
    if name.isEmpty then none else some (standardTags ++ name, p.skip (name.length + 2))
  | c =>
    if isGap c then some (['!'], p.next)
    else
      let name := p.next.run isTagChar
      if name.isEmpty || name.contains '!' then none else some ('!' :: name, p.skip (name.length + 1))

def tag? : Option Scan := do
  let s ← s.saveKey?
  let (name, after) ← tagName? s.place
  if isLineEnd after.here? || after.is ' ' then
    return ({ s with mayKey := false }.moveTo after).emit (.tag (String.ofList name))
  else none

def block? : Option Scan := do
  let s ← { s with mayKey := true }.dropKey?
  let (text, after) ← Block.read? s.indent s.place
  return (s.moveTo after).emit (.scalar text false)

def quoted? : Option Scan := do
  let s ← s.saveKey?
  let (text, after) ← Quoted.read? s.place
  return ({ s with mayKey := false }.moveTo after).emit (.scalar text false)

def plain? : Option Scan := do
  let s ← s.saveKey?
  let r := Plain.words (0 < s.flow) (s.indent + 1).toNat s.place.rest.length s.place
  return ({ s with mayKey := r.broken }.moveTo r.place).emit (.scalar (String.ofList r.text) true)

/-- Signs that cannot start a plain scalar. -/
def signs : List Char := "-?:,[]\x7b\x7d#&*!|>'\"%@\x60".toList

/-- A plain scalar can start with this character, before the one behind it. -/
def startsPlain (c : Char) (after : Option Char) : Bool :=
  (!isBlankChar c && !isBreak c && !signs.contains c) ||
    (!isGap after && (c == '-' || (s.flow == 0 && (c == '?' || c == ':'))))

/-- Takes the next token, which starts with `c`. -/
def step? (c : Char) : Option Scan :=
  let p := s.place
  let parts := isGap (p.ahead? 1)
  let inFlow := 0 < s.flow
  if p.column == 0 && c == '%' then s.directive?
  else if p.column == 0 && p.isSeparator Place.startMark then s.separator? .documentStart
  else if p.column == 0 && p.isSeparator Place.endMark then s.separator? .documentEnd
  else if c == '[' then s.openBracket? .sequenceOpen
  else if c == '\x7b' then s.openBracket? .mappingOpen
  else if c == ']' then s.closeBracket? .sequenceClose
  else if c == '\x7d' then s.closeBracket? .mappingClose
  else if c == ',' then s.comma?
  else if c == '-' && parts then s.entry?
  else if c == '?' && (inFlow || parts) then s.key?
  else if c == ':' && (inFlow || parts) then s.value?
  else if c == '*' then s.named? .alias
  else if c == '&' then s.named? .anchor
  else if c == '!' then s.tag?
  else if (c == '|' || c == '>') && !inFlow then s.block?
  else if c == '\'' || c == '"' then s.quoted?
  else if s.startsPlain c (p.ahead? 1) then s.plain?
  else none

/-- Takes tokens up to the end of the text. Every token but the last takes at least one character. -/
def run? : Nat → Scan → Option Scan
  | 0, _ => none
  | fuel + 1, s => do
    let s ← (toNext (s.place.rest.length + 1) s).dropStale?
    let s := s.unwind s.column
    match s.place.here? with
    | none => (s.unwind (-1)).dropKey?
    | some c => run? fuel (← s.step? c)

end Scan

/-- The tokens of a text. A byte order mark at its start is passed over. -/
def tokens? (text : List Char) : Option (List Token) := do
  let text := match text with
    | '\ufeff' :: rest => rest
    | text => text
  if !text.all isAllowed then none
  else return (← Scan.run? (text.length + 1) { place := { rest := text } }).tokens

end ScenarioRunner.Yaml
