/-! Places in the text of a YAML document, with their lines and columns. -/
namespace ScenarioRunner.Yaml

/-- Ends a line. -/
def isBreak (c : Char) : Bool :=
  c == '\n' || c == '\r' || c == '\u0085' || c == '\u2028' || c == '\u2029'

/-- What a break stands for inside a scalar. -/
def breakText (c : Char) : Char := if c == '\u2028' || c == '\u2029' then c else '\n'

def isBlankChar (c : Char) : Bool := c == ' ' || c == '\t'

/-- A character that parts tokens, or the end of the text. -/
def isGap : Option Char → Bool
  | none => true
  | some c => isBlankChar c || isBreak c

/-- The end of a line or of the text. -/
def isLineEnd : Option Char → Bool
  | none => true
  | some c => isBreak c

/-- May stand in a document. -/
def isAllowed (c : Char) : Bool :=
  let n := c.toNat
  n == 0x09 || n == 0x0A || n == 0x0D || (0x20 ≤ n && n ≤ 0x7E) || n == 0x85 ||
    (0xA0 ≤ n && n ≤ 0xFFFD) || 0x10000 ≤ n

structure Place where
  /-- The text from here on. -/
  rest : List Char
  line : Nat := 0
  column : Nat := 0
  /-- How many characters lie before. -/
  index : Nat := 0
deriving DecidableEq, Repr

namespace Place

variable (p : Place)

/-- The character here. -/
def here? : Option Char := p.rest.head?

/-- The character so many places further on. -/
def ahead? (n : Nat) : Option Char := p.rest[n]?

def is (c : Char) : Bool := p.here? == some c

/-- The place after the next character. A byte order mark takes no column. -/
def next : Place :=
  match p.rest with
  | [] => p
  | c :: rest =>
    if isBreak c then ⟨rest, p.line + 1, 0, p.index + 1⟩
    else ⟨rest, p.line, if c == '\ufeff' then p.column else p.column + 1, p.index + 1⟩

/-- The place so many characters further on. -/
def skip : Nat → Place → Place
  | 0, p => p
  | n + 1, p => skip n p.next

/-- The characters from here on for which `f` holds. -/
def run (f : Char → Bool) : List Char := p.rest.takeWhile f

/-- The place after these characters. -/
def skipRun (f : Char → Bool) : Place := p.skip (p.run f).length

def startsWith (text : List Char) : Bool := text.isPrefixOf p.rest

/-- A line that parts documents starts here. -/
def isSeparator (mark : List Char) : Bool := p.startsWith mark && isGap (p.ahead? mark.length)

def startMark : List Char := ['-', '-', '-']

def endMark : List Char := ['.', '.', '.']

def isAnySeparator : Bool := p.isSeparator startMark || p.isSeparator endMark

/-- The break here, if there is one, and the place after it. -/
def takeBreak? : Option (Char × Place) :=
  match p.here? with
  | some c => if isBreak c then some (breakText c, p.next) else none
  | none => none

/-- The place after the break here, if there is one. -/
def skipBreak : Place := (p.takeBreak?.map (·.2)).getD p

/-- The place at the end of the comment here, if there is one. -/
def skipComment : Place := if p.is '#' then p.skipRun (!isBreak ·) else p

end Place

end ScenarioRunner.Yaml
