import ScenarioRunner.Json.Value

/-! JSON text of values. Characters beyond ASCII stand for themselves; quotes, backslashes and
control characters are escaped. The compact form has a blank after each comma and colon; the
indented form puts each item on a line of its own, two blanks deeper than the bracket around it. -/
namespace ScenarioRunner.Json

/-- One character inside a string literal. -/
def escapedChar (c : Char) : List Char :=
  if c == '"' then ['\\', '"']
  else if c == '\\' then ['\\', '\\']
  else if c == '\n' then ['\\', 'n']
  else if c == '\r' then ['\\', 'r']
  else if c == '\t' then ['\\', 't']
  else if c == '\x08' then ['\\', 'b']
  else if c == '\x0c' then ['\\', 'f']
  else if c.toNat < 0x20 then ['\\', 'u'] ++ Text.hex 4 c.toNat
  else [c]

def literal (s : String) : List Char := '"' :: s.toList.flatMap escapedChar ++ ['"']

/-- The text of a number; the three values that are no numbers have names of their own. -/
def numberText (x : Binary64) : List Char :=
  if x.isNaN then "NaN".toList
  else if x.isFinite then x.finiteText
  else if x.isNegative then "-Infinity".toList else "Infinity".toList

/-- How the items of a list or an object are set apart. -/
inductive Style
  | compact
  /-- One item a line; the brackets around the items stand at this depth. -/
  | indented (depth : Nat)
deriving DecidableEq, Repr

def Style.deeper : Style → Style
  | compact => compact
  | indented depth => indented (depth + 1)

/-- The start of a new line at the depth of the style. -/
def Style.newline : Style → List Char
  | compact => []
  | indented depth => '\n' :: List.replicate (2 * depth) ' '

/-- What stands between two items of the style. -/
def Style.comma : Style → List Char
  | compact => [',', ' ']
  | indented depth => ',' :: (indented depth).newline

mutual

def writeIn (style : Style) : Json → List Char
  | null => "null".toList
  | bool true => "true".toList
  | bool false => "false".toList
  | int n => (toString n).toList
  | float x => numberText x
  | str s => literal s
  | arr [] => ['[', ']']
  | arr (v :: rest) =>
    '[' :: style.deeper.newline ++ writeIn style.deeper v ++ writeItems style.deeper rest ++
      style.newline ++ [']']
  | obj [] => ['\x7b', '\x7d']
  | obj ((k, v) :: rest) =>
    '\x7b' :: style.deeper.newline ++ (literal k ++ [':', ' '] ++ writeIn style.deeper v) ++
      writeFields style.deeper rest ++ style.newline ++ ['\x7d']

/-- The items after the first one. -/
def writeItems (style : Style) : List Json → List Char
  | [] => []
  | v :: rest => style.comma ++ writeIn style v ++ writeItems style rest

/-- The fields after the first one. -/
def writeFields (style : Style) : List (String × Json) → List Char
  | [] => []
  | (k, v) :: rest =>
    style.comma ++ (literal k ++ [':', ' '] ++ writeIn style v) ++ writeFields style rest

end

/-- The text of a value on one line. -/
def compact (v : Json) : String := String.ofList (writeIn .compact v)

/-- The text of a value over many lines. -/
def indented (v : Json) : String := String.ofList (writeIn (.indented 0) v)

end ScenarioRunner.Json
