import ScenarioRunner.Text.Blank

/-! Texts as lists of characters: trimming, lines, search and cuts. -/
namespace ScenarioRunner.Text

/-- Drops the blanks at both ends. -/
def trim (s : List Char) : List Char :=
  ((s.dropWhile isBlank).reverse.dropWhile isBlank).reverse

/-- Drops the blanks at the end. -/
def trimEnd (s : List Char) : List Char := (s.reverse.dropWhile isBlank).reverse

/-- Drops every leading and trailing character for which `p` holds. -/
def trimWhere (p : Char → Bool) (s : List Char) : List Char :=
  ((s.dropWhile p).reverse.dropWhile p).reverse

/-- Ends a line. A carriage return and the newline after it end one line together. -/
def isLineBreak (c : Char) : Bool :=
  c == '\n' || c == '\r' || c == '\x0b' || c == '\x0c' || c == '\x1c' || c == '\x1d' ||
    c == '\x1e' || c == '\u0085' || c == '\u2028' || c == '\u2029'

/-- The lines of a text whose current line has so far collected `line`, last character first. -/
def linesFrom (line : List Char) : List Char → List (List Char)
  | [] => if line.isEmpty then [] else [line.reverse]
  | '\r' :: '\n' :: rest => line.reverse :: linesFrom [] rest
  | c :: rest => if isLineBreak c then line.reverse :: linesFrom [] rest else linesFrom (c :: line) rest

/-- The lines of a text without their ends. A break at the end opens no further line. -/
def lines (s : List Char) : List (List Char) := linesFrom [] s

/-- The part before the first occurrence of `part` and the part after it. -/
def cutAt? (part : List Char) : List Char → Option (List Char × List Char)
  | [] => if part.isEmpty then some ([], []) else none
  | c :: rest =>
    if part.isPrefixOf (c :: rest) then some ([], (c :: rest).drop part.length)
    else (cutAt? part rest).map fun (before, after) => (c :: before, after)

/-- Occurs somewhere in the text. -/
def occursIn (part s : List Char) : Bool := (cutAt? part s).isSome

/-- Pieces joined with `sep` between neighbours. -/
def joinWith (sep : List Char) : List (List Char) → List Char
  | [] => []
  | [piece] => piece
  | piece :: rest => piece ++ sep ++ joinWith sep rest

end ScenarioRunner.Text

namespace ScenarioRunner

/-- The text without the blanks at its ends. -/
def trimmed (s : String) : String := String.ofList (Text.trim s.toList)

/-- Whether `part` occurs in `s`. -/
def contains (s part : String) : Bool := Text.occursIn part.toList s.toList

def startsWith (s start : String) : Bool := start.toList.isPrefixOf s.toList

def endsWith (s ending : String) : Bool := ending.toList.isSuffixOf s.toList

/-- Lines joined by newlines. -/
def joinLines (pieces : List String) : String := "\n".intercalate pieces

end ScenarioRunner
