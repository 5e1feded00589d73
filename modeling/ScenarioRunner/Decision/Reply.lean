import ScenarioRunner.Fault
import ScenarioRunner.Json.Reader

/-! Reading a decision out of the reply of a model. The reply should be JSON and nothing else. A
fence around it is removed; if that is no JSON, comments and trailing commas are dropped, and what
stands outside of the outermost braces. -/
namespace ScenarioRunner.Decision

def fence : List Char := "```".toList

/-- What may follow the ticks that open a fence. -/
def labels : List (List Char) := ["json".toList, "javascript".toList]

def dropLabel (s : List Char) : List Char :=
  match labels.find? (·.isPrefixOf s) with
  | some label => s.drop label.length
  | none => s

/-- The ticks before this text close a fence: only blanks follow on their line. -/
def closes (s : List Char) : Bool :=
  (s.dropWhile Text.isBlank).isEmpty || (s.takeWhile Text.isBlank).contains '\n'

/-- The text up to the first line of ticks that closes a fence. -/
def untilClose : List Char → Option (List Char)
  | [] => none
  | c :: rest =>
    if c == '\n' && fence.isPrefixOf rest && closes (rest.drop fence.length) then some []
    else (untilClose rest).map (c :: ·)

/-- The inside of a fence, from behind the ticks that open it. It starts on a line of its own;
blank lines before it do not belong to it. -/
def inside? (s : List Char) : Option (List Char) :=
  let s := dropLabel s
  let blanks := s.takeWhile Text.isBlank
  let margin := (blanks.reverse.takeWhile (· != '\n')).reverse
  let start := margin ++ s.dropWhile Text.isBlank
  if !blanks.contains '\n' then none
  else
    match untilClose start with
    | some text => some text
    | none =>
      -- the closing ticks may stand right here, below at least one blank line
      if 2 ≤ blanks.count '\n' && fence.isPrefixOf start && closes (start.drop fence.length) then
        some []
      else none

/-- The inside of the first fence; `fresh` says whether the text starts a line. -/
def fenced? (fresh : Bool) : List Char → Option (List Char)
  | [] => none
  | c :: rest =>
    let here := if fresh && fence.isPrefixOf (c :: rest) then inside? ((c :: rest).drop fence.length)
      else none
    here <|> fenced? (c == '\n') rest

/-- The reply without a fence around it. -/
def unwrap (s : List Char) : List Char :=
  let s := Text.trim s
  let s := match fenced? true s with
    | some text => Text.trim text
    | none => s
  if fence.isPrefixOf s || fence.isSuffixOf s then
    Text.trim (Text.trimWhere (· == '\x60') s)
  else s

/-- A comment may start after this character. -/
def precedesComment (c : Char) : Bool := Text.isBlank c || c == ',' || c == ']' || c == '\x7d'

/-- Drops comments, which run from two slashes to the end of their line. `mayOpen` says whether one
may start here, and `inComment` whether one is running. -/
def dropComments (mayOpen inComment : Bool) : List Char → List Char
  | [] => []
  | c :: rest =>
    if c == '\n' then c :: dropComments true false rest
    else if inComment then dropComments false true rest
    else if mayOpen && c == '/' && rest.head? == some '/' then dropComments false true rest
    else c :: dropComments (precedesComment c) false rest

/-- Drops each comma that only blanks part from a closing bracket, and these blanks; `covered`
counts the blanks that are still to be dropped. -/
def dropCommas : Nat → List Char → List Char
  | _, [] => []
  | covered + 1, _ :: rest => dropCommas covered rest
  | 0, c :: rest =>
    let blanks := rest.takeWhile Text.isBlank
    let next := (rest.drop blanks.length).head?
    if c == ',' && (next == some '\x7d' || next == some ']') then dropCommas blanks.length rest
    else c :: dropCommas 0 rest

/-- The text from the first opening brace to the last closing one. -/
def braced (s : List Char) : List Char :=
  let start := s.dropWhile (· != '\x7b')
  let body := (start.reverse.dropWhile (· != '\x7d')).reverse
  if body.isEmpty then s else body

def relax (s : List Char) : List Char := braced (dropCommas 0 (dropComments true false s))

/-- Reads a reply. -/
def read (reply : String) : Except Fault Json :=
  let s := unwrap reply.toList
  match Json.readDocument false s with
  | .ok v => .ok v
  | .error (.longInteger digits) => .error (.integerTooLong digits)
  | .error _ =>
    let relaxed := relax s
    match Json.readDocument false relaxed with
    | .ok v => .ok v
    | .error (.longInteger digits) => .error (.integerTooLong digits)
    | .error refusal => .error (.badReply (refusal.message relaxed))

end ScenarioRunner.Decision
