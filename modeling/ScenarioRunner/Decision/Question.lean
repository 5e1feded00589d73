import ScenarioRunner.Fault
import ScenarioRunner.Json.Writer

/-! What the model is asked: the step or task, the page, and the catalogue of its elements, each
with the number by which a decision refers to it. -/
namespace ScenarioRunner.Question

/-- How many elements of a catalogue are shown in a question. -/
def shown : Int := 150

/-- How much of the text of an element is shown. -/
def textLimit : Nat := 80

/-- How much of the text of a page is shown. -/
def pageTextLimit : Nat := 8000

/-- The text of an element on one line. -/
def elementText (element : Json) : Except Fault String := do
  match ← element.fieldOr "text" .null with
  | .str s => return String.ofList ((s.toList.map fun c => if c == '\n' then ' ' else c).take textLimit)
  | v => if v.truthy then .error (Fault.noOperation v "replace") else return ""

/-- The line of the element with number `i`. -/
def elementLine (i : Nat) (element : Json) : Except Fault String := do
  let text ← elementText element
  let label ← element.fieldOr "label" .null
  let label := if label.truthy then label else .str ""
  let tag ← element.fieldOr "tag" (.str "")
  let type ← element.fieldOr "type" (.str "")
  let selector ← element.fieldOr "selector" (.str "")
  return s!"[{i}] <{tag.display}> type={type.display} selector={selector.display} " ++
    s!"label={label.quotedText} text={quoted text}"

/-- The lines of elements, numbered from `i` on. -/
def elementLines (i : Nat) : List Json → Except Fault (List String)
  | [] => .ok []
  | element :: rest => do
    let line ← elementLine i element
    return line :: (← elementLines (i + 1) rest)

/-- The number of elements among `count` that a limit lets through. A limit below zero leaves out so
many at the end. -/
def within (limit : Int) (count : Nat) : Nat :=
  if 0 ≤ limit then limit.toNat else (count + limit).toNat

/-- The catalogue as the model sees it: one numbered line for each element, up to a limit. -/
def catalogue (elements : List Json) (limit : Int) : Except Fault String := do
  let count := elements.length
  let lines ← elementLines 0 (elements.take (within limit count))
  let omitted := (count : Int) - limit
  let note := if omitted ≤ 0 then [] else [s!"... {omitted} more elements omitted"]
  if lines.isEmpty && note.isEmpty then return "(no interactive elements)"
  else return joinLines (lines ++ note)

/-- Paragraphs with blank lines between them. -/
def paragraphs (parts : List String) : String := "\n\n".intercalate parts

/-- Asks for the actions of a step. -/
def act (instruction url : String) (title : Json) (elements : List Json) (values : Json) :
    Except Fault String := do
  let catalogue ← catalogue elements shown
  let values := if values.truthy then ["Variables: " ++ values.compact] else []
  return paragraphs (["Step: " ++ instruction, s!"Page: {title.display} ({url})"] ++ values ++
    ["Elements:\n" ++ catalogue, "Return your actions as a single JSON object."])

/-- The start of a page's text, or of a page's lines. -/
def pageTextStart : Json → Except Fault String
  | .str s => .ok (String.ofList (s.toList.take pageTextLimit))
  | .arr items => .ok (Json.arr (items.take pageTextLimit)).display
  | v => .error (.wrongType s!"'{Fault.typeWord v}' object is not subscriptable")

/-- Asks for data. -/
def extract (target shape url : String) (pageText : Json) : Except Fault String := do
  let text ← pageTextStart pageText
  return paragraphs [joinLines ["Extract: " ++ target, "Shape hint: " ++ shape, "Page: " ++ url],
    "Page text:\n" ++ text, "Return the extracted data as a single JSON object."]

/-- Asks which elements fit. -/
def observe (target url : String) (elements : List Json) : Except Fault String := do
  let catalogue ← catalogue elements shown
  return paragraphs [joinLines ["Find: " ++ target, "Page: " ++ url], "Elements:\n" ++ catalogue,
    "Return the matching elements as a single JSON object."]

/-- What was done so far, one numbered line for each step. -/
def historyText (history : List String) : String :=
  if history.isEmpty then "(none yet)"
  else joinLines (history.mapIdx fun i line => s!"{i + 1}. {line}")

/-- Asks for the next move of a task. -/
def agent (instruction : String) (history : List String) (url : String) (title : Json)
    (elements : List Json) : Except Fault String := do
  let catalogue ← catalogue elements shown
  return paragraphs ["Task: " ++ instruction, "Steps so far:\n" ++ historyText history,
    s!"Page: {title.display} ({url})", "Elements:\n" ++ catalogue,
    "Return your next move as a single JSON object."]

end ScenarioRunner.Question
