import ScenarioRunner.Fault
import ScenarioRunner.Script.Words
import ScenarioRunner.Text.Word

/-! Scripts: one operation a line, with its arguments, and perhaps an arrow and a name to which the
result is bound. An argument that is a dollar sign and a bare name stands for what is bound to the
name. Blank lines and lines that start with `#` are passed over. -/
namespace ScenarioRunner.Script

inductive Arg
  | word (text : String)
  | ref (name : String)
deriving DecidableEq, Repr

structure Line where
  number : Nat
  operation : String
  args : List Arg
  bind : Option String := none
deriving DecidableEq, Repr

/-- A bare word of a dollar sign and a name refers to a binding. -/
def Arg.ofWord (w : Word) : Arg :=
  match w.bare, w.text.toList with
  | true, '$' :: name =>
    if !name.isEmpty && name.all Text.isWord then .ref (String.ofList name) else .word w.text
  | _, _ => .word w.text

/-- A bare arrow before the last word binds the result of the line to that word. -/
def takeBind : List Word → List Word × Option String
  | [] => ([], none)
  | [w] => ([w], none)
  | [arrow, name] =>
    if arrow == ⟨"->", true⟩ then ([], some name.text) else ([arrow, name], none)
  | w :: rest =>
    let (words, bind) := takeBind rest
    (w :: words, bind)

/-- The line with a number, unless it is passed over. -/
def readLine (number : Nat) (line : List Char) : Except ScriptFault (Option Line) :=
  match Text.trim line with
  | [] => .ok none
  | '#' :: _ => .ok none
  | text =>
    match splitWords text with
    | none => .error (.openQuote number)
    | some words =>
      match takeBind words with
      | ([], _) => .error (.noOperation number)
      | (operation :: args, bind) => .ok (some ⟨number, operation.text, args.map .ofWord, bind⟩)

/-- The lines of a script, the first of which has the given number. -/
def readLines (number : Nat) : List (List Char) → Except ScriptFault (List Line)
  | [] => .ok []
  | line :: rest => do
    let first ← readLine number line
    return first.toList ++ (← readLines (number + 1) rest)

def read (source : String) : Except ScriptFault (List Line) :=
  readLines 1 (Text.lines source.toList)

end ScenarioRunner.Script
