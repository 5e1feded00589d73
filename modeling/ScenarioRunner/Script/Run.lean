import ScenarioRunner.Script.Line
import ScenarioRunner.Session

/-! Running scripts. There are twelve operations; the lines are carried out one after another, and
the first one that fails ends the script. -/
namespace ScenarioRunner.Script

inductive Operation
  | goto
  | back
  | reload
  | title
  | act
  | extract
  | observe
  | agent
  | wait
  | expectEqual
  | expectContains
  | expectNotEmpty
deriving DecidableEq, Repr

namespace Operation

def ofName? : String → Option Operation
  | "goto" => some goto
  | "back" => some back
  | "reload" => some reload
  | "title" => some title
  | "act" => some act
  | "extract" => some extract
  | "observe" => some observe
  | "agent" => some agent
  | "wait" => some wait
  | "expect_equal" => some expectEqual
  | "expect_contains" => some expectContains
  | "expect_not_empty" => some expectNotEmpty
  | _ => none

/-- How many arguments an operation takes, at least and at most. -/
def arity : Operation → Nat × Nat
  | back | reload | title => (0, 0)
  | extract => (1, 2)
  | expectEqual | expectContains => (2, 2)
  | _ => (1, 1)

end Operation

/-- What a script leaves behind when all of its lines were carried out. -/
structure Result where
  operations : Nat := 0
  bindings : Assoc Reply := []
  last : Reply := .data .null

namespace Result

def toJson (r : Result) : Json := .obj [
  ("operations", .ofNat r.operations),
  ("bindings", .obj (r.bindings.mapValues (·.toJson))),
  ("last", r.last.toJson)]

end Result

/-- A script on its way: all that is bound, and the result so far. -/
structure State where
  bindings : Assoc Reply
  result : Result := {}

/-- What an argument stands for. -/
def resolve (bindings : Assoc Reply) : Arg → Except ScriptFault Reply
  | .word text => .ok (.ofText text)
  | .ref name =>
    match bindings.get? name with
    | some value => .ok value
    | none => .error (.unknownBinding name)

def resolveAll (bindings : Assoc Reply) : List Arg → Except ScriptFault (List Reply)
  | [] => .ok []
  | arg :: rest => do
    let value ← resolve bindings arg
    return value :: (← resolveAll bindings rest)

/-- The whole number of milliseconds that a value gives. -/
def millis (v : Reply) : Except Fault Int :=
  let bad : Fault := .script (.badWait v.quotedText)
  match v with
  | .data (.int n) => .ok n
  | .data (.bool b) => .ok (if b then 1 else 0)
  | .data (.float x) =>
    if x.isNaN then .error bad
    else if x.isFinite then .ok x.truncate
    else .error (.overflow "cannot convert float infinity to integer")
  | .data (.str s) =>
    match Numeral.readInteger s.toList with
    | .ok n => .ok n
    | .error _ => .error bad
  | _ => .error bad

/-- The milliseconds have to be few enough for a double-precision number of seconds. -/
def checkDelay (ms : Int) : Except Fault Nat :=
  if (Binary64.ofRatio (ms < 0) ms.natAbs 1000).isFinite then .ok ms.toNat
  else .error (.overflow "integer division result too large for a float")

def nothing : Reply := .data .null

/-- Carries out one operation on its arguments, of which there are as many as it takes. -/
def perform (session : Session) : Operation → List Reply → Attempt Reply
  | .goto, url :: _ => do
    session.navigate url
    return url
  | .back, _ => do
    session.goBack
    return nothing
  | .reload, _ => do
    session.reload
    return nothing
  | .title, _ => do return .data (← session.title)
  | .act, text :: _ => do return .data (← session.actForScript text.text)
  | .extract, [target] => do return .data (← session.extract target.text (.ofText "auto"))
  | .extract, target :: shape :: _ => do return .data (← session.extract target.text shape)
  | .observe, target :: _ => do return .data (← session.observe target.text)
  | .agent, instruction :: _ => session.runTask instruction.text
  | .wait, ms :: _ => do
    Outside.wait (← Attempt.ofExcept (do checkDelay (← millis ms)))
    return nothing
  | .expectEqual, actual :: expected :: _ =>
    if actual.text == expected.text then return .data (.bool true)
    else throw (.expectation (.equal actual.text expected.text))
  | .expectContains, whole :: part :: _ =>
    if contains whole.text part.text then return .data (.bool true)
    else throw (.expectation (.containing whole.text part.text))
  | .expectNotEmpty, value :: _ =>
    if value.isEmpty then throw (.expectation .notEmpty) else return .data (.bool true)
  | _, _ => return nothing

/-- What a line asks for: its operation, with what its arguments stand for. -/
def prepare (bindings : Assoc Reply) (line : Line) :
    Except ScriptFault (Operation × List Reply) := do
  match Operation.ofName? line.operation with
  | none => .error (.unknownOperation line.number line.operation)
  | some operation =>
    let (least, most) := operation.arity
    let got := line.args.length
    if least ≤ got && got ≤ most then return (operation, ← resolveAll bindings line.args)
    else .error (.wrongCount line.number line.operation least most got)

/-- The name to which a line binds its result; an empty name is none. -/
def Line.boundName (line : Line) : Option String := line.bind.filter (· != "")

/-- The state after a line gave a value. -/
def State.after (s : State) (line : Line) (value : Reply) : State :=
  let bindIn (table : Assoc Reply) := match line.boundName with
    | some name => table.put name value
    | none => table
  { bindings := bindIn s.bindings
    result :=
      { operations := s.result.operations + 1, bindings := bindIn s.result.bindings, last := value } }

def runLine (session : Session) (s : State) (line : Line) : Attempt State := do
  let (operation, args) ← Attempt.ofExcept ((prepare s.bindings line).mapError .script)
  return s.after line (← perform session operation args)

/-- Carries out lines, up to the first one that fails. -/
def runLines (session : Session) (s : State) : List Line → Outside (Except Fault Unit × State)
  | [] => return (.ok (), s)
  | line :: rest => do
    match ← (runLine session s line).run with
    | .ok next => runLines session next rest
    | .error fault => return (.error fault, s)

/-- Runs a script; the variables are bound from the start. Gives the result, and all that is bound
in the end. -/
def run (session : Session) (values : Assoc String) (source : String) :
    Outside (Except Fault Result × Assoc Reply) := do
  let bindings : Assoc Reply := values.mapValues Reply.ofText
  match read source with
  | .error fault => return (.error (.script fault), bindings)
  | .ok lines =>
    let (outcome, s) ← runLines session { bindings } lines
    return (outcome.map fun () => s.result, s.bindings)

end ScenarioRunner.Script
