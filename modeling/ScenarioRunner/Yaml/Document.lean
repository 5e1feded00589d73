import ScenarioRunner.Config
import ScenarioRunner.Yaml.Token

/-! Reading a YAML document, for programs that have no library for it. Of equal keys the last one
counts. Tags of its own, more than one directive, the tags of bytes, sets and lists of pairs, and
values that hold themselves are not supported: they count as malformed. -/
namespace ScenarioRunner.Yaml

/-- The tokens that are left, and the values of the anchors so far. -/
structure Reader where
  tokens : List Token
  anchors : List (String × Datum) := []

abbrev Reading := StateT Reader (Except Fault)

namespace Reading

def fail {α : Type} : Reading α := throw malformed

def peek? : Reading (Option Token) := do return (← get).tokens.head?

def drop : Reading Unit := modify fun r => { r with tokens := r.tokens.drop 1 }

/-- Takes a token if it is the next one. -/
def take (token : Token) : Reading Bool := do
  if (← peek?) == some token then
    drop
    return true
  else return false

/-- Takes a token that has to be the next one. -/
def expect (token : Token) : Reading Unit := do
  if !(← take token) then fail

/-- One of these tokens is the next one, or there is none left. -/
def atOneOf (tokens : List Token) : Reading Bool := do
  match ← peek? with
  | some token => return tokens.contains token
  | none => return true

/-- What stands before a node: its anchor and its tag, in either order. -/
def properties : Reading (Option String × Option String) := do
  match (← get).tokens with
  | .anchor name :: .tag tag :: _ =>
    drop
    drop
    return (some name, some tag)
  | .tag tag :: .anchor name :: _ =>
    drop
    drop
    return (some name, some tag)
  | .anchor name :: _ =>
    drop
    return (some name, none)
  | .tag tag :: _ =>
    drop
    return (none, some tag)
  | _ => return (none, none)

/-- Gives a name to a value; no name is given twice. -/
def setAnchor (name : Option String) (v : Datum) : Reading Unit := do
  match name with
  | none => return ()
  | some name =>
    if ((← get).anchors.lookup name).isSome then fail
    else modify fun r => { r with anchors := (name, v) :: r.anchors }

end Reading

/-- A node: a scalar, which may be a key, or a value of another kind. -/
inductive Node
  | scalar (s : Scalar)
  | collection (v : Datum)

namespace Node

def datum? : Node → Option Datum
  | scalar s => s.datum?
  | collection v => some v

def datum (n : Node) : Reading Datum :=
  match n.datum? with
  | some v => return v
  | none => Reading.fail

/-- The node of a value that has a name. -/
def ofDatum : Datum → Node
  | .atom a => scalar (.value a)
  | v => collection v

/-- The node of nothing. -/
def empty : Node := scalar (.value .null)

end Node

/-- Entries of a mapping. -/
abbrev Pairs := List (Atom × Datum)

namespace Pairs

/-- Two keys that count as one. -/
def sameKey : Atom → Atom → Bool
  | .null, .null => true
  | .bool a, .bool b => a == b
  | .bool a, .int n => (if a then 1 else 0) == n
  | .int n, .bool a => (if a then 1 else 0) == n
  | .int m, .int n => m == n
  | .float x, .float y => x.text == y.text
  | .text s, .text t => s == t
  | .other _ s, .other _ t => s == t
  | _, _ => false

/-- Writes one entry; a key that is there already keeps its place. -/
def put : Pairs → Atom → Datum → Pairs
  | [], key, v => [(key, v)]
  | (k, old) :: rest, key, v =>
    if sameKey k key then (k, v) :: rest else (k, old) :: put rest key v

end Pairs

/-- An entry of a mapping: entries to be taken over, or one of its own. -/
inductive Entry
  | merged (entries : Pairs)
  | own (key : Atom) (v : Datum)

namespace Entry

/-- The entries of the mappings in a list; those of earlier ones count more. -/
def mergedItems : List Datum → Option Pairs
  | [] => some []
  | .mapping entries :: rest => do return (← mergedItems rest) ++ entries
  | _ => none

/-- The entry of a key and a value. Lists and mappings cannot be keys. -/
def ofNodes? (key value : Node) : Option Entry :=
  match key with
  | .collection _ => none
  | .scalar .merge => do
    match ← value.datum? with
    | .mapping entries => return merged entries
    | .list items => return merged (← mergedItems items)
    | _ => none
  | .scalar s => do return own s.key (← value.datum?)

/-- The mapping of its entries: what is taken over comes first, what is its own counts more. -/
def toDatum (entries : List Entry) : Datum :=
  let taken := entries.flatMap fun
    | merged entries => entries
    | own _ _ => []
  let own := entries.filterMap fun
    | merged _ => none
    | own key v => some (key, v)
  .mapping ((taken ++ own).foldl (fun pairs entry => Pairs.put pairs entry.1 entry.2) [])

end Entry

open Reading

/-- Tags that a list or a mapping may have. -/
def fitsTag (tag : Option String) (kind : String) : Bool :=
  match tag with
  | none => true
  | some tag => tag == "!" || tag == "tag:yaml.org,2002:" ++ kind

def entryOf (key value : Node) : Reading Entry :=
  match Entry.ofNodes? key value with
  | some entry => return entry
  | none => fail

def scalarOf (tag : Option String) (plain : Bool) (text : String) : Reading Node :=
  let scalar : Except Fault Scalar := match tag with
    | some tag => Scalar.ofTagged tag text
    | none => if plain then Scalar.ofPlain text else .ok (.value (.text text))
  return .scalar (← scalar)

mutual

/-- A node. `block` tells that blocks may start here, and `dashes` that a list may stand at the
column of its key. Each call spends one unit of fuel. -/
def node (block dashes : Bool) : Nat → Reading Node
  | 0 => fail
  | fuel + 1 => do
    if let some (.alias name) ← peek? then
      drop
      match (← get).anchors.lookup name with
      | some v => return .ofDatum v
      | none => fail
    else
      let (anchor, tag) ← properties
      let collection (kind : String) (v : Datum) : Reading Node :=
        if fitsTag tag kind then return .collection v else fail
      let found ← match ← peek? with
        | some (.scalar text plain) => do
          drop
          scalarOf tag plain text
        | some .sequenceOpen => do
          drop
          collection "seq" (.list (← flowItems true fuel))
        | some .mappingOpen => do
          drop
          collection "map" (Entry.toDatum (← flowEntries true fuel))
        | some .entry =>
          if dashes then do collection "seq" (.list (← dashedItems fuel))
          else if anchor.isSome || tag.isSome then scalarOf tag true ""
          else fail
        | some .sequenceBlock =>
          if block then do
            drop
            let items ← blockItems fuel
            collection "seq" (.list items)
          else fail
        | some .mappingBlock =>
          if block then do
            drop
            let entries ← blockEntries fuel
            collection "map" (Entry.toDatum entries)
          else fail
        | _ => if anchor.isSome || tag.isSome then scalarOf tag true "" else fail
      if anchor.isSome then setAnchor anchor (← found.datum)
      return found

/-- A node, or nothing where one of these tokens comes next. -/
def nodeUnless (stops : List Token) (block dashes : Bool) : Nat → Reading Node
  | 0 => fail
  | fuel + 1 => do
    if ← atOneOf stops then return .empty else node block dashes fuel

/-- The items of a list in a block of its own. -/
def blockItems : Nat → Reading (List Datum)
  | 0 => fail
  | fuel + 1 => do
    if ← take .entry then
      let item ← (← nodeUnless [.entry, .blockEnd] true false fuel).datum
      return item :: (← blockItems fuel)
    else
      expect .blockEnd
      return []

/-- The items of a list that stands at the column of its key. -/
def dashedItems : Nat → Reading (List Datum)
  | 0 => fail
  | fuel + 1 => do
    if ← take .entry then
      let item ← (← nodeUnless [.entry, .key, .value, .blockEnd] true false fuel).datum
      return item :: (← dashedItems fuel)
    else return []

/-- The entries of a mapping in a block. -/
def blockEntries : Nat → Reading (List Entry)
  | 0 => fail
  | fuel + 1 => do
    let stops : List Token := [.key, .value, .blockEnd]
    if ← take .key then
      let key ← nodeUnless stops true true fuel
      let value ← if ← take .value then nodeUnless stops true true fuel else pure .empty
      let entry ← entryOf key value
      return entry :: (← blockEntries fuel)
    else
      expect .blockEnd
      return []

/-- The items of a list in brackets. A pair among them is a mapping of its own. -/
def flowItems (first : Bool) : Nat → Reading (List Datum)
  | 0 => fail
  | fuel + 1 => do
    if ← take .sequenceClose then return []
    else
      if !first then expect .comma
      if ← take .key then
        let key ← nodeUnless [.value, .comma, .sequenceClose] false false fuel
        let value ←
          if ← take .value then nodeUnless [.comma, .sequenceClose] false false fuel
          else pure .empty
        let entry ← entryOf key value
        return Entry.toDatum [entry] :: (← flowItems false fuel)
      else if ← take .sequenceClose then return []
      else
        let item ← (← node false false fuel).datum
        return item :: (← flowItems false fuel)

/-- The entries of a mapping in braces. A node alone is a key without a value. -/
def flowEntries (first : Bool) : Nat → Reading (List Entry)
  | 0 => fail
  | fuel + 1 => do
    if ← take .mappingClose then return []
    else
      if !first then expect .comma
      if ← take .key then
        let key ← nodeUnless [.value, .comma, .mappingClose] false false fuel
        let value ←
          if ← take .value then nodeUnless [.comma, .mappingClose] false false fuel
          else pure .empty
        let entry ← entryOf key value
        return entry :: (← flowEntries false fuel)
      else if ← take .mappingClose then return []
      else
        let entry ← entryOf (← node false false fuel) .empty
        return entry :: (← flowEntries false fuel)

end

/-- The first document in the text; one that is empty is null. Directives may stand before the mark
that opens it. -/
def document (fuel : Nat) : Reading Datum := do
  let directed ← take .directive
  let opened ← take .documentStart
  if directed && !opened then fail
  else if !(← atOneOf [.directive, .documentStart, .documentEnd]) then
    (← node true false fuel).datum
  else if opened || (← peek?).isNone then return .atom .null
  else fail

/-- Nothing but marks of the document's end is left. -/
def isOver (r : Reader) : Bool := r.tokens.all (· == .documentEnd)

/-- Reads the document in a text. Each token is taken by at most four nested calls. -/
def read (text : List Char) : Except Fault Datum := do
  let some tokens := tokens? text | throw malformed
  let (v, left) ← (document (4 * tokens.length + 4)).run { tokens }
  if isOver left then return v else throw malformed

/-- Reads the document in a file. -/
def ofContent (content : Content) : Except Fault Datum := do
  read (← Config.onFiles (FileTree.textOf content)).toList

end ScenarioRunner.Yaml
