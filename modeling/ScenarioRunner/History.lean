import ScenarioRunner.Record
import ScenarioRunner.Timestamp

/-! The history of a run: the records of all steps, in order, and the data that was extracted, by
key. Extracted data may also be written to files of its own, and all together be exported. -/
namespace ScenarioRunner

structure HistoryStats where
  total : Int := 0
  successful : Int := 0
  failed : Int := 0
  /-- How many steps there were of each kind, by first appearance. -/
  kinds : Assoc Int := []
  extractedTotal : Int := 0
  extractedKeys : List String := []
  /-- The mean time of the successful steps that took any. -/
  averageMs : Int := 0
  /-- Percent of the steps that were successful. -/
  successRate : Int := 0
deriving DecidableEq, Repr

namespace HistoryStats

def toJson (s : HistoryStats) : Json := .obj [
  ("total_executions", .int s.total),
  ("successful_executions", .int s.successful),
  ("failed_executions", .int s.failed),
  ("execution_types", .obj (s.kinds.mapValues .int)),
  ("extracted_total", .int s.extractedTotal),
  ("extracted_keys", .strings s.extractedKeys),
  ("average_duration_ms", .int s.averageMs),
  ("success_rate", .int s.successRate)]

def ofFields (fields : Assoc Json) : Checked HistoryStats :=
  HistoryStats.mk
    <$> Checked.get fields "total_executions" .int 0
    <*> Checked.get fields "successful_executions" .int 0
    <*> Checked.get fields "failed_executions" .int 0
    <*> Checked.get fields "execution_types" (.table .int) []
    <*> Checked.get fields "extracted_total" .int 0
    <*> Checked.get fields "extracted_keys" (.list .text) []
    <*> Checked.get fields "average_duration_ms" .int 0
    <*> Checked.get fields "success_rate" .int 0

end HistoryStats

/-- How many times each name occurs, by first appearance. -/
def tally (names : List String) : Assoc Int :=
  names.foldl (fun counts name => counts.put name ((counts.get? name).getD 0 + 1)) []

/-- The mean of integers, rounded to the nearest integer; a half goes to the even one. -/
def mean (values : List Int) : Int :=
  let sum := values.foldl (· + ·) 0
  (Binary64.ofRatio (sum < 0) sum.natAbs values.length).roundToInt

structure History where
  records : List Record := []
  artifacts : Assoc Json := []
  /-- The folder for files of extracted data. -/
  resultsDir : Path
  /-- Extracted data is written to files. -/
  persist : Bool

namespace History

def standardDir : Path := Path.ofText "results/extracted-data"

/-- An empty history. -/
def start (dir : String) (persist : Bool) : History where
  resultsDir := if dir == "" then standardDir else Path.ofText dir
  persist := persist

def append (h : History) (r : Record) : History := { h with records := h.records ++ [r] }

/-- The last records, up to a limit. -/
def recent (h : History) (limit : Int) : List Record :=
  h.records.drop (h.records.length - limit.toNat)

def stats (h : History) : HistoryStats :=
  let successful := h.records.filter (·.success)
  let total := h.records.length
  let timed := (successful.map (·.durationMs)).filter (· != 0)
  { total
    successful := successful.length
    failed := (total : Int) - successful.length
    kinds := tally (h.records.map (·.kind))
    extractedTotal := h.artifacts.length
    extractedKeys := h.artifacts.keys
    averageMs := if timed.isEmpty then 0 else mean timed
    successRate := if total = 0 then 0 else (percentage successful.length total).roundToInt }

def clear (h : History) : History := { h with records := [], artifacts := [] }

/-- Writes each run of characters that are not of words as one underscore. -/
def cleanWord (inGap : Bool) : List Char → List Char
  | [] => []
  | c :: rest =>
    if Text.isWord c then c :: cleanWord false rest
    else if inGap then cleanWord true rest
    else '_' :: cleanWord true rest

/-- The part of a key that tells what was extracted. -/
def keyWord (target : String) : String :=
  let word := Text.lower (Text.trimWhere (· == '_') (cleanWord false target.toList))
  if word.isEmpty then "data" else String.ofList word

/-- A fresh key for data: its target, the time, and a token that no other key has. -/
def freshKey (target : String) : Outside String := do
  let id ← Outside.freshId
  let clock ← Outside.now
  return s!"extracted_{keyWord target}_{clock}_{idText 6 id}"

def typeName : Json → String
  | .null => "null"
  | .bool _ => "boolean"
  | .int _ => "number"
  | .float _ => "number"
  | .str _ => "string"
  | .arr _ => "object"
  | .obj _ => "object"

/-- The length of data as JSON, which is taken to have one: integers of any length and values of any
depth can be written. -/
def dataSize (data : Json) : Nat := (Json.writeIn .compact data).length

def isList : Json → Bool
  | .arr _ => true
  | _ => false

/-- What the file of extracted data says. -/
def artifactJson (key : String) (data : Json) (clock : Nat) : Json := .obj [
  ("key", .str key),
  ("data", data),
  ("timestamp", .str (Timestamp.precise clock)),
  ("metadata", .obj [
    ("dataType", .str (typeName data)),
    ("dataSize", .ofNat (dataSize data)),
    ("isArray", .bool (isList data))])]

def artifactPath (h : History) (key : String) : Path := h.resultsDir.child (key ++ ".json")

/-- Writes the file of extracted data and gives its path. Troubles with files mean that there is no
file; a path that cannot be one is a fault. -/
def writeArtifact (h : History) (key : String) (data : Json) : Attempt (Option Path) := do
  let text := (artifactJson key data (← Outside.now)).indented
  match ← ExceptT.mk (Except.ok <$> Outside.writeInto h.resultsDir (h.artifactPath key) text) with
  | .ok () => return some (h.artifactPath key)
  | .error trouble => if trouble.isBadText then throw (.file trouble) else return none

/-- The history with data kept under a key. -/
def keep (h : History) (key : String) (data : Json) : History :=
  { h with artifacts := h.artifacts.put key data }

/-- Writes the file of data that was just kept, where files are wanted. -/
def persistArtifact (h : History) (key : String) (data : Json) : Attempt (Option Path) :=
  if h.persist then h.writeArtifact key data else return none

def exportVersion : String := "1.0"

/-- How many records an export holds unless told otherwise. -/
def exportLimit : Int := 50

/-- All that an export says. -/
def bundle (h : History) (limit : Int) (clock : Nat) : Json := .obj [
  ("extractedData", .obj h.artifacts),
  ("executionHistory", .arr ((h.recent limit).map (·.toJson))),
  ("stats", h.stats.toJson),
  ("exportTimestamp", .str (Timestamp.precise clock)),
  ("version", .str exportVersion)]

/-- Writes an export to a file and gives its path. -/
def exportTo (h : History) (path : Option Path) (limit : Int) : Attempt Path := do
  let clock ← Outside.now
  let path := path.getD (h.resultsDir.child s!"export_{clock}.json")
  Attempt.onFiles (Outside.writeInto path.parent path (h.bundle limit clock).indented)
  return path

end History

end ScenarioRunner
