/-! Times of the clock, which counts milliseconds since the start of the year 1970, written as
dates. -/
namespace ScenarioRunner.Timestamp

/-- Year, month and day of a day, counted from 1 January 1970. The count goes by cycles of 400
years that start in March, so that leap days come last. -/
def civil (days : Nat) : Nat × Nat × Nat :=
  let z := days + 719468
  let cycle := z / 146097
  let dayOfCycle := z % 146097
  let yearOfCycle :=
    (dayOfCycle - dayOfCycle / 1460 + dayOfCycle / 36524 - dayOfCycle / 146096) / 365
  let dayOfYear := dayOfCycle - (365 * yearOfCycle + yearOfCycle / 4 - yearOfCycle / 100)
  let m := (5 * dayOfYear + 2) / 153
  let day := dayOfYear - (153 * m + 2) / 5 + 1
  let month := if m < 10 then m + 3 else m - 9
  (yearOfCycle + cycle * 400 + (if month ≤ 2 then 1 else 0), month, day)

/-- The decimal digits of a number, at least `width` of them. -/
def padded (width n : Nat) : String :=
  let ds := Nat.toDigits 10 n
  String.ofList (List.replicate (width - ds.length) '0' ++ ds)

/-- The parts of a time as texts. -/
structure Parts where
  year : String
  month : String
  day : String
  hour : String
  minute : String
  second : String
  milli : String

def parts (ms : Nat) : Parts :=
  let seconds := ms / 1000
  let (year, month, day) := civil (seconds / 86400)
  { year := padded 4 year
    month := padded 2 month
    day := padded 2 day
    hour := padded 2 (seconds / 3600 % 24)
    minute := padded 2 (seconds / 60 % 60)
    second := padded 2 (seconds % 60)
    milli := padded 3 (ms % 1000) }

/-- Date and time to the millisecond. -/
def precise (ms : Nat) : String :=
  let p := parts ms
  s!"{p.year}-{p.month}-{p.day}T{p.hour}:{p.minute}:{p.second}.{p.milli}Z"

/-- Date and time to the second. -/
def toSecond (ms : Nat) : String :=
  let p := parts ms
  s!"{p.year}-{p.month}-{p.day}T{p.hour}:{p.minute}:{p.second}Z"

/-- Date and time as they stand in logs. -/
def inLog (ms : Nat) : String :=
  let p := parts ms
  s!"{p.year}-{p.month}-{p.day} {p.hour}:{p.minute}:{p.second}"

/-- Date and time as they stand in names of files. -/
def inFileName (ms : Nat) : String :=
  let p := parts ms
  s!"{p.year}{p.month}{p.day}_{p.hour}{p.minute}{p.second}"

end ScenarioRunner.Timestamp
