import ScenarioRunner.Regex.Syntax

/-! Matching by ordered search. A node is run at a cursor with the rest of the search as a
continuation; alternatives are tried in order and the first way in which everything that follows
succeeds too is the match. A repetition stops after a round that read nothing, so the number of its
rounds is bounded by the length of what is left. -/
namespace ScenarioRunner.Regex

/-- A place in a text, and what the groups hold there. -/
structure Cursor where
  /-- The characters before the place, the nearest first. -/
  before : List Char
  after : List Char
  place : Nat
  /-- What the groups hold, the latest first. -/
  held : List (Nat × List Char)

namespace Cursor

def start (s : List Char) : Cursor := ⟨[], s, 0, []⟩

def group? (c : Cursor) (number : Nat) : Option (List Char) := c.held.lookup number

/-- The cursor one character further on. -/
def next? (c : Cursor) : Option (Char × Cursor) :=
  match c.after with
  | [] => none
  | x :: rest => some (x, { c with before := x :: c.before, after := rest, place := c.place + 1 })

/-- The cursor `n` characters back. -/
def back? : Nat → Cursor → Option Cursor
  | 0, c => some c
  | n + 1, c =>
    match c.before with
    | [] => none
    | x :: rest => back? n { c with before := rest, after := x :: c.after, place := c.place - 1 }

end Cursor

def Anchor.holds (c : Cursor) : Anchor → Bool
  | textStart => c.before.isEmpty
  | lineStart => c.before.isEmpty || c.before.head? == some '\n'
  | textEnd => c.after.isEmpty
  | lineEnd => c.after.isEmpty || c.after.head? == some '\n'
  | lastLineEnd => c.after.isEmpty || c.after == ['\n']
  | wordEdge inverted ascii =>
    let isWord (x : Option Char) := x.any fun x => Category.word.holds ascii x
    -- in an empty text neither the edge nor its opposite is found
    !(c.before.isEmpty && c.after.isEmpty) &&
      (isWord c.before.head? != isWord c.after.head?) != inverted

/-- The rest of a search. -/
abbrev Rest := Cursor → Option Cursor

/-- One part of a search: reads something and hands on. -/
abbrev Part := Cursor → Rest → Option Cursor

/-- Runs a part exactly `n` times. -/
def exactly (part : Part) : Nat → Part
  | 0, c, k => k c
  | n + 1, c, k => part c fun c => exactly part n c k

/-- Runs a part as often as it goes, up to `extra` times, and gives rounds back one by one. The
round before this one started at `last`. -/
def asOften (part : Part) : Nat → Option Nat → Option Nat → Part
  | 0, _, _, c, k => k c
  | fuel + 1, extra, last, c, k =>
    if extra == some 0 || last == some c.place then k c
    else
      match part c fun d => asOften part fuel (extra.map (· - 1)) (some c.place) d k with
      | some found => some found
      | none => k c

/-- Runs a part as seldom as it goes, up to `extra` times. -/
def asSeldom (part : Part) : Nat → Option Nat → Option Nat → Part
  | 0, _, _, c, k => k c
  | fuel + 1, extra, last, c, k =>
    match k c with
    | some found => some found
    | none =>
      if extra == some 0 || last == some c.place then none
      else part c fun d => asSeldom part fuel (extra.map (· - 1)) (some c.place) d k

/-- Runs a part between `least` and `most` times. -/
def rounds (greed : Greed) (least : Nat) (most : Option Nat) (part : Part) : Part := fun c k =>
  let extra := most.map (· - least)
  match greed with
  | .greedy => exactly part least c fun c => asOften part (c.after.length + 2) extra none c k
  | .reluctant => exactly part least c fun c => asSeldom part (c.after.length + 2) extra none c k
  | .possessive =>
    match exactly part least c fun c => asOften part (c.after.length + 2) extra none c some with
    | some c => k c
    | none => none

/-- Reads the text `s` again, letters compared under a rule. -/
def readAgain (rule : CaseRule) : List Char → Cursor → Option Cursor
  | [], c => some c
  | x :: rest, c =>
    match c.next? with
    | some (y, c) => if rule.fold x == rule.fold y then readAgain rule rest c else none
    | none => none

def Node.run : Node → Part
  | .empty, c, k => k c
  | .one set, c, k =>
    match c.next? with
    | some (x, d) => if set.holds x then k d else none
    | none => none
  | .anchor a, c, k => if a.holds c then k c else none
  | .seq first second, c, k => first.run c fun d => second.run d k
  | .either left right, c, k =>
    match left.run c k with
    | some found => some found
    | none => right.run c k
  | .group number body, c, k =>
    body.run c fun d => k { d with held := (number, c.after.take (d.place - c.place)) :: d.held }
  | .again greed least most body, c, k => rounds greed least most (fun c k => body.run c k) c k
  | .backref number rule, c, k =>
    match c.group? number with
    | some s => (readAgain rule s c).bind k
    | none => none
  | .ahead negative body, c, k =>
    match body.run c some with
    | some d => if negative then none else k { c with held := d.held }
    | none => if negative then k c else none
  | .behind negative width body, c, k =>
    match (c.back? width).bind fun b => body.run b some with
    | some d => if negative then none else k { c with held := d.held }
    | none => if negative then k c else none
  | .atomic body, c, k => (body.run c some).bind k
  | .ifGroup number yes no, c, k =>
    if (c.group? number).isSome then yes.run c k else no.run c k

/-- At the end of the text there is no character to read. -/
theorem run_one_nil {set : CharSet} {c : Cursor} {k : Rest} (hAfter : c.after = []) :
    (Node.one set).run c k = none := by
  rw [Node.run, Cursor.next?, hAfter]

/-- A match: where it starts, what it read, and what the groups hold. -/
structure Match where
  start : Nat
  text : List Char
  held : List (Nat × List Char)

/-- The text of a group, if the group took part in the match. -/
def Match.group? (m : Match) (number : Nat) : Option (List Char) := m.held.lookup number

/-- Tries every place from `c` on; each step to the next place is one unit of fuel. -/
def Node.searchFrom (body : Node) : Nat → Cursor → Option Match
  | 0, _ => none
  | fuel + 1, c =>
    match body.run c some with
    | some d => some ⟨c.place, c.after.take (d.place - c.place), d.held⟩
    | none =>
      match c.next? with
      | some (_, c) => searchFrom body fuel c
      | none => none

/-- The first match in a text. -/
def Pattern.search (p : Pattern) (s : List Char) : Option Match :=
  p.body.searchFrom (s.length + 1) (Cursor.start s)

end ScenarioRunner.Regex
