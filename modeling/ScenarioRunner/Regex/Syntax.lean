import ScenarioRunner.Text.Blank
import ScenarioRunner.Text.Digit
import ScenarioRunner.Text.LetterCase
import ScenarioRunner.Text.Word

/-! Syntax trees of regular expressions: character sets, anchors, groups, repetition that is greedy,
lazy or possessive, alternatives that are tried from left to right, references back to a group, and
conditions on what comes before or after. Characters are kept as code points. -/
namespace ScenarioRunner.Regex

inductive Category
  | digit
  | blank
  | word
deriving DecidableEq, Repr

/-- One part of a character set. -/
inductive SetItem
  | char (n : Nat)
  | range (low high : Nat)
  /-- A category or its complement, of ASCII alone or of all characters. -/
  | category (c : Category) (inverted ascii : Bool)
deriving DecidableEq, Repr

/-- How far letters that differ in case alone are taken for one another. -/
inductive CaseRule
  | exact
  | asciiLetters
  | allLetters
deriving DecidableEq, Repr

structure CharSet where
  items : List SetItem
  inverted : Bool := false
  caseRule : CaseRule := .exact
deriving DecidableEq, Repr

inductive Anchor
  | textStart
  | lineStart
  | textEnd
  | lineEnd
  /-- At the end, or before one newline at the end. -/
  | lastLineEnd
  /-- Between a word character and another one, or not so. -/
  | wordEdge (inverted ascii : Bool)
deriving DecidableEq, Repr

inductive Greed
  | greedy
  | reluctant
  | possessive
deriving DecidableEq, Repr

inductive Node
  | empty
  | one (set : CharSet)
  | anchor (a : Anchor)
  | seq (first second : Node)
  | either (left right : Node)
  | group (number : Nat) (body : Node)
  | again (greed : Greed) (least : Nat) (most : Option Nat) (body : Node)
  | backref (number : Nat) (caseRule : CaseRule)
  | ahead (negative : Bool) (body : Node)
  /-- The body matches, or does not match, from `width` characters before. -/
  | behind (negative : Bool) (width : Nat) (body : Node)
  | atomic (body : Node)
  | ifGroup (number : Nat) (yes no : Node)
deriving DecidableEq, Repr

/-- A regular expression with its source. -/
structure Pattern where
  source : String
  groups : Nat
  body : Node
deriving Repr

def Category.holds (ascii : Bool) (c : Char) : Category → Bool
  | digit => if ascii then c.isDigit else Text.isDigit c
  | blank =>
    if ascii then c == ' ' || ('\t' ≤ c && c ≤ '\r') else Text.isBlank c
  | word => if ascii then c.isAlphanum || c == '_' else Text.isWord c

def SetItem.holds (c : Char) : SetItem → Bool
  | char n => c.toNat == n
  | range low high => low ≤ c.toNat && c.toNat ≤ high
  | category k inverted ascii => k.holds ascii c != inverted

/-- The characters that a rule takes for `c`, itself among them. -/
def CaseRule.variants (c : Char) : CaseRule → List Char
  | exact => [c]
  | asciiLetters => [c.toLower, c.toUpper]
  | allLetters => Text.caseVariants c

/-- The character that stands for `c` when characters are compared under a rule. -/
def CaseRule.fold (c : Char) : CaseRule → Char
  | exact => c
  | asciiLetters => c.toLower
  | allLetters => Text.lowerChar c

def CharSet.holds (s : CharSet) (c : Char) : Bool :=
  let variants := s.caseRule.variants c
  let found := s.items.any fun item =>
    match item with
    | .category .. => item.holds (s.caseRule.fold c)
    | item => variants.any item.holds
  found != s.inverted

namespace Node

def ofList : List Node → Node
  | [] => .empty
  | [n] => n
  | n :: rest => .seq n (ofList rest)

def oneOf : List Node → Node
  | [] => .empty
  | [n] => n
  | n :: rest => .either n (oneOf rest)

end Node

end ScenarioRunner.Regex
