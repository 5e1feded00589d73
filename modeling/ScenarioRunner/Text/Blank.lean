import ScenarioRunner.Text.Ranges

/-! Blank characters: the white space of Unicode 14.0 together with the four information separators
`U+001C` to `U+001F`. They are what is trimmed from the ends of a text and what separates words. -/
namespace ScenarioRunner.Text

def blankRanges : List (Nat × Nat) :=
  [(0x9, 0xD), (0x1C, 0x20), (0x85, 0x85), (0xA0, 0xA0), (0x1680, 0x1680), (0x2000, 0x200A),
   (0x2028, 0x2029), (0x202F, 0x202F), (0x205F, 0x205F), (0x3000, 0x3000)]

/-- Separates words, and is dropped from both ends of a trimmed text. -/
def isBlank (c : Char) : Bool := inRanges blankRanges c.toNat

end ScenarioRunner.Text
