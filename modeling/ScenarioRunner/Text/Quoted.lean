import ScenarioRunner.Text.Printable

/-! Texts quoted for messages. Single quotes are used unless the text holds a single quote and no
double one. The quote in use and the backslash get a backslash before them; tab, newline and
carriage return have letters; every other character that does not show is written by its number, in
two, four or eight hexadecimal digits. -/
namespace ScenarioRunner.Text

def hexDigit (n : Nat) : Char := if n < 10 then Char.ofNat (48 + n) else Char.ofNat (87 + n)

/-- The last `width` hexadecimal digits of a number. -/
def hex : Nat → Nat → List Char
  | 0, _ => []
  | width + 1, n => hex width (n / 16) ++ [hexDigit (n % 16)]

/-- Only digits are written. -/
theorem not_mem_hex {c : Char} (h : ∀ d < 16, hexDigit d ≠ c) (width n : Nat) : c ∉ hex width n := by
  induction width generalizing n with
  | zero => exact List.not_mem_nil
  | succ width ih =>
    rw [hex, List.mem_append, List.mem_singleton]
    exact not_or.mpr ⟨ih (n / 16), (h (n % 16) (Nat.mod_lt n (by decide))).symm⟩

/-- One character inside the quotes `quote`. -/
def quotedChar (quote c : Char) : List Char :=
  if c == quote || c == '\\' then ['\\', c]
  else if c == '\t' then ['\\', 't']
  else if c == '\n' then ['\\', 'n']
  else if c == '\r' then ['\\', 'r']
  else if isPrintable c then [c]
  else if c.toNat ≤ 0xFF then ['\\', 'x'] ++ hex 2 c.toNat
  else if c.toNat ≤ 0xFFFF then ['\\', 'u'] ++ hex 4 c.toNat
  else ['\\', 'U'] ++ hex 8 c.toNat

/-- The quote that a text is put between. -/
def quoteFor (s : List Char) : Char := if s.contains '\'' && !s.contains '"' then '"' else '\''

def quoted (s : List Char) : List Char :=
  let quote := quoteFor s
  quote :: s.flatMap (quotedChar quote) ++ [quote]

end ScenarioRunner.Text

namespace ScenarioRunner

/-- The text between quotes, with what does not show escaped. -/
def quoted (s : String) : String := String.ofList (Text.quoted s.toList)

end ScenarioRunner
