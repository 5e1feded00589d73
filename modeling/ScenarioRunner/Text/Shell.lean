/-! Quoting of texts as one word of a command line. A text of harmless characters stands as it is.
Any other is put between single quotes, and a single quote inside is written as `'"'"'`: the
quotes are closed, the single quote stands between double ones, and the quotes are opened again. -/
namespace ScenarioRunner.Text

/-- Means nothing to a shell: ASCII letters and digits and a few signs. -/
def isShellSafe (c : Char) : Bool :=
  c.isAlphanum || c == '_' || c == '@' || c == '%' || c == '+' || c == '=' || c == ':' || c == ',' ||
    c == '.' || c == '/' || c == '-'

/-- The inside of a single-quoted word. -/
def shellInner : List Char → List Char
  | [] => []
  | c :: rest => (if c == '\'' then "'\"'\"'".toList else [c]) ++ shellInner rest

def shellQuote (s : List Char) : List Char :=
  if s.isEmpty then ['\'', '\'']
  else if s.all isShellSafe then s
  else '\'' :: shellInner s ++ ['\'']

end ScenarioRunner.Text
