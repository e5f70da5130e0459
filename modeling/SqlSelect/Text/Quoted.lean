import SqlSelect.Text.Hidden
/-!
# Quoted texts

The form in which a text value is shown to a reader: between double quotes, on one line, with
escapes for the quote, the backslash, the usual control characters and everything that could not
be seen. The closing quote is the first one that no backslash precedes, so a shown text cannot be
mistaken for what stands around it.
-/

namespace SqlSelect.Text

/-- How one character is written inside a quoted text. -/
def escaped (c : Char) : List Char :=
  if c = '"' then ['\\', '"']
  else if c = '\\' then ['\\', '\\']
  else if c = '\n' then ['\\', 'n']
  else if c = '\r' then ['\\', 'r']
  else if c = '\t' then ['\\', 't']
  else if c.toNat = 0 then ['\\', '0']
  else if isHidden c then ['\\', 'u', '\x7b'] ++ Nat.toDigits 16 c.toNat ++ ['\x7d']
  else [c]

/-- The text between quotes. -/
def quoted (s : String) : String := .ofList ('"' :: s.toList.flatMap escaped ++ ['"'])

example : quoted "it's \"a\"\n" = "\"it's \\\"a\\\"\\n\"" := by decide +kernel

end SqlSelect.Text
