/-!
# Blank characters

The characters with the White_Space property, and texts without their blank ends. This is the set
that decides whether a table name is blank and that is cut off around operator and keyword texts.
-/

namespace SqlSelect.Text

/-- The character has the White_Space property. -/
def isBlank (c : Char) : Bool :=
  c == ' ' || ('\t' ≤ c && c ≤ '\r') || c == '\u0085' || c == '\u00A0' || c == '\u1680'
    || ('\u2000' ≤ c && c ≤ '\u200A') || c == '\u2028' || c == '\u2029' || c == '\u202F'
    || c == '\u205F' || c == '\u3000'

/-- The text without blanks at its ends. -/
def trim (s : String) : String :=
  .ofList ((s.toList.dropWhile isBlank).reverse.dropWhile isBlank).reverse

/-- The text has no character that is not blank. -/
def isBlankText (s : String) : Bool := s.toList.all isBlank

end SqlSelect.Text
