import SqlSelect.Text.Alphanumeric
import SqlSelect.Text.Lowercase
/-!
# Column names from field names

`snakeCase` writes a field name the way columns are usually named: `FirstName` becomes
`first_name`. Words are separated by one underscore, and a word begins after characters that are no
letters or digits, and at a capital-like character with a small letter next to it. "Next to it" is
counted in a way of its own: the neighbours of a character are looked up at its *byte* offset plus
and minus one, so behind characters of several bytes the look-up lands further on.
-/

namespace SqlSelect.Text

/-- The character at a position, a capital letter past the end. -/
def neighbour (text : List Char) (position : Nat) : Char := text[position]?.getD 'A'

/-- A small letter is found next to the given byte offset. -/
def besideLowercase (text : List Char) (offset : Nat) : Bool :=
  isLowercase (neighbour text (offset + 1)) || isLowercase (neighbour text (offset - 1))

/-- The separated words of a tail of `text` that begins at byte `offset`; `start` tells that nothing
of the current word has been written yet. -/
def snakeWords (text : List Char) : (offset : Nat) → (start : Bool) → List Char → List Char
  | _, _, [] => []
  | offset, start, c :: rest =>
    if isAlphanumeric c then
      let separated := !start && c == c.toUpper && besideLowercase text offset
      (if separated then ['_', c.toLower] else [c.toLower])
        ++ snakeWords text (offset + c.utf8Size) false rest
    else
      (if start then [] else ['_']) ++ snakeWords text (offset + c.utf8Size) true rest

/-- The name in small words joined by underscores; only ASCII letters change their case. -/
def snakeCase (name : String) : String :=
  let text := name.toList
  .ofList (snakeWords text 0 true (text.reverse.dropWhile (!isAlphanumeric ·)).reverse)

example : snakeCase "FirstName" = "first_name" := by decide +kernel
example : snakeCase "HTTPCode" = "http_code" := by decide +kernel
example : snakeCase "UsingCol1" = "using_col_1" := by decide +kernel

end SqlSelect.Text
