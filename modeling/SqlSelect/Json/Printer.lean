import SqlSelect.Data
import SqlSelect.Json.Lexeme
/-!
# Writing JSON

Two layouts of a tree: the compact one, which is its lexemes without anything between them, and
the indented one, with one item or member to a line.
-/

namespace SqlSelect.Json

/-! ## 1. Compact -/

mutual

/-- The lexemes of a tree. -/
def lexemes : Data → List Lexeme
  | .scalar v => [.scalar v]
  | .array items => .openBracket :: itemLexemes items ++ [.closeBracket]
  | .object members => .openBrace :: memberLexemes members ++ [.closeBrace]

/-- The lexemes of the items of a list. -/
def itemLexemes : List Data → List Lexeme
  | [] => []
  | [d] => lexemes d
  | d :: rest => lexemes d ++ .comma :: itemLexemes rest

/-- The lexemes of the members of an object. -/
def memberLexemes : List (String × Data) → List Lexeme
  | [] => []
  | [(key, d)] => .scalar (.text key) :: .colon :: lexemes d
  | (key, d) :: rest => .scalar (.text key) :: .colon :: lexemes d ++ .comma :: memberLexemes rest

end

/-- The tree on one line, without blanks. -/
def compact (d : Data) : String := String.join ((lexemes d).map Lexeme.text)

/-! ## 2. Indented -/

/-- A new line at a depth of nesting. -/
def newline (depth : Nat) : String := .ofList ('\n' :: .replicate (2 * depth) ' ')

mutual

/-- The tree over several lines, inside `depth` brackets; empty brackets stay together. -/
def indented (depth : Nat) : Data → String
  | .scalar v => scalarText v
  | .array [] => "[]"
  | .array items => "[" ++ indentedItems depth items ++ newline depth ++ "]"
  | .object [] => "\x7b\x7d"
  | .object members => "\x7b" ++ indentedMembers depth members ++ newline depth ++ "\x7d"

/-- The items of a list, each on a line of its own. -/
def indentedItems (depth : Nat) : List Data → String
  | [] => ""
  | [d] => newline (depth + 1) ++ indented (depth + 1) d
  | d :: rest => newline (depth + 1) ++ indented (depth + 1) d ++ "," ++ indentedItems depth rest

/-- The members of an object, each on a line of its own. -/
def indentedMembers (depth : Nat) : List (String × Data) → String
  | [] => ""
  | [(key, d)] => newline (depth + 1) ++ stringText key ++ ": " ++ indented (depth + 1) d
  | (key, d) :: rest =>
    newline (depth + 1) ++ stringText key ++ ": " ++ indented (depth + 1) d ++ ","
      ++ indentedMembers depth rest

end

/-- The tree over several lines. -/
def pretty (d : Data) : String := indented 0 d

end SqlSelect.Json
