import SqlSelect.Text.Hexadecimal
/-!
# Characters, keys and strings of TOML

The readers here take a text as a list of characters and return what they read with what follows;
`none` means that the text is not well formed. Strings come in four forms: with and without escapes,
on one line and over several.
-/

namespace SqlSelect.Toml

/-! ## 1. Between things -/

/-- The character may stand between things on a line. -/
def isBlank (c : Char) : Bool := c == ' ' || c == '\t'

/-- The text without blanks in front. -/
def skipBlanks (cs : List Char) : List Char := cs.dropWhile isBlank

/-- The character may not stand in comments and strings as it is. -/
def isControl (c : Char) : Bool := (c.toNat < 0x20 && c != '\t') || c.toNat == 0x7F

/-- The text behind the end of a line. -/
def newline? : List Char → Option (List Char)
  | '\n' :: rest => some rest
  | '\r' :: '\n' :: rest => some rest
  | _ => none

/-- The text behind a comment, from the end of its line on. -/
def commentTail? : List Char → Option (List Char)
  | [] => some []
  | '\n' :: rest => some ('\n' :: rest)
  | '\r' :: '\n' :: rest => some ('\r' :: '\n' :: rest)
  | c :: rest => if isControl c then none else commentTail? rest

/-- The text behind blanks and a comment, if there is one. -/
def skipComment? (cs : List Char) : Option (List Char) :=
  match skipBlanks cs with
  | '#' :: rest => commentTail? rest
  | cs => some cs

/-- The text behind blanks, comments and ends of lines; `fuel` bounds the number of lines. -/
def skipLines? : (fuel : Nat) → List Char → Option (List Char)
  | 0, cs => some cs
  | fuel + 1, cs => do
    let cs ← skipComment? cs
    match newline? cs with
    | some rest => skipLines? fuel rest
    | none => some cs

/-! ## 2. Strings -/

/-- The character whose number is written in hexadecimal digits. -/
def numbered? (ds : List Char) : Option Char := do
  let n ← Text.hexNumber? ds
  if n.isValidChar then some (.ofNat n) else none

/-- What the letter behind a backslash stands for. -/
def simpleEscape? : Char → Option Char
  | '"' => some '"'
  | '\\' => some '\\'
  | 'b' => some '\x08'
  | 'f' => some '\x0c'
  | 'n' => some '\n'
  | 'r' => some '\r'
  | 't' => some '\t'
  | _ => none

/-- The inside of a string on one line with escapes, and what follows the closing quote. -/
def basicTail? : List Char → Option (List Char × List Char)
  | [] => none
  | '"' :: rest => some ([], rest)
  | '\\' :: 'u' :: a :: b :: c :: d :: rest => do
    let char ← numbered? [a, b, c, d]
    (basicTail? rest).map fun (s, rest) => (char :: s, rest)
  | '\\' :: 'U' :: a :: b :: c :: d :: e :: f :: g :: h :: rest => do
    let char ← numbered? [a, b, c, d, e, f, g, h]
    (basicTail? rest).map fun (s, rest) => (char :: s, rest)
  | '\\' :: c :: rest => do
    let char ← simpleEscape? c
    (basicTail? rest).map fun (s, rest) => (char :: s, rest)
  | c :: rest =>
    if isControl c ∨ c = '\\' then none
    else (basicTail? rest).map fun (s, rest) => (c :: s, rest)

/-- The inside of a string on one line without escapes, and what follows the closing quote. -/
def literalTail? : List Char → Option (List Char × List Char)
  | [] => none
  | '\'' :: rest => some ([], rest)
  | c :: rest =>
    if isControl c then none else (literalTail? rest).map fun (s, rest) => (c :: s, rest)

/-- Where the reader of a string over several lines is. -/
inductive Mode
  | text
  /-- Behind a backslash and blanks: the line must end here. -/
  | lineEnd
  /-- Behind such a line: everything blank is passed over. -/
  | skipping

/-- The inside of a string over several lines with escapes, and what follows the closing quotes. Up
to two quotes in front of the closing ones belong to the string. -/
def longBasicTail? : Mode → List Char → Option (List Char × List Char)
  | _, [] => none
  | .lineEnd, '\n' :: rest => longBasicTail? .skipping rest
  | .lineEnd, '\r' :: '\n' :: rest => longBasicTail? .skipping rest
  | .lineEnd, c :: rest => if isBlank c then longBasicTail? .lineEnd rest else none
  | .skipping, '\n' :: rest => longBasicTail? .skipping rest
  | .skipping, '\r' :: '\n' :: rest => longBasicTail? .skipping rest
  | .skipping, ' ' :: rest => longBasicTail? .skipping rest
  | .skipping, '\t' :: rest => longBasicTail? .skipping rest
  | _, '"' :: '"' :: '"' :: '"' :: '"' :: rest => some (['"', '"'], rest)
  | _, '"' :: '"' :: '"' :: '"' :: rest => some (['"'], rest)
  | _, '"' :: '"' :: '"' :: rest => some ([], rest)
  | _, '\\' :: 'u' :: a :: b :: c :: d :: rest => do
    let char ← numbered? [a, b, c, d]
    (longBasicTail? .text rest).map fun (s, rest) => (char :: s, rest)
  | _, '\\' :: 'U' :: a :: b :: c :: d :: e :: f :: g :: h :: rest => do
    let char ← numbered? [a, b, c, d, e, f, g, h]
    (longBasicTail? .text rest).map fun (s, rest) => (char :: s, rest)
  | _, '\\' :: '\n' :: rest => longBasicTail? .skipping rest
  | _, '\\' :: '\r' :: '\n' :: rest => longBasicTail? .skipping rest
  | _, '\\' :: c :: rest =>
    if isBlank c then longBasicTail? .lineEnd rest
    else do
      let char ← simpleEscape? c
      (longBasicTail? .text rest).map fun (s, rest) => (char :: s, rest)
  | _, '\n' :: rest => (longBasicTail? .text rest).map fun (s, rest) => ('\n' :: s, rest)
  | _, '\r' :: '\n' :: rest =>
    (longBasicTail? .text rest).map fun (s, rest) => ('\r' :: '\n' :: s, rest)
  | _, c :: rest =>
    if isControl c ∨ c = '\\' then none
    else (longBasicTail? .text rest).map fun (s, rest) => (c :: s, rest)

/-- The inside of a string over several lines without escapes, and what follows the closing
quotes. -/
def longLiteralTail? : List Char → Option (List Char × List Char)
  | [] => none
  | '\'' :: '\'' :: '\'' :: '\'' :: '\'' :: rest => some (['\'', '\''], rest)
  | '\'' :: '\'' :: '\'' :: '\'' :: rest => some (['\''], rest)
  | '\'' :: '\'' :: '\'' :: rest => some ([], rest)
  | '\n' :: rest => (longLiteralTail? rest).map fun (s, rest) => ('\n' :: s, rest)
  | '\r' :: '\n' :: rest =>
    (longLiteralTail? rest).map fun (s, rest) => ('\r' :: '\n' :: s, rest)
  | c :: rest =>
    if isControl c then none else (longLiteralTail? rest).map fun (s, rest) => (c :: s, rest)

/-- A line end right behind the opening quotes does not belong to the string. -/
def skipFirstNewline (cs : List Char) : List Char := (newline? cs).getD cs

/-- The string that a text begins with, and what follows it; the outer `none` says that no string
begins here. -/
def string? (cs : List Char) : Option (Option (String × List Char)) :=
  let whole := fun (tail : Option (List Char × List Char)) =>
    tail.map fun (s, rest) => (String.ofList s, rest)
  match cs with
  | '"' :: '"' :: '"' :: rest => some (whole (longBasicTail? .text (skipFirstNewline rest)))
  | '"' :: rest => some (whole (basicTail? rest))
  | '\'' :: '\'' :: '\'' :: rest => some (whole (longLiteralTail? (skipFirstNewline rest)))
  | '\'' :: rest => some (whole (literalTail? rest))
  | _ => none

/-! ## 3. Keys -/

/-- The character may stand in a key without quotes. -/
def isBare (c : Char) : Bool := c.isAlphanum || c == '_' || c == '-'

/-- One part of a key: bare, or a string on one line. -/
def keyPart? : List Char → Option (String × List Char)
  | '"' :: rest => (basicTail? rest).map fun (s, rest) => (.ofList s, rest)
  | '\'' :: rest => (literalTail? rest).map fun (s, rest) => (.ofList s, rest)
  | cs =>
    match cs.takeWhile isBare with
    | [] => none
    | part => some (.ofList part, cs.dropWhile isBare)

/-- The parts of a key between points, and what follows them and blanks; `fuel` bounds the number
of parts. -/
def key? : (fuel : Nat) → List Char → Option (List String × List Char)
  | 0, _ => none
  | fuel + 1, cs => do
    let (part, cs) ← keyPart? (skipBlanks cs)
    match skipBlanks cs with
    | '.' :: rest => (key? fuel rest).map fun (parts, rest) => (part :: parts, rest)
    | cs => some ([part], cs)

end SqlSelect.Toml
