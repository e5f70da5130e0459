import SqlSelect.Json.Number
import SqlSelect.Text.Hexadecimal
/-!
# Lexemes of JSON

A JSON text is a sequence of lexemes with blanks between them: brackets, separators, and single
values. Their order is not looked at here; `lex` cuts a text into lexemes and `Lexeme.text` writes
one.
-/

namespace SqlSelect.Json

/-- A lexeme. A text value also serves as the name of a member. -/
inductive Lexeme
  | openBrace
  | closeBrace
  | openBracket
  | closeBracket
  | comma
  | colon
  | scalar (value : Value)
  deriving Repr

/-! ## 1. Writing -/

/-- How one character is written inside a string: only quotes, backslashes and control characters
are escaped. -/
def escaped (c : Char) : List Char :=
  if c = '"' then ['\\', '"']
  else if c = '\\' then ['\\', '\\']
  else if c = '\n' then ['\\', 'n']
  else if c = '\r' then ['\\', 'r']
  else if c = '\t' then ['\\', 't']
  else if c = '\x08' then ['\\', 'b']
  else if c = '\x0c' then ['\\', 'f']
  else if c.toNat < 0x20 then
    ['\\', 'u', '0', '0', Nat.digitChar (c.toNat / 16), Nat.digitChar (c.toNat % 16)]
  else [c]

/-- A string between its quotes. -/
def stringText (s : String) : String := .ofList ('"' :: s.toList.flatMap escaped ++ ['"'])

/-- A single value. -/
def scalarText : Value → String
  | .null => "null"
  | .bool b => if b then "true" else "false"
  | .int n => .ofList (Value.intDigits n)
  | .float x => Decimal.json x
  | .text s => stringText s

/-- The text of a lexeme. -/
def Lexeme.text : Lexeme → String
  | openBrace => "\x7b"
  | closeBrace => "\x7d"
  | openBracket => "["
  | closeBracket => "]"
  | comma => ","
  | colon => ":"
  | scalar v => scalarText v

/-! ## 2. Reading strings -/

/-- The code unit of four hexadecimal digits. -/
def hexUnit? (a b c d : Char) : Option Nat := Text.hexNumber? [a, b, c, d]

/-- What the letter behind a backslash stands for, `u` apart. -/
def simpleEscape? : Char → Option Char
  | '"' => some '"'
  | '\\' => some '\\'
  | '/' => some '/'
  | 'b' => some '\x08'
  | 'f' => some '\x0c'
  | 'n' => some '\n'
  | 'r' => some '\r'
  | 't' => some '\t'
  | _ => none

/-- A character beyond 16 bits from its two code units. -/
def paired? (high low : Nat) : Option Char :=
  if 0xDC00 ≤ low ∧ low ≤ 0xDFFF then
    some (.ofNat (0x10000 + (high - 0xD800) * 0x400 + (low - 0xDC00)))
  else none

/-- The character of a `\u` escape and what follows it; a code unit of a pair is only read together
with the other one. -/
def unicodeEscape? : List Char → Option (Char × List Char)
  | a :: b :: c :: d :: rest => do
    let unit ← hexUnit? a b c d
    if 0xD800 ≤ unit ∧ unit ≤ 0xDBFF then
      match rest with
      | '\\' :: 'u' :: a :: b :: c :: d :: rest => do
        some (← paired? unit (← hexUnit? a b c d), rest)
      | _ => none
    else if 0xDC00 ≤ unit ∧ unit ≤ 0xDFFF then none
    else some (.ofNat unit, rest)
  | _ => none

/-- The first character of a string's inside and what follows it. -/
def character? : List Char → Option (Char × List Char)
  | '\\' :: 'u' :: rest => unicodeEscape? rest
  | '\\' :: c :: rest => (simpleEscape? c).map (·, rest)
  | c :: rest => if c.toNat < 0x20 ∨ c = '\\' then none else some (c, rest)
  | [] => none

theorem length_lt_of_unicodeEscape? {cs rest : List Char} {c : Char}
    (h : unicodeEscape? cs = some (c, rest)) : rest.length < cs.length := by
  unfold unicodeEscape? at h
  split at h
  · simp only [bind, Option.bind_eq_some_iff] at h
    obtain ⟨unit, -, h⟩ := h
    split at h
    · split at h
      · simp only [Option.bind_eq_some_iff, Option.some.injEq, Prod.mk.injEq] at h
        obtain ⟨_, -, _, -, -, rfl⟩ := h
        simp only [List.length_cons]
        omega
      · cases h
    · split at h
      · cases h
      · simp only [Option.some.injEq, Prod.mk.injEq] at h
        obtain ⟨-, rfl⟩ := h
        simp only [List.length_cons]
        omega
  · cases h

theorem length_lt_of_character? {cs rest : List Char} {c : Char}
    (h : character? cs = some (c, rest)) : rest.length < cs.length := by
  unfold character? at h
  split at h
  · have := length_lt_of_unicodeEscape? h
    simp only [List.length_cons]
    omega
  · simp only [Option.map_eq_some_iff, Prod.mk.injEq] at h
    obtain ⟨_, -, -, rfl⟩ := h
    simp only [List.length_cons]
    omega
  · split at h
    · cases h
    · simp only [Option.some.injEq, Prod.mk.injEq] at h
      obtain ⟨-, rfl⟩ := h
      simp
  · cases h

/-- The inside of a string up to its closing quote, and what follows that. -/
def stringTail? : List Char → Option (List Char × List Char)
  | '"' :: rest => some ([], rest)
  | cs =>
    match _e : character? cs with
    | none => none
    | some (c, rest) => (stringTail? rest).map fun (s, rest) => (c :: s, rest)
termination_by cs => cs.length
decreasing_by exact length_lt_of_character? _e

/-! ## 3. Reading lexemes -/

/-- The lexeme that a text begins with, and what follows it. -/
def lexeme? : List Char → Option (Lexeme × List Char)
  | '\x7b' :: rest => some (.openBrace, rest)
  | '\x7d' :: rest => some (.closeBrace, rest)
  | '[' :: rest => some (.openBracket, rest)
  | ']' :: rest => some (.closeBracket, rest)
  | ',' :: rest => some (.comma, rest)
  | ':' :: rest => some (.colon, rest)
  | 'n' :: 'u' :: 'l' :: 'l' :: rest => some (.scalar .null, rest)
  | 't' :: 'r' :: 'u' :: 'e' :: rest => some (.scalar (.bool true), rest)
  | 'f' :: 'a' :: 'l' :: 's' :: 'e' :: rest => some (.scalar (.bool false), rest)
  | '"' :: rest => (stringTail? rest).map fun (s, rest) => (.scalar (.text (.ofList s)), rest)
  | cs => do
    let (literal, rest) ← Literal.read? cs
    some (.scalar (← literal.value?), rest)

/-- The character may stand between lexemes. -/
def isSpace (c : Char) : Bool := c == ' ' || c == '\n' || c == '\t' || c == '\r'

/-- All lexemes of a text; `fuel` bounds their number. -/
def lexWithin : (fuel : Nat) → List Char → Option (List Lexeme)
  | 0, _ => none
  | fuel + 1, cs =>
    match cs.dropWhile isSpace with
    | [] => some []
    | cs => do
      let (l, rest) ← lexeme? cs
      some (l :: (← lexWithin fuel rest))

/-- The lexemes of a text: there are no more of them than characters. -/
def lex (s : String) : Option (List Lexeme) := lexWithin (s.toList.length + 1) s.toList

end SqlSelect.Json
