import SqlSelect.Data
import SqlSelect.Json.Lexeme
/-!
# Reading JSON

A machine takes the lexemes of a text one by one. It keeps the brackets that are open, each with
what has been read inside it, and what may come next; when the last lexeme has been taken, a whole
tree must have been read and nothing more. The height of the stack is the depth of nesting, which
is limited.
-/

namespace SqlSelect.Json

/-- An open bracket with what has been read inside it, latest first. -/
inductive Frame
  | array (items : List Data)
  /-- The key is that of the member whose value comes next. -/
  | object (members : List (String × Data)) (key : String)
  deriving Repr

/-- What may come next. -/
inductive Expected
  | value
  | valueOrClose
  | keyOrClose
  | key
  | colon (key : String)
  | separator
  | nothing (read : Data)
  deriving Repr

/-- The state of the machine. -/
structure State where
  stack : List Frame
  expected : Expected
  deriving Repr

namespace State

/-- Before the first lexeme. -/
def start : State := { stack := [], expected := .value }

/-- A tree has been read: it goes into the innermost open bracket. -/
def complete (value : Data) : List Frame → State
  | [] => { stack := [], expected := .nothing value }
  | .array items :: stack => { stack := .array (value :: items) :: stack, expected := .separator }
  | .object members key :: stack =>
    { stack := .object ((key, value) :: members) key :: stack, expected := .separator }

/-- Opens a bracket, unless `limit` brackets are open. -/
def opening (limit : Nat) (frame : Frame) (expected : Expected) (stack : List Frame) :
    Option State :=
  if stack.length < limit then some { stack := frame :: stack, expected } else none

/-- A value begins. -/
def value (limit : Nat) (stack : List Frame) : Lexeme → Option State
  | .scalar v => some (complete (.scalar v) stack)
  | .openBracket => opening limit (.array []) .valueOrClose stack
  | .openBrace => opening limit (.object [] "") .keyOrClose stack
  | _ => none

/-- One lexeme. -/
def step (limit : Nat) (s : State) (l : Lexeme) : Option State :=
  match s.expected, s.stack, l with
  | .value, stack, l => value limit stack l
  | .valueOrClose, .array _ :: stack, .closeBracket => some (complete (.array []) stack)
  | .valueOrClose, stack, l => value limit stack l
  | .keyOrClose, .object _ _ :: stack, .closeBrace => some (complete (.object []) stack)
  | .keyOrClose, stack, .scalar (.text key) => some { stack, expected := .colon key }
  | .key, stack, .scalar (.text key) => some { stack, expected := .colon key }
  | .colon key, .object members _ :: stack, .colon =>
    some { stack := .object members key :: stack, expected := .value }
  | .separator, .array items :: stack, .comma =>
    some { stack := .array items :: stack, expected := .value }
  | .separator, .array items :: stack, .closeBracket =>
    some (complete (.array items.reverse) stack)
  | .separator, .object members key :: stack, .comma =>
    some { stack := .object members key :: stack, expected := .key }
  | .separator, .object members _ :: stack, .closeBrace =>
    some (complete (.object members.reverse) stack)
  | _, _, _ => none

/-- The tree, if one has been read to its end. -/
def result? (s : State) : Option Data :=
  match s.expected with
  | .nothing d => some d
  | _ => none

end State

/-- The tree that a text holds, nested at most `limit` deep. -/
def readWithin (limit : Nat) (s : String) : Option Data := do
  let lexemes ← lex s
  (← lexemes.foldlM (State.step limit) .start).result?

/-- How deep the brackets of a document may be nested. -/
def nestingLimit : Nat := 127

/-- The tree that a text holds. -/
def read? (s : String) : Option Data := readWithin nestingLimit s

end SqlSelect.Json
