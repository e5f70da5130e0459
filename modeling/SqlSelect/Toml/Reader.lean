import SqlSelect.Toml.Scalar
import SqlSelect.Toml.Table
import SqlSelect.Toml.Text
/-!
# Reading TOML

A document is a sequence of lines: headers of tables, keys with values, and empty ones. Values may
be nested, as lists that run over several lines and as tables on one line; nesting is limited.
-/

namespace SqlSelect.Toml

/-! ## 1. Values -/

/-- How deep lists and inline tables may be nested. -/
def nestingLimit : Nat := 80

mutual

/-- The value that a text begins with, and what follows it. `depth` is how deep values may still be
nested; `fuel` bounds the number of values. -/
def value? : (fuel depth : Nat) → List Char → Option (Data × List Char)
  | 0, _, _ => none
  | fuel + 1, depth, cs =>
    match string? cs with
    | some read => read.map fun (s, rest) => (.ofText s, rest)
    | none =>
      match cs, depth with
      | '[' :: rest, depth + 1 => (items? fuel depth rest).map fun (ds, rest) => (.array ds, rest)
      | '\x7b' :: rest, depth + 1 =>
        match skipBlanks rest with
        | '\x7d' :: rest => some (.object [], rest)
        | rest => (pairs? fuel depth [] rest).map fun (ms, rest) => (.object ms, rest)
      | cs, _ => do
        let (text, rest) := unquotedText cs
        some (← unquoted? text, rest)

/-- The items of a list up to its closing bracket. -/
def items? : (fuel depth : Nat) → List Char → Option (List Data × List Char)
  | 0, _, _ => none
  | fuel + 1, depth, cs => do
    match ← skipLines? cs.length cs with
    | ']' :: rest => some ([], rest)
    | cs => do
      let (d, cs) ← value? fuel depth cs
      match ← skipLines? cs.length cs with
      | ',' :: rest => (items? fuel depth rest).map fun (ds, rest) => (d :: ds, rest)
      | ']' :: rest => some ([d], rest)
      | _ => none

/-- The members of a table on one line up to its closing brace, one at least. -/
def pairs? : (fuel depth : Nat) → Members → List Char → Option (List (String × Data) × List Char)
  | 0, _, _, _ => none
  | fuel + 1, depth, members, cs => do
    let (key, cs) ← key? cs.length cs
    match cs with
    | '=' :: cs => do
      let (d, cs) ← value? fuel depth (skipBlanks cs)
      let members ← members.assign d key.dropLast (key.getLast?.getD "")
      match skipBlanks cs with
      | ',' :: rest => pairs? fuel depth members rest
      | '\x7d' :: rest => some (membersToData members, rest)
      | _ => none
    | _ => none

end

/-! ## 2. Lines -/

/-- A line that says something. -/
inductive Line
  | table (path : List String)
  | tables (path : List String)
  | assignment (key : List String) (data : Data)

/-- The line that a text begins with, and what follows it. -/
def line? (cs : List Char) : Option (Line × List Char) :=
  match cs with
  | '[' :: '[' :: rest => do
    let (path, rest) ← key? rest.length rest
    match rest with
    | ']' :: ']' :: rest => some (.tables path, rest)
    | _ => none
  | '[' :: rest => do
    let (path, rest) ← key? rest.length rest
    match rest with
    | ']' :: rest => some (.table path, rest)
    | _ => none
  | cs => do
    let (key, rest) ← key? cs.length cs
    match rest with
    | '=' :: rest => do
      let (d, rest) ← value? (2 * rest.length + 2) nestingLimit (skipBlanks rest)
      some (.assignment key d, rest)
    | _ => none

/-- All lines of a text; `fuel` bounds their number. -/
def linesWithin : (fuel : Nat) → List Char → Option (List Line)
  | 0, _ => none
  | fuel + 1, cs => do
    match ← skipLines? cs.length cs with
    | [] => some []
    | cs => do
      let (l, rest) ← line? cs
      match ← skipComment? rest with
      | [] => some [l]
      | rest => (linesWithin fuel (← newline? rest)).map (l :: ·)

/-! ## 3. Documents -/

/-- The tables of a document being read, and the path of the header that is in force. -/
structure State where
  members : Members
  header : List String

/-- One line. -/
def State.step (s : State) : Line → Option State
  | .table path => do
    let members ← s.members.changeAt (Members.openTable (path.getLast?.getD "")) path.dropLast
    some { members, header := path }
  | .tables path => do
    let members ← s.members.changeAt (Members.appendTable (path.getLast?.getD "")) path.dropLast
    some { members, header := path }
  | .assignment key d => do
    let members ← s.members.changeAt (Members.assign d key.dropLast (key.getLast?.getD "")) s.header
    some { s with members }

/-- The tree that a text holds. -/
def read? (s : String) : Option Data := do
  let cs := match s.toList with
    | '\uFEFF' :: rest => rest
    | cs => cs
  let lines ← linesWithin (cs.length + 1) cs
  let state ← lines.foldlM State.step { members := [], header := [] }
  some (.object (membersToData state.members))

end SqlSelect.Toml
