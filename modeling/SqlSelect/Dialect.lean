import SqlSelect.Operator
/-!
# Dialects

A dialect decides two things about the text of a statement and nothing else: the character that
quotes identifiers, and how each operator is spelled. Three dialects are built in; any other one
starts from one of them and replaces the quote character, some spellings, or only the name.
-/

namespace SqlSelect

/-! ## 1. Quoting -/

/-- The name between two quote characters, every quote character inside it doubled. -/
def quoteWith (quote : Char) (name : String) : String :=
  .ofList (quote :: name.toList.flatMap (fun c => if c = quote then [c, c] else [c]) ++ [quote])

/-! ## 2. The built-in dialects -/

/-- A built-in dialect. -/
inductive BaseDialect
  | mysql
  | postgres
  | sqlite
  deriving DecidableEq, Inhabited, Repr

namespace BaseDialect

/-- The name of a built-in dialect. -/
def name : BaseDialect → String
  | mysql => "mysql"
  | postgres => "postgres"
  | sqlite => "sqlite"

/-- The character that quotes identifiers. -/
def quoteChar : BaseDialect → Char
  | mysql => '\x60'
  | postgres | sqlite => '"'

/-- The identifier as it stands in a statement. -/
def quoteIdentifier (base : BaseDialect) (name : String) : String :=
  match base with
  | mysql => quoteWith '\x60' name
  | postgres | sqlite => quoteWith '"' name

/-- Every built-in dialect quotes identifiers with its own quote character. -/
theorem quoteIdentifier_eq (base : BaseDialect) (name : String) :
    base.quoteIdentifier name = quoteWith base.quoteChar name := by
  cases base <;> rfl

/-- The spelling of an operator: that of the standard, but for one inequality sign. -/
def spelling (base : BaseDialect) : Operator → String
  | .eq => "="
  | .ne => if base = sqlite then "!=" else "<>"
  | .lt => "<"
  | .lte => "<="
  | .gt => ">"
  | .gte => ">="
  | .like => "LIKE"
  | .notLike => "NOT LIKE"
  | .isIn => "IN"
  | .notIn => "NOT IN"
  | .and => "AND"
  | .or => "OR"
  | .not => "NOT"
  | .isNull => "IS NULL"
  | .isNotNull => "IS NOT NULL"
  | .add => "+"
  | .sub => "-"
  | .mul => "*"
  | .div => "/"
  | .mod => "%"

/-- The built-in dialect that a text names, in any case; one of them has two names. -/
def ofText? (s : String) : Option BaseDialect :=
  match Text.lowercase s with
  | "mysql" => some mysql
  | "postgres" | "postgresql" => some postgres
  | "sqlite" => some sqlite
  | _ => none

end BaseDialect

/-! ## 3. Dialects -/

/-- A dialect: a built-in one with what is replaced in it. -/
structure Dialect where
  name : String
  base : BaseDialect
  /-- The quote character, if it is not the one of the base. -/
  quote : Option Char := none
  /-- Spellings that replace those of the base, the latest first. -/
  spellings : List (Operator × String) := []
  deriving DecidableEq, Inhabited, Repr

/-- The built-in dialect as it is. -/
def BaseDialect.toDialect (base : BaseDialect) : Dialect := { name := base.name, base }

namespace Dialect

/-- The dialect with another quote character. -/
def withQuote (d : Dialect) (quote : Char) : Dialect := { d with quote := some quote }

/-- The dialect with another spelling of one operator. -/
def withSpelling (d : Dialect) (op : Operator) (text : String) : Dialect :=
  { d with spellings := (op, text) :: d.spellings }

/-- The character that quotes identifiers. -/
def quoteChar (d : Dialect) : Char := d.quote.getD d.base.quoteChar

/-- The identifier as it stands in a statement. -/
def quoteIdentifier (d : Dialect) (name : String) : String :=
  match d.quote with
  | some quote => quoteWith quote name
  | none => d.base.quoteIdentifier name

/-- The spelling of an operator. -/
def spelling (d : Dialect) (op : Operator) : String :=
  (d.spellings.lookup op).getD (d.base.spelling op)

/-- Every dialect quotes identifiers with its own quote character. -/
theorem quoteIdentifier_eq (d : Dialect) (name : String) :
    d.quoteIdentifier name = quoteWith d.quoteChar name := by
  rw [quoteIdentifier, quoteChar]
  cases d.quote with
  | some quote => rfl
  | none => exact d.base.quoteIdentifier_eq name

@[simp] theorem quoteChar_toDialect (base : BaseDialect) :
    base.toDialect.quoteChar = base.quoteChar := rfl

@[simp] theorem spelling_toDialect (base : BaseDialect) (op : Operator) :
    base.toDialect.spelling op = base.spelling op := rfl

@[simp] theorem spelling_withSpelling_self (d : Dialect) (op : Operator) (text : String) :
    (d.withSpelling op text).spelling op = text := by
  simp [withSpelling, spelling]

theorem spelling_withSpelling_of_ne (d : Dialect) {op other : Operator} (text : String)
    (h : other ≠ op) : (d.withSpelling op text).spelling other = d.spelling other := by
  simp [withSpelling, spelling, List.lookup_cons, beq_eq_false_iff_ne.2 h]

@[simp] theorem quoteChar_withQuote (d : Dialect) (quote : Char) :
    (d.withQuote quote).quoteChar = quote := rfl

@[simp] theorem quoteChar_withSpelling (d : Dialect) (op : Operator) (text : String) :
    (d.withSpelling op text).quoteChar = d.quoteChar := rfl

end Dialect

end SqlSelect
