import SqlSelect.Value
/-!
# Queries

A query is what a statement renders to: the SQL text, and the values that its placeholders stand
for in the order in which they appear.
-/

namespace SqlSelect

/-- SQL text and the values of its placeholders. -/
structure Query where
  sql : String
  args : List Value
  deriving Inhabited, Repr

namespace Query

/-- The query with nothing in it. -/
def empty : Query := { sql := "", args := [] }

/-- One query after the other. -/
def append (a b : Query) : Query := { sql := a.sql ++ b.sql, args := a.args ++ b.args }

@[simp] theorem empty_append (q : Query) : empty.append q = q := by simp [append, empty]

@[simp] theorem append_empty (q : Query) : q.append empty = q := by simp [append, empty]

theorem append_assoc (a b c : Query) : (a.append b).append c = a.append (b.append c) := by
  simp [append, String.append_assoc]

/-- The query without the semicolon at its end, as it is nested in another one. -/
def unterminated (q : Query) : Query :=
  { q with sql := .ofList (match q.sql.toList.reverse with
      | ';' :: rest => rest.reverse
      | _ => q.sql.toList) }

/-- A semicolon behind a query is what nesting takes away. -/
theorem unterminated_append (q : Query) :
    (q.append { sql := ";", args := [] }).unterminated = q := by
  simp [append, unterminated]

end Query

end SqlSelect
