import SqlSelect.Expr
/-!
# Query documents

A document describes one statement and a table of named ones that may be nested in it and in each
other. It names operators, directions and nested statements by texts; whether these mean anything
is found out when the document is lowered to a statement.
-/

namespace SqlSelect

/-! ## 1. Leaves -/

/-- A source of columns: a named statement of the document, or the table of an entity. -/
inductive TableDoc
  | subquery (name : String)
  | entity (entity : String) (aliasName : Option String)
  deriving DecidableEq, Inhabited, Repr

/-- Where the rows come from: a text that is written as it is, or a source of columns. -/
inductive SourceDoc
  | verbatim (text : String)
  | table (table : TableDoc)
  deriving DecidableEq, Inhabited, Repr

/-- A column. -/
structure ColumnDoc where
  name : String
  table : Option TableDoc := none
  aliasName : Option String := none
  deriving DecidableEq, Inhabited, Repr

/-- An aggregate. -/
structure AggregateDoc where
  function : String
  field : String
  table : Option TableDoc := none
  aliasName : Option String := none
  deriving DecidableEq, Inhabited, Repr

/-- A column to order by, and the direction as a text. -/
structure OrderDoc where
  column : ColumnDoc
  dir : String := "ASC"
  deriving DecidableEq, Inhabited, Repr

/-- An item of a `SELECT` list. -/
inductive SelectDoc
  | column (column : ColumnDoc)
  | aggregate (aggregate : AggregateDoc)
  | raw (sql : RawSql)
  deriving Inhabited, Repr

/-! ## 2. Expressions and statements -/

/-- An expression. A node has one operand or two; operators are texts. -/
inductive ExprDoc
  | column (column : ColumnDoc)
  | value (value : Value)
  | raw (sql : RawSql)
  | aggregate (aggregate : AggregateDoc)
  | unary (op : String) (operand : ExprDoc)
  | binary (op : String) (left right : ExprDoc)
  | subquery (name : String)
  | keyword (keyword subquery : String)
  deriving Inhabited, Repr

/-- A statement. -/
structure StatementDoc where
  entity : Option String := none
  select : List SelectDoc := []
  source : Option SourceDoc := none
  filters : List ExprDoc := []
  groupBy : List ColumnDoc := []
  having : List ExprDoc := []
  orderBy : List OrderDoc := []
  limit : Int64 := 0
  offset : Int64 := 0
  deriving Inhabited, Repr

/-- A named statement, with what its references share. -/
structure SubqueryDoc where
  statement : StatementDoc
  aliasName : Option String := none
  columns : List String := []
  deriving Inhabited, Repr

/-- A statement and the named statements that it may refer to. -/
structure QueryDocument where
  statement : StatementDoc
  subqueries : KeyMap SubqueryDoc := .empty
  deriving Inhabited, Repr

end SqlSelect
