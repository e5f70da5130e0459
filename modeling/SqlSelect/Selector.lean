import SqlSelect.Dialect
import SqlSelect.Expr
/-!
# Statements

A selector is a `SELECT` statement as it is put together clause by clause. Each call touches one
clause, and the clauses are written in a fixed order, whatever the order of the calls.
-/

namespace SqlSelect

/-- What a statement is built against: the number of a registry, and a dialect. Two sessions with
one number share their registry. -/
structure Db where
  registry : Nat
  dialect : Dialect
  deriving DecidableEq, Inhabited, Repr

/-- An item of a `SELECT` list. -/
inductive Selectable
  | column (column : Column)
  | aggregate (aggregate : Aggregate)
  | raw (sql : RawSql)
  deriving Inhabited, Repr

/-- The direction of an order. -/
inductive SortDir
  | asc
  | desc
  deriving DecidableEq, Inhabited, Repr

namespace SortDir

/-- The direction that a text names, in capital letters only. -/
def ofText? : String → Option SortDir
  | "ASC" => some asc
  | "DESC" => some desc
  | _ => none

end SortDir

/-- A column to order by. -/
structure OrderBy where
  column : Column
  dir : SortDir
  deriving DecidableEq, Inhabited, Repr

/-- Where the rows come from. -/
inductive Source
  /-- The table of the statement's own entity. -/
  | entity
  /-- A text that is written as it is. -/
  | verbatim (text : String)
  | reference (table : TableRef)
  deriving DecidableEq, Inhabited, Repr

/-- A `SELECT` statement. -/
structure Selector where
  db : Db
  entity : Option EntityKey
  /-- The `SELECT` list; everything if it is empty. -/
  columns : List Selectable := []
  source : Source := .entity
  filters : List Expr := []
  groupBy : List Column := []
  having : List Expr := []
  orderBy : List OrderBy := []
  /-- Written only if it is positive. -/
  limit : Int64 := 0
  /-- Written only if it is positive. -/
  offset : Int64 := 0
  deriving Inhabited, Repr

namespace Selector

/-- The `SELECT` list, in the place of an earlier one. -/
def select (s : Selector) (items : List Selectable) : Selector := { s with columns := items }

/-- One more item of the `SELECT` list. -/
def addColumn (s : Selector) (item : Selectable) : Selector :=
  { s with columns := s.columns ++ [item] }

/-- The source as a text; the empty text stands for the entity's own table. -/
def fromText (s : Selector) (text : String) : Selector :=
  { s with source := if text = "" then .entity else .verbatim text }

/-- The source as a table or a nested statement. -/
def fromTable (s : Selector) (table : TableRef) : Selector := { s with source := .reference table }

/-- One more condition on rows. -/
def filter (s : Selector) (x : Expr) : Selector := { s with filters := s.filters ++ [x] }

/-- More conditions on rows. -/
def whereAll (s : Selector) (xs : List Expr) : Selector := { s with filters := s.filters ++ xs }

/-- More columns to group by. -/
def addGroupBy (s : Selector) (columns : List Column) : Selector :=
  { s with groupBy := s.groupBy ++ columns }

/-- One more condition on groups. -/
def addHaving (s : Selector) (x : Expr) : Selector := { s with having := s.having ++ [x] }

/-- More conditions on groups. -/
def havingAll (s : Selector) (xs : List Expr) : Selector := { s with having := s.having ++ xs }

/-- More columns to order by. -/
def addOrderBy (s : Selector) (items : List OrderBy) : Selector :=
  { s with orderBy := s.orderBy ++ items }

/-- The greatest number of rows. -/
def withLimit (s : Selector) (n : Int64) : Selector := { s with limit := n }

/-- The number of rows to skip. -/
def withOffset (s : Selector) (n : Int64) : Selector := { s with offset := n }

end Selector

end SqlSelect
