import SqlSelect.Entity.Registry
import SqlSelect.Operator
import SqlSelect.Query
/-!
# Expressions

What stands in the clauses of a statement: columns, values, raw SQL, aggregates, nested statements,
and operators over them. A statement nested in another one is referred to by its number, so an
expression is a finite tree however deeply statements are nested, and two references with one
number are references to the same nested statement.
-/

namespace SqlSelect

/-! ## 1. Sources of columns -/

/-- The table of an entity, under another name if it has an alias. -/
structure Table where
  entity : EntityKey
  aliasName : Option String := none
  deriving DecidableEq, Inhabited, Repr

/-- An alias that is not empty. -/
def nonEmpty (aliasName : Option String) : Option String := aliasName.filter (· ≠ "")

theorem nonEmpty_nonEmpty (aliasName : Option String) :
    nonEmpty (nonEmpty aliasName) = nonEmpty aliasName := by
  simp [nonEmpty, Option.filter_filter]

/-- The table under another name; an empty name takes the alias away. -/
def Table.withAlias (t : Table) (aliasName : String) : Table :=
  { t with aliasName := nonEmpty (some aliasName) }

/-- A reference to a nested statement. -/
structure Subquery where
  /-- The number of the nested statement. -/
  node : Nat
  /-- The fields that may be referred to from outside; all of them if the list is empty. -/
  columns : List String := []
  aliasName : Option String := none
  deriving DecidableEq, Inhabited, Repr

/-- A source of columns. -/
inductive TableRef
  | table (table : Table)
  | subquery (subquery : Subquery)
  deriving DecidableEq, Inhabited, Repr

/-- What is written before the columns of a source: its alias, unless that is empty. -/
def TableRef.qualifier? : TableRef → Option String
  | table t => nonEmpty t.aliasName
  | subquery s => nonEmpty s.aliasName

/-! ## 2. Leaves -/

/-- A field, of the statement's own entity or of another source. -/
structure Column where
  name : String
  table : Option TableRef := none
  aliasName : Option String := none
  deriving DecidableEq, Inhabited, Repr

/-- A function over a field. -/
structure Aggregate where
  function : String
  field : String
  table : Option TableRef := none
  aliasName : Option String := none
  deriving DecidableEq, Inhabited, Repr

/-- SQL as it is, with the values of its placeholders. -/
structure RawSql where
  sql : String
  args : List Value := []
  deriving Inhabited, Repr

/-- The text and the values of raw SQL. -/
def RawSql.query (r : RawSql) : Query := { sql := r.sql, args := r.args }

/-- A keyword such as `EXISTS` before a nested statement, written with the blank that ends it. -/
structure KeywordSubquery where
  keyword : String
  subquery : Subquery
  deriving DecidableEq, Inhabited, Repr

/-! ## 3. Trees -/

/-- What a node with an operator is taken for. -/
inductive NodeKind
  | predicate
  | math
  deriving DecidableEq, Inhabited, Repr

/-- The name of a kind of node. -/
def NodeKind.name : NodeKind → String
  | predicate => "Predicate"
  | math => "Math"

/-- The kind of node that fits an operator. -/
def Operator.nodeKind (op : Operator) : NodeKind := if op.isArithmetic then .math else .predicate

/-- An expression. A node may carry any operator and may or may not have a second operand; whether
that makes sense is found out when it is compiled. -/
inductive Expr
  | column (column : Column)
  | value (value : Value)
  | raw (sql : RawSql)
  | aggregate (aggregate : Aggregate)
  | subquery (subquery : Subquery)
  | keyword (keyword : KeywordSubquery)
  | unary (kind : NodeKind) (op : Operator) (operand : Expr)
  | binary (kind : NodeKind) (op : Operator) (left right : Expr)
  deriving Inhabited, Repr

/-! ## 4. Constructors -/

namespace Column

/-- The column of a source. -/
def of (c : Column) (table : TableRef) : Column := { c with table := some table }

/-- The column under another name. -/
def withAlias (c : Column) (aliasName : String) : Column :=
  { c with aliasName := some aliasName }

end Column

namespace Aggregate

/-- The aggregate over a field of a source. -/
def of (a : Aggregate) (table : TableRef) : Aggregate := { a with table := some table }

/-- The aggregate under another name. -/
def withAlias (a : Aggregate) (aliasName : String) : Aggregate :=
  { a with aliasName := some aliasName }

/-- The average of a field. -/
def avg (field : String) : Aggregate := { function := "AVG", field }

/-- The sum of a field. -/
def sum (field : String) : Aggregate := { function := "SUM", field }

/-- The number of values of a field. -/
def count (field : String) : Aggregate := { function := "COUNT", field }

/-- The least value of a field. -/
def min (field : String) : Aggregate := { function := "MIN", field }

/-- The greatest value of a field. -/
def max (field : String) : Aggregate := { function := "MAX", field }

end Aggregate

namespace KeywordSubquery

/-- The nested statement has rows. -/
def exist (s : Subquery) : KeywordSubquery := { keyword := "EXISTS ", subquery := s }

/-- The nested statement has no rows. -/
def notExist (s : Subquery) : KeywordSubquery := { keyword := "NOT EXISTS ", subquery := s }

/-- Some row of the nested statement. -/
def any (s : Subquery) : KeywordSubquery := { keyword := "ANY ", subquery := s }

/-- Every row of the nested statement. -/
def all (s : Subquery) : KeywordSubquery := { keyword := "ALL ", subquery := s }

/-- Some row of the nested statement. -/
def some (s : Subquery) : KeywordSubquery := { keyword := "SOME ", subquery := s }

end KeywordSubquery

namespace Expr

/-- A node of the kind that fits its operator, with one operand. -/
def apply (op : Operator) (x : Expr) : Expr := .unary op.nodeKind op x

/-- A node of the kind that fits its operator, with two operands. -/
def combine (op : Operator) (x y : Expr) : Expr := .binary op.nodeKind op x y

/-- A predicate node with one operand. -/
def test (op : Operator) (x : Expr) : Expr := .unary .predicate op x

/-- A predicate node with two operands. -/
def predicate (op : Operator) (x y : Expr) : Expr := .binary .predicate op x y

/-- A math node with two operands. -/
def math (op : Operator) (x y : Expr) : Expr := .binary .math op x y

/-- `x = y` -/
def eq (x y : Expr) : Expr := predicate .eq x y
/-- `x <> y` -/
def ne (x y : Expr) : Expr := predicate .ne x y
/-- `x < y` -/
def lt (x y : Expr) : Expr := predicate .lt x y
/-- `x <= y` -/
def lte (x y : Expr) : Expr := predicate .lte x y
/-- `x > y` -/
def gt (x y : Expr) : Expr := predicate .gt x y
/-- `x >= y` -/
def gte (x y : Expr) : Expr := predicate .gte x y
/-- `x LIKE y` -/
def like (x y : Expr) : Expr := predicate .like x y
/-- `x NOT LIKE y` -/
def notLike (x y : Expr) : Expr := predicate .notLike x y
/-- `x IN (SELECT …)` -/
def inQuery (x : Expr) (s : Subquery) : Expr := predicate .isIn x (.subquery s)
/-- `x NOT IN (SELECT …)` -/
def notInQuery (x : Expr) (s : Subquery) : Expr := predicate .notIn x (.subquery s)
/-- `x AND y` -/
def and (x y : Expr) : Expr := predicate .and x y
/-- `x OR y` -/
def or (x y : Expr) : Expr := predicate .or x y
/-- `NOT x` -/
def not (x : Expr) : Expr := test .not x
/-- `x IS NULL` -/
def isNull (x : Expr) : Expr := test .isNull x
/-- `x IS NOT NULL` -/
def isNotNull (x : Expr) : Expr := test .isNotNull x
/-- `x + y` -/
def add (x y : Expr) : Expr := math .add x y
/-- `x - y` -/
def sub (x y : Expr) : Expr := math .sub x y
/-- `x * y` -/
def mul (x y : Expr) : Expr := math .mul x y
/-- `x / y` -/
def div (x y : Expr) : Expr := math .div x y
/-- `x % y` -/
def mod (x y : Expr) : Expr := math .mod x y

end Expr

end SqlSelect
