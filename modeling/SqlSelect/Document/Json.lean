import SqlSelect.Document
import SqlSelect.Json.Printer
import SqlSelect.Json.Reader
/-!
# The JSON form of documents

How a document is laid out as a tree, in both directions. Writing names every field; reading takes
defaults for fields that are left out, passes over members that it does not know, and refuses a
known field that is repeated. Small records may also be read from the list of their fields. The
kind of an expression or of an item is the only key of an object.
-/

namespace SqlSelect

open Data

/-! ## 1. Leaves -/

namespace TableDoc

/-- A source as a tree. -/
def toData : TableDoc → Data
  | subquery name => .object [("subquery", ofText name)]
  | entity name aliasName => .object [("entity", ofText name), ("alias", ofText? aliasName)]

/-- The reference to a named statement, if the object has a text for it. -/
def subqueryOfData? (d : Data) : Option TableDoc :=
  match fields? ["subquery"] d with
  | some [name] => (required text? name).map subquery
  | _ => none

/-- The table of an entity. -/
def entityOfData? (d : Data) : Option TableDoc :=
  match fields? ["entity", "alias"] d with
  | some [name, aliasName] => do
    some (entity (← required text? name) (← optional none (nullable text?) aliasName))
  | _ => none

/-- Reads a source; a named statement is looked for first. -/
def ofData? (d : Data) : Option TableDoc := subqueryOfData? d <|> entityOfData? d

end TableDoc

namespace SourceDoc

/-- The source of the rows as a tree. -/
def toData : SourceDoc → Data
  | verbatim text => ofText text
  | table t => t.toData

/-- Reads the source of the rows. -/
def ofData? (d : Data) : Option SourceDoc :=
  match d.text? with
  | some text => some (verbatim text)
  | none => (TableDoc.ofData? d).map table

end SourceDoc

/-- A tree that may be missing. -/
def orNull {α : Type} (write : α → Data) : Option α → Data
  | none => .scalar .null
  | some a => write a

namespace ColumnDoc

/-- A column as a tree. -/
def toData (c : ColumnDoc) : Data :=
  .object [("name", ofText c.name), ("table", orNull TableDoc.toData c.table),
    ("alias", ofText? c.aliasName)]

/-- Reads a column. -/
def ofData? (d : Data) : Option ColumnDoc :=
  match record? ["name", "table", "alias"] d with
  | some [name, table, aliasName] => do
    some { name := (← required text? name)
           table := (← optional none (nullable TableDoc.ofData?) table)
           aliasName := (← optional none (nullable text?) aliasName) }
  | _ => none

end ColumnDoc

namespace AggregateDoc

/-- An aggregate as a tree. -/
def toData (a : AggregateDoc) : Data :=
  .object [("function", ofText a.function), ("field", ofText a.field),
    ("table", orNull TableDoc.toData a.table), ("alias", ofText? a.aliasName)]

/-- Reads an aggregate. -/
def ofData? (d : Data) : Option AggregateDoc :=
  match record? ["function", "field", "table", "alias"] d with
  | some [function, field, table, aliasName] => do
    some { function := (← required text? function)
           field := (← required text? field)
           table := (← optional none (nullable TableDoc.ofData?) table)
           aliasName := (← optional none (nullable text?) aliasName) }
  | _ => none

end AggregateDoc

namespace RawSql

/-- Raw SQL as a tree. -/
def toData (r : RawSql) : Data :=
  .object [("sql", ofText r.sql), ("args", .array (r.args.map .scalar))]

/-- Reads raw SQL. -/
def ofData? (d : Data) : Option RawSql :=
  match record? ["sql", "args"] d with
  | some [sql, args] => do
    some { sql := (← required text? sql), args := (← optional [] (list? scalar?) args) }
  | _ => none

end RawSql

namespace OrderDoc

/-- A column to order by as a tree. -/
def toData (o : OrderDoc) : Data :=
  .object [("column", o.column.toData), ("dir", ofText o.dir)]

/-- Reads a column to order by. -/
def ofData? (d : Data) : Option OrderDoc :=
  match record? ["column", "dir"] d with
  | some [column, dir] => do
    some { column := (← required ColumnDoc.ofData? column)
           dir := (← optional "ASC" text? dir) }
  | _ => none

end OrderDoc

namespace SelectDoc

/-- An item of a `SELECT` list as a tree. -/
def toData : SelectDoc → Data
  | column c => .object [("column", c.toData)]
  | aggregate a => .object [("aggregate", a.toData)]
  | raw r => .object [("raw", r.toData)]

/-- Reads an item of a `SELECT` list. -/
def ofData? : Data → Option SelectDoc
  | .object [("column", d)] => (ColumnDoc.ofData? d).map column
  | .object [("aggregate", d)] => (AggregateDoc.ofData? d).map aggregate
  | .object [("raw", d)] => (RawSql.ofData? d).map raw
  | _ => none

end SelectDoc

/-! ## 2. Expressions -/

namespace ExprDoc

/-- An expression as a tree. Nodes of one and of two operands are written alike. -/
def toData : ExprDoc → Data
  | column c => .object [("column", c.toData)]
  | value v => .object [("value", .scalar v)]
  | raw r => .object [("raw", r.toData)]
  | aggregate a => .object [("aggregate", a.toData)]
  | unary op x =>
    .object [("binary", .object [("op", ofText op), ("left", x.toData), ("right", .scalar .null)])]
  | binary op x y =>
    .object [("binary", .object [("op", ofText op), ("left", x.toData), ("right", y.toData)])]
  | subquery name => .object [("subquery", ofText name)]
  | keyword k name =>
    .object [("keyword", .object [("keyword", ofText k), ("subquery", ofText name)])]

/-- Reads a keyword before a named statement. -/
def keywordOfData? (d : Data) : Option ExprDoc :=
  match record? ["keyword", "subquery"] d with
  | some [k, name] => do some (keyword (← required text? k) (← required text? name))
  | _ => none

/-- Reads an expression of the given kind that is no node. -/
def leafOfData? (kind : String) (d : Data) : Option ExprDoc :=
  match kind with
  | "column" => (ColumnDoc.ofData? d).map column
  | "value" => d.scalar?.map value
  | "raw" => (RawSql.ofData? d).map raw
  | "aggregate" => (AggregateDoc.ofData? d).map aggregate
  | "subquery" => d.text?.map subquery
  | "keyword" => keywordOfData? d
  | _ => none

/-- Reads an expression. A node without a second operand, or with null for it, has one operand. -/
def ofData? : Data → Option ExprDoc
  | .object [("binary", d)] =>
    match _e : record? ["op", "left", "right"] d with
    | some [op, some left, none] | some [op, some left, some (.scalar .null)] => do
      some (unary (← required text? op) (← ofData? left))
    | some [op, some left, some right] => do
      some (binary (← required text? op) (← ofData? left) (← ofData? right))
    | _ => none
  | .object [(kind, d)] => leafOfData? kind d
  | _ => none
termination_by d => sizeOf d
decreasing_by
  all_goals
    refine Nat.lt_trans (sizeOf_lt_of_mem_record? _e (by simp)) ?_
    exact sizeOf_lt_of_mem_members List.mem_cons_self

end ExprDoc

/-! ## 3. Statements -/

namespace StatementDoc

/-- The names of the fields of a statement. -/
def fieldNames : List String :=
  ["entity", "select", "from", "where", "group_by", "having", "order_by", "limit", "offset"]

/-- The members of a statement as a tree. -/
def toMembers (s : StatementDoc) : List (String × Data) :=
  [("entity", ofText? s.entity),
    ("select", .array (s.select.map SelectDoc.toData)),
    ("from", orNull SourceDoc.toData s.source),
    ("where", .array (s.filters.map ExprDoc.toData)),
    ("group_by", .array (s.groupBy.map ColumnDoc.toData)),
    ("having", .array (s.having.map ExprDoc.toData)),
    ("order_by", .array (s.orderBy.map OrderDoc.toData)),
    ("limit", .scalar (.int s.limit)),
    ("offset", .scalar (.int s.offset))]

/-- Reads a statement from an object that may have other members too. -/
def ofData? (d : Data) : Option StatementDoc :=
  match fields? fieldNames d with
  | some [entity, select, source, filters, groupBy, having, orderBy, limit, offset] => do
    some { entity := (← optional none (nullable text?) entity)
           select := (← optional [] (list? SelectDoc.ofData?) select)
           source := (← optional none (nullable SourceDoc.ofData?) source)
           filters := (← optional [] (list? ExprDoc.ofData?) filters)
           groupBy := (← optional [] (list? ColumnDoc.ofData?) groupBy)
           having := (← optional [] (list? ExprDoc.ofData?) having)
           orderBy := (← optional [] (list? OrderDoc.ofData?) orderBy)
           limit := (← optional 0 int? limit)
           offset := (← optional 0 int? offset) }
  | _ => none

end StatementDoc

namespace SubqueryDoc

/-- A named statement as a tree. -/
def toData (s : SubqueryDoc) : Data :=
  .object (s.statement.toMembers ++
    [("alias", ofText? s.aliasName), ("columns", .array (s.columns.map ofText))])

/-- Reads a named statement. -/
def ofData? (d : Data) : Option SubqueryDoc :=
  match fields? ["alias", "columns"] d with
  | some [aliasName, columns] => do
    some { statement := (← StatementDoc.ofData? d)
           aliasName := (← optional none (nullable text?) aliasName)
           columns := (← optional [] (list? text?) columns) }
  | _ => none

end SubqueryDoc

/-! ## 4. Documents -/

namespace QueryDocument

/-- A document as a tree. -/
def toData (q : QueryDocument) : Data :=
  .object (q.statement.toMembers ++
    [("subqueries", .object (q.subqueries.entries.map fun (name, s) => (name, s.toData)))])

/-- Reads a document. -/
def ofData? (d : Data) : Option QueryDocument :=
  match fields? ["subqueries"] d with
  | some [subqueries] => do
    some { statement := (← StatementDoc.ofData? d)
           subqueries := (← optional .empty (map? SubqueryDoc.ofData?) subqueries) }
  | _ => none

/-- The JSON text of a document. -/
def toJson (q : QueryDocument) : String := Json.compact q.toData

/-- Reads a document from JSON. -/
def ofJson? (s : String) : Option QueryDocument := do ofData? (← Json.read? s)

end QueryDocument

end SqlSelect
