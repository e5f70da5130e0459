import SqlSelect.Build
import SqlSelect.Document
/-!
# From documents to statements

A document is lowered to a statement and the list of statements nested in it. Names turn into
numbers: a named statement is lowered when a reference to it is met for the first time, and every
later reference to the name shares the number it got then. While a name is being lowered it cannot
be referred to, so a name that leads back to itself is an error; the names that may still be lowered
on a path grow fewer with every step, which is why lowering ends.
-/

namespace SqlSelect

/-- Why a document does not render. -/
inductive DocumentError
  /-- The text of the document could not be read, for the reason given. -/
  | unreadable (reason : String)
  /-- The text is no document. -/
  | malformed
  | unknownSubquery (name : String)
  | subqueryCycle (name : String)
  | unknownOperator (text : String)
  | unknownSortDirection (text : String)
  | build (error : BuildError)
  deriving DecidableEq, Inhabited, Repr

/-- The text that tells a user what is wrong. -/
def DocumentError.message : DocumentError → String
  | unreadable reason => "Failed to read query document: " ++ reason
  | malformed => "Invalid query document: not a document in JSON"
  | unknownSubquery name => "Unknown subquery: " ++ name
  | subqueryCycle name => "Subquery '" ++ name ++ "' references itself"
  | unknownOperator text => "Unknown operator: " ++ text
  | unknownSortDirection text => "Unknown sort direction: " ++ text
  | build e => e.message

/-! ## 1. State -/

/-- What has been lowered so far. -/
structure Lowered where
  /-- The references to names that have been lowered. -/
  built : KeyMap Subquery := .empty
  /-- The nested statements in the order of their numbers. -/
  nested : List Selector := []
  deriving Inhabited

/-- Lowering: it reads and changes what has been lowered, and stops at the first error. -/
abbrev LowerM := StateT Lowered (Except DocumentError)

/-! ## 2. Statements, given how names are lowered -/

namespace LowerM

variable (lookUp : String → LowerM Subquery)

/-- A source of columns. -/
def table : TableDoc → LowerM TableRef
  | .subquery name => do pure (.subquery (← lookUp name))
  | .entity entity aliasName =>
    pure (.table { entity := .named entity, aliasName := nonEmpty aliasName })

/-- A source of columns that may be missing. -/
def table? : Option TableDoc → LowerM (Option TableRef)
  | none => pure none
  | some t => do pure (some (← table lookUp t))

/-- A column. -/
def column (c : ColumnDoc) : LowerM Column := do
  pure { name := c.name, table := (← table? lookUp c.table), aliasName := c.aliasName }

/-- An aggregate; the name of its function is put into capital letters. -/
def aggregate (a : AggregateDoc) : LowerM Aggregate := do
  pure { function := Text.uppercase a.function, field := a.field,
         table := (← table? lookUp a.table), aliasName := a.aliasName }

/-- The operator that a text names. -/
def operator (text : String) : LowerM Operator :=
  match Operator.ofText? text with
  | some op => pure op
  | none => throw (.unknownOperator text)

/-- A keyword: without blanks around it, in capital letters, and with one blank behind it. -/
def keyword (text : String) : String := Text.uppercase (Text.trim text) ++ " "

/-- An expression. The kind of a node follows from its operator. -/
def expr : ExprDoc → LowerM Expr
  | .column c => do pure (.column (← column lookUp c))
  | .value v => pure (.value v)
  | .raw r => pure (.raw r)
  | .aggregate a => do pure (.aggregate (← aggregate lookUp a))
  | .unary text x => do
    let op ← operator text
    pure (.apply op (← expr x))
  | .binary text x y => do
    let op ← operator text
    let x ← expr x
    pure (.combine op x (← expr y))
  | .subquery name => do pure (.subquery (← lookUp name))
  | .keyword text name => do
    pure (.keyword { keyword := keyword text, subquery := (← lookUp name) })

/-- An item of a `SELECT` list. -/
def selectable : SelectDoc → LowerM Selectable
  | .column c => do pure (.column (← column lookUp c))
  | .aggregate a => do pure (.aggregate (← aggregate lookUp a))
  | .raw r => pure (.raw r)

/-- The source of the rows; the empty text stands for the entity's own table. -/
def source : Option SourceDoc → LowerM Source
  | none => pure .entity
  | some (.verbatim text) => pure (if text = "" then .entity else .verbatim text)
  | some (.table t) => do pure (.reference (← table lookUp t))

/-- A column to order by; the direction is looked at before the column. -/
def ordering (o : OrderDoc) : LowerM OrderBy :=
  match SortDir.ofText? o.dir with
  | some dir => do pure { column := (← column lookUp o.column), dir }
  | none => throw (.unknownSortDirection o.dir)

/-- A statement, clause by clause. -/
def statement (db : Db) (doc : StatementDoc) : LowerM Selector := do
  let columns ← doc.select.mapM (selectable lookUp)
  let source ← source lookUp doc.source
  let filters ← doc.filters.mapM (expr lookUp)
  let groupBy ← doc.groupBy.mapM (column lookUp)
  let having ← doc.having.mapM (expr lookUp)
  let orderBy ← doc.orderBy.mapM (ordering lookUp)
  pure { db, entity := doc.entity.map .named, columns, source, filters, groupBy, having, orderBy,
         limit := doc.limit, offset := doc.offset }

end LowerM

/-! ## 3. Names -/

namespace LowerM

/-- A statement gets a number, and its name a reference. -/
def share (name : String) (doc : SubqueryDoc) (selector : Selector) : LowerM Subquery := do
  let state ← get
  let reference : Subquery :=
    { node := state.nested.length, columns := doc.columns, aliasName := nonEmpty doc.aliasName }
  set { state with
        built := state.built.insert name reference, nested := state.nested ++ [selector] }
  pure reference

/-- The reference that a name stands for. `unvisited` holds the named statements that are not being
lowered on the way here; a name of `docs` that is not among them leads back to itself. -/
def lookUp (db : Db) (docs unvisited : KeyMap SubqueryDoc) (name : String) : LowerM Subquery := do
  match (← get).built.get? name with
  | some reference => pure reference
  | none =>
    match _e : unvisited.get? name with
    | some doc =>
      let selector ← statement (lookUp db docs (unvisited.erase name)) db doc.statement
      share name doc selector
    | none => throw (if docs.contains name then .subqueryCycle name else .unknownSubquery name)
termination_by unvisited.size
decreasing_by exact KeyMap.size_erase_lt _e

end LowerM

/-! ## 4. Documents -/

namespace QueryDocument

/-- The statement of a document, built against `db`, and the statements nested in it. -/
def lower (q : QueryDocument) (db : Db) : Except DocumentError (Selector × List Selector) := do
  let (selector, state) ←
    (LowerM.statement (LowerM.lookUp db q.subqueries q.subqueries) db q.statement).run {}
  pure (selector, state.nested)

/-- The query of a document in a dialect, about the entities of a registry. -/
def render (q : QueryDocument) (registry : Registry) (dialect : Dialect) :
    Except DocumentError Query := do
  let (selector, nested) ← q.lower { registry := 0, dialect }
  match (selector.build (.ofList .inCells resolve nested)).run.run (.ofRegistry registry) with
  | (.ok query, _) => pure query
  | (.error e, _) => throw (.build e)

end QueryDocument

end SqlSelect
