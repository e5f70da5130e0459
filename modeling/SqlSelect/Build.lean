import SqlSelect.Selector
import SqlSelect.Token
/-!
# Building statements

A statement is compiled to tokens in the order of its clauses, and the tokens are rendered in the
statement's dialect. Two things happen on the way that outlive the build, even one that fails:
entity types are taken up into registries, and nested statements are kept in their cells once they
have been built. Both are part of the `Store` that a build reads and changes.

Nested statements are numbered, and a statement sees only those with smaller numbers. A reference
to any other number is a reference to a statement without an entity. So the compiler of one
statement (`Selector.compile`) is given the nested ones as an `Inner`, and `Inner.push` adds one
statement at a time; no build can run into itself.

The compiler itself is written for any monad that has these errors. A session runs it in `BuildM`,
over a store; run in `Except BuildError` it builds against registries that never change and keeps
nothing.
-/

namespace SqlSelect

/-! ## 1. What a build changes -/

/-- What outlives a build. -/
structure Store where
  /-- The registries by their number. -/
  registries : Nat → Registry
  /-- What nested statements were built to, by their number. -/
  cells : Nat → Option Query
  /-- The nested statements whose build was begun, the latest first. -/
  begun : List Nat

namespace Store

/-- The store with one registry for every number and no nested statement built. -/
def ofRegistry (r : Registry) : Store :=
  { registries := fun _ => r, cells := fun _ => none, begun := [] }

/-- A function changed in one place. -/
def update {α : Type} (f : Nat → α) (n : Nat) (a : α) : Nat → α := fun m => if m = n then a else f m

@[simp] theorem update_self {α : Type} (f : Nat → α) (n : Nat) (a : α) : update f n a n = a := by
  simp [update]

theorem update_of_ne {α : Type} (f : Nat → α) {n m : Nat} (a : α) (h : m ≠ n) :
    update f n a m = f m := by
  simp [update, h]

/-- The store with another registry under a number. -/
def setRegistry (s : Store) (n : Nat) (r : Registry) : Store :=
  { s with registries := update s.registries n r }

/-- The store with a filled cell. -/
def fill (s : Store) (n : Nat) (q : Query) : Store := { s with cells := update s.cells n (some q) }

/-- The store after the build of a nested statement has begun. -/
def note (s : Store) (n : Nat) : Store := { s with begun := n :: s.begun }

end Store

/-- A build: it reads and changes the store, and what it changed stays when it fails. -/
abbrev BuildM := ExceptT BuildError (StateM Store)

/-- The description that a key stands for in a registry. -/
def resolve (registry : Nat) (key : EntityKey) : BuildM EntityMetadata := do
  let store ← get
  let (result, r) := (store.registries registry).resolve key
  set (store.setRegistry registry r)
  liftExcept result
where
  /-- The outcome of a step that changes nothing. -/
  liftExcept {α : Type} : Except BuildError α → BuildM α
    | .ok a => pure a
    | .error e => throw e

/-! ## 2. The parts of one statement -/

variable {m : Type → Type} [Monad m] [MonadExcept BuildError m]

/-- What a statement is compiled against: the descriptions that keys stand for, by registry, and the
nested statements that it may refer to. Of each of these it is known what it is built to, without
the final semicolon, and how its entity is described. -/
structure Inner (m : Type → Type) where
  describe : Nat → EntityKey → m EntityMetadata
  /-- The number of nested statements. -/
  size : Nat
  query : Nat → m Query
  metadata : Nat → m EntityMetadata

/-- No nested statement: every reference is one to a statement without an entity. -/
def Inner.empty (describe : Nat → EntityKey → m EntityMetadata) : Inner m :=
  { describe, size := 0, query := fun _ => throw .nilEntity, metadata := fun _ => throw .nilEntity }

/-- What the parts of one statement are compiled in. -/
structure Scope (m : Type → Type) where
  /-- The number of the statement's registry. -/
  registry : Nat
  /-- The description of the statement's own entity. -/
  primary : EntityMetadata
  inner : Inner m

/-- The nested statement lets a field be referred to from outside. -/
def Subquery.shows (s : Subquery) (field : String) : Bool :=
  s.columns.isEmpty || s.columns.contains field

namespace Scope

/-- The column of a field that a description must have. -/
def require (d : EntityMetadata) (field : String) : m String :=
  match d.column? field with
  | some column => pure column
  | none => throw (.unknownField field)

/-- The physical column of a field. A nested statement shows only its listed columns, if it lists
any. -/
def columnName (sc : Scope m) (field : String) : Option TableRef → m String
  | none => require sc.primary field
  | some (.table t) => do require (← sc.inner.describe sc.registry t.entity) field
  | some (.subquery s) =>
    if s.shows field then do require (← sc.inner.metadata s.node) field
    else throw (.unknownField field)

/-- A field with its qualifier. -/
def field (sc : Scope m) (table : Option TableRef) (name : String) : m (List Token) := do
  let column ← sc.columnName name table
  match table.bind TableRef.qualifier? with
  | some qualifier => pure [.ident qualifier, .dot, .ident column]
  | none => pure [.ident column]

/-- An aggregate without its alias. -/
def aggregate (sc : Scope m) (a : Aggregate) : m (List Token) := do
  pure ([.function a.function, .openParen] ++ (← sc.field a.table a.field) ++ [.closeParen])

/-- A nested statement in parentheses. -/
def subquery (sc : Scope m) (s : Subquery) : m (List Token) := do
  pure [.openParen, .fragment (← sc.inner.query s.node), .closeParen]

/-- An alias, if it is not empty. -/
def aliased (aliasName : Option String) : List Token :=
  match nonEmpty aliasName with
  | some name => [.space, .as, .space, .ident name]
  | none => []

/-! ## 3. Expressions -/

/-- The error of an operator in a node of the wrong kind. -/
def misplaced (op : Operator) (kind : NodeKind) : BuildError :=
  .unsupportedExpression ("operator '" ++ op.key ++ "' in " ++ kind.name ++ " node")

/-- The error of a missing second operand. -/
def incomplete (op : Operator) : BuildError :=
  .unsupportedExpression ("operator '" ++ op.key ++ "' without right operand")

/-- The error of a second operand too many. -/
def overfull (op : Operator) : BuildError :=
  .unsupportedExpression ("unary operator '" ++ op.key ++ "' with right operand")

/-- The operator fits the kind of its node and takes one operand. -/
def admitUnary (kind : NodeKind) (op : Operator) : m Unit :=
  if op.nodeKind ≠ kind then throw (misplaced op kind)
  else if op.isUnary then pure ()
  else throw (incomplete op)

/-- The operator fits the kind of its node and takes two operands. -/
def admitBinary (kind : NodeKind) (op : Operator) : m Unit :=
  if op.nodeKind ≠ kind then throw (misplaced op kind)
  else if op.isUnary then throw (overfull op)
  else pure ()

/-- The expression is a node with an operator; as an operand it is put into parentheses. -/
def isNode : Expr → Bool
  | .unary .. | .binary .. => true
  | _ => false

/-- An operand, given the tokens of its expression. -/
def operand (x : Expr) (tokens : List Token) : List Token :=
  if isNode x then [.openParen] ++ tokens ++ [.closeParen] else tokens

/-- The tokens of an expression. -/
def expr (sc : Scope m) : Expr → m (List Token)
  | .column c => sc.field c.table c.name
  | .value v => pure [.param v]
  | .raw r => pure [.openParen, .fragment r.query, .closeParen]
  | .aggregate a => sc.aggregate a
  | .subquery s => sc.subquery s
  | .keyword k => do pure (.raw k.keyword :: (← sc.subquery k.subquery))
  | .unary kind op x => do
    admitUnary kind op
    let x' := operand x (← sc.expr x)
    pure (if op.isLeading then [.op op, .space] ++ x' else x' ++ [.space, .op op])
  | .binary kind op x y => do
    admitBinary kind op
    let x' := operand x (← sc.expr x)
    let y' := operand y (← sc.expr y)
    pure (x' ++ [.space, .op op, .space] ++ y')

/-! ## 4. Clauses -/

/-- Several parts with commas between them. -/
def separated {α : Type} (part : α → m (List Token)) : List α → m (List Token)
  | [] => pure []
  | [a] => part a
  | a :: rest => do
    let first ← part a
    pure (first ++ .comma :: (← separated part rest))

/-- A clause behind its keyword, nothing if it has no parts. -/
def clause {α : Type} (keyword : Token) (parts : List α) (body : List α → m (List Token)) :
    m (List Token) :=
  if parts.isEmpty then pure []
  else do pure ([.space, keyword, .space] ++ (← body parts))

/-- An item of the `SELECT` list. -/
def selectable (sc : Scope m) : Selectable → m (List Token)
  | .column c => do pure ((← sc.field c.table c.name) ++ aliased c.aliasName)
  | .aggregate a => do pure ((← sc.aggregate a) ++ aliased a.aliasName)
  | .raw r => pure [.fragment r.query]

/-- The `SELECT` list. -/
def selectList (sc : Scope m) (items : List Selectable) : m (List Token) :=
  if items.isEmpty then pure [.star] else separated sc.selectable items

/-- The source of the rows. A nested statement needs an alias here, and that is asked before the
statement is looked at. -/
def source (sc : Scope m) : Source → m (List Token)
  | .entity => pure [.ident sc.primary.tableName]
  | .verbatim text => pure [.raw text]
  | .reference (.table t) => do
    pure (.ident (← sc.inner.describe sc.registry t.entity).tableName :: aliased t.aliasName)
  | .reference (.subquery s) =>
    match nonEmpty s.aliasName with
    | none => throw .missingSubqueryAlias
    | some name => do pure ((← sc.subquery s) ++ aliased (some name))

/-- Conditions joined from the left by `AND`. -/
def conjunction : List Expr → Option Expr
  | [] => none
  | x :: rest => some (rest.foldl .and x)

/-- A map that keeps `AND` may be applied to the conditions or to what they are joined to. -/
theorem conjunction_map {f : Expr → Expr} (hf : ∀ x y, f (x.and y) = (f x).and (f y)) (xs : List Expr) :
    conjunction (xs.map f) = (conjunction xs).map f := by
  cases xs with
  | nil => rfl
  | cons x rest =>
    rw [List.map_cons, conjunction, conjunction, Option.map_some, List.foldl_map]
    exact congrArg some (List.foldl_hom f fun y z => (hf y z).symm)

/-- A clause of conditions. -/
def conditions (sc : Scope m) (xs : List Expr) : m (List Token) :=
  match conjunction xs with
  | some x => sc.expr x
  | none => pure []

/-- A column without its alias. -/
def column (sc : Scope m) (c : Column) : m (List Token) := sc.field c.table c.name

/-- A direction. -/
def direction : SortDir → Token
  | .asc => .asc
  | .desc => .desc

/-- A column to order by. -/
def ordering (sc : Scope m) (o : OrderBy) : m (List Token) := do
  pure ((← sc.column o.column) ++ [.space, direction o.dir])

/-- A number of rows, if it is positive. -/
def paging (keyword : Token) (n : Int64) : List Token :=
  if 0 < n then [.space, keyword, .space, .param (.int n)] else []

/-- The tokens of a statement in its scope. -/
def statement (sc : Scope m) (s : Selector) : m (List Token) := do
  let columns ← sc.selectList s.columns
  let source ← sc.source s.source
  let filters ← clause .where s.filters sc.conditions
  let groupBy ← clause .groupBy s.groupBy (separated sc.column)
  let having ← clause .having s.having sc.conditions
  let orderBy ← clause .orderBy s.orderBy (separated sc.ordering)
  pure ([.select, .space] ++ columns ++ [.space, .from, .space] ++ source ++ filters ++ groupBy
    ++ having ++ orderBy ++ paging .limit s.limit ++ paging .offset s.offset ++ [.semicolon])

end Scope

/-! ## 5. Statements -/

namespace Selector

/-- The description of the statement's entity. -/
def metadata (s : Selector) (describe : Nat → EntityKey → m EntityMetadata) : m EntityMetadata :=
  match s.entity with
  | none => throw .nilEntity
  | some key => describe s.db.registry key

/-- The tokens of a statement, given the nested ones. -/
def compile (s : Selector) (inner : Inner m) : m (List Token) := do
  let primary ← s.metadata inner.describe
  Scope.statement { registry := s.db.registry, primary, inner } s

/-- The query of a statement, given the nested ones. -/
def build (s : Selector) (inner : Inner m) : m Query := do
  pure (Token.render s.db.dialect (← s.compile inner))

/-- The query of a statement that is nested in another one: without the final semicolon. -/
def buildNested (s : Selector) (inner : Inner m) : m Query := do
  pure (← s.build inner).unterminated

end Selector

/-! ## 6. Nested statements -/

/-- How the result of a nested statement is kept, by the statement's number. -/
abbrev Keeping (m : Type → Type) := Nat → m Query → m Query

/-- Keeps the result in the statement's cell: a filled cell answers at once, and an empty one is
filled when the build succeeds. -/
def Keeping.inCells : Keeping BuildM := fun n build => do
  match (← get).cells n with
  | some q => pure q
  | none =>
    modify (·.note n)
    let q ← build
    modify (·.fill n q)
    pure q

/-- Keeps nothing: every reference builds anew. -/
def Keeping.never : Keeping m := fun _ build => build

/-- One more nested statement, which may refer to those before it. -/
def Inner.push (keeping : Keeping m) (inner : Inner m) (s : Selector) : Inner m :=
  let query := keeping inner.size (s.buildNested inner)
  { inner with
    size := inner.size + 1
    query := fun n => if n = inner.size then query else inner.query n
    metadata := fun n =>
      if n = inner.size then s.metadata inner.describe else inner.metadata n }

/-- The statements of a list, numbered in its order. -/
def Inner.ofList (keeping : Keeping m) (describe : Nat → EntityKey → m EntityMetadata)
    (nested : List Selector) : Inner m :=
  nested.foldl (Inner.push keeping) (.empty describe)

end SqlSelect
