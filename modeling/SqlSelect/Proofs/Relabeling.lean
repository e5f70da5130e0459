import SqlSelect.Proofs.Likeness
/-!
# Statements under other labels

A statement is full of labels: names of fields, entities with the descriptions that they bring along,
aliases. A relabeling replaces them place by place and keeps everything else: operators, values, raw
SQL, which nested statements are referred to, and the order of it all. Whether the relabeled statement
is built to the same depends on very little, and that is what is collected here.

* `Relabeling`, `Selector.relabel` -- other labels, and a statement under them;
* `Likeness.Keeps` -- what a relabeling has to keep: the column of every field, the table of every
  description, and every alias that is written;
* `Likeness.match_relabel` -- then a relabeled statement asks for the like at every place;
* `Likeness.build` -- and it is built among relabeled ones as it was before.
-/

namespace SqlSelect

/-! ## 1. Other labels -/

/-- Other labels for statements. Aliases are told apart by where they stand, for not all of them are
written. -/
structure Relabeling where
  field : String → String := id
  entity : EntityKey → EntityKey := id
  /-- What becomes of the description of an entity. -/
  metadata : EntityMetadata → EntityMetadata := id
  /-- Aliases of tables and of nested statements. -/
  sourceAlias : Option String → Option String := id
  /-- Aliases of columns and aggregates in a `SELECT` list. -/
  shownAlias : Option String → Option String := id
  /-- Aliases of columns and aggregates everywhere else. -/
  idleAlias : Option String → Option String := id

section Relabel

variable (l : Relabeling)

/-- A table under other labels. -/
def Table.relabel (t : Table) : Table :=
  { entity := l.entity t.entity, aliasName := l.sourceAlias t.aliasName }

/-- A reference to the same nested statement under other labels. -/
def Subquery.relabel (s : Subquery) : Subquery :=
  { node := s.node, columns := s.columns.map l.field, aliasName := l.sourceAlias s.aliasName }

/-- A source of columns under other labels. -/
def TableRef.relabel : TableRef → TableRef
  | .table t => .table (t.relabel l)
  | .subquery s => .subquery (s.relabel l)

/-- A column under other labels, with what its place does to its alias. -/
def Column.relabel (place : Option String → Option String) (c : Column) : Column :=
  { name := l.field c.name, table := c.table.map (TableRef.relabel l), aliasName := place c.aliasName }

/-- An aggregate under other labels, with what its place does to its alias. -/
def Aggregate.relabel (place : Option String → Option String) (a : Aggregate) : Aggregate :=
  { function := a.function, field := l.field a.field, table := a.table.map (TableRef.relabel l),
    aliasName := place a.aliasName }

/-- An expression under other labels. -/
def Expr.relabel : Expr → Expr
  | .column c => .column (c.relabel l l.idleAlias)
  | .value v => .value v
  | .raw r => .raw r
  | .aggregate a => .aggregate (a.relabel l l.idleAlias)
  | .subquery s => .subquery (s.relabel l)
  | .keyword k => .keyword { k with subquery := k.subquery.relabel l }
  | .unary kind op x => .unary kind op x.relabel
  | .binary kind op x y => .binary kind op x.relabel y.relabel

/-- An item of the `SELECT` list under other labels. -/
def Selectable.relabel : Selectable → Selectable
  | .column c => .column (c.relabel l l.shownAlias)
  | .aggregate a => .aggregate (a.relabel l l.shownAlias)
  | .raw r => .raw r

/-- The source of the rows under other labels. -/
def Source.relabel : Source → Source
  | .entity => .entity
  | .verbatim text => .verbatim text
  | .reference t => .reference (t.relabel l)

/-- A column to order by under other labels. -/
def OrderBy.relabel (o : OrderBy) : OrderBy := { o with column := o.column.relabel l l.idleAlias }

/-- **A statement under other labels.** -/
def Selector.relabel (s : Selector) : Selector :=
  { s with
    entity := s.entity.map l.entity
    columns := s.columns.map (Selectable.relabel l)
    source := s.source.relabel l
    filters := s.filters.map (Expr.relabel l)
    groupBy := s.groupBy.map (Column.relabel l l.idleAlias)
    having := s.having.map (Expr.relabel l)
    orderBy := s.orderBy.map (OrderBy.relabel l) }

end Relabel

/-! ## 2. What has to be kept -/

namespace Likeness

variable {m : Type → Type} [Monad m] [MonadExcept BuildError m] (R : Likeness m m) (l : Relabeling)

/-- **What a relabeling has to keep.** Different fields stay different, a field keeps its column, and
where it has none the two errors are alike; a description keeps its table; and of the aliases those
that are written stay, and no other is written. -/
structure Keeps : Prop where
  injective : Function.Injective l.field
  column : ∀ d field, (l.metadata d).column? (l.field field) = d.column? field
  unknown : ∀ field, R.Holds id (throw (.unknownField field) : m String)
    (throw (.unknownField (l.field field)))
  tableName : ∀ d, (l.metadata d).tableName = d.tableName
  sourceAlias : ∀ aliasName, nonEmpty (l.sourceAlias aliasName) = nonEmpty aliasName
  shownAlias : ∀ aliasName, nonEmpty (l.shownAlias aliasName) = nonEmpty aliasName

/-- What two builds are given is alike part by part, the descriptions up to the relabeling. -/
structure Inners (i i' : Inner m) : Prop where
  size : i'.size = i.size
  describe : ∀ n key, R.Holds l.metadata (i.describe n key) (i'.describe n (l.entity key))
  query : ∀ n, R.Holds id (i.query n) (i'.query n)
  metadata : ∀ n, R.Holds l.metadata (i.metadata n) (i'.metadata n)

variable {R l}

/-! ## 3. The places of one statement -/

section Places

variable {registry : Nat} {primary : EntityMetadata} {i i' : Inner m} (keeps : R.Keeps l)
  (hi : R.Inners l i i')

include keeps

theorem qualifier?_relabel (table : Option TableRef) :
    (table.map (TableRef.relabel l)).bind TableRef.qualifier? = table.bind TableRef.qualifier? := by
  match table with
  | none => rfl
  | some (.table t) => exact keeps.sourceAlias t.aliasName
  | some (.subquery s) => exact keeps.sourceAlias s.aliasName

theorem shows_relabel (s : Subquery) (field : String) :
    (s.relabel l).shows (l.field field) = s.shows field := by
  have listed : (s.columns.map l.field).contains (l.field field) = s.columns.contains field := by
    rw [Bool.eq_iff_iff, List.contains_iff_mem, List.contains_iff_mem]
    exact List.mem_map_of_injective keeps.injective
  simp only [Subquery.shows, Subquery.relabel, List.isEmpty_map, listed]

theorem require (d : EntityMetadata) (field : String) :
    R.Holds id (Scope.require d field) (Scope.require (l.metadata d) (l.field field)) := by
  simp only [Scope.require, keeps.column]
  split
  · exact R.ofPure id _
  · exact keeps.unknown field

include hi

theorem columnName (field : String) (table : Option TableRef) :
    R.Holds id (Scope.columnName { registry, primary, inner := i } field table)
      (Scope.columnName { registry, primary := l.metadata primary, inner := i' } (l.field field)
        (table.map (TableRef.relabel l))) := by
  match table with
  | none => exact require keeps primary field
  | some (.table t) => exact R.ofBind (hi.describe registry t.entity) fun d => require keeps d field
  | some (.subquery s) =>
    simp only [Scope.columnName, Option.map_some, TableRef.relabel, shows_relabel keeps]
    split
    · exact R.ofBind (hi.metadata s.node) fun d => require keeps d field
    · exact keeps.unknown field

theorem matchField (table : Option TableRef) (name : String) :
    R.MatchField { registry, primary, inner := i }
      { registry, primary := l.metadata primary, inner := i' }
      table name (table.map (TableRef.relabel l)) (l.field name) :=
  ⟨columnName keeps hi name table, qualifier?_relabel keeps table⟩

theorem matchExpr (x : Expr) :
    R.MatchExpr {} { registry, primary, inner := i }
      { registry, primary := l.metadata primary, inner := i' } x (x.relabel l) := by
  induction x with
  | column c => exact .column (matchField keeps hi c.table c.name)
  | value v => exact .value v
  | raw r => exact .raw rfl
  | aggregate a => exact .aggregate ⟨rfl, matchField keeps hi a.table a.field⟩
  | subquery s => exact .subquery (hi.query s.node)
  | keyword k => exact .keyword rfl (hi.query k.subquery.node)
  | unary kind op x ih => exact .unary ih
  | binary kind op x y ihx ihy => exact .binary ihx ihy

theorem matchSelectable (item : Selectable) :
    R.MatchSelectable {} { registry, primary, inner := i }
      { registry, primary := l.metadata primary, inner := i' } item (item.relabel l) := by
  cases item with
  | column c => exact .column (matchField keeps hi c.table c.name) (keeps.shownAlias c.aliasName)
  | aggregate a =>
    exact .aggregate ⟨rfl, matchField keeps hi a.table a.field⟩ (keeps.shownAlias a.aliasName)
  | raw r => exact .raw rfl

theorem matchSource (source : Source) :
    R.MatchSource {} { registry, primary, inner := i }
      { registry, primary := l.metadata primary, inner := i' } source (source.relabel l) := by
  match source with
  | .entity => exact .entity (keeps.tableName primary)
  | .verbatim text => exact .verbatim text
  | .reference (.table t) =>
    exact .table l.metadata (hi.describe registry t.entity) keeps.tableName
      (keeps.sourceAlias t.aliasName)
  | .reference (.subquery s) => exact .subquery (hi.query s.node) (keeps.sourceAlias s.aliasName)

/-- **A relabeled statement asks for the like at every place.** -/
theorem match_relabel (s : Selector) :
    R.Match {} { registry, primary, inner := i }
      { registry, primary := l.metadata primary, inner := i' } s (s.relabel l) where
  columns := forall₂_map fun item _ => matchSelectable keeps hi item
  source := matchSource keeps hi s.source
  filters := forall₂_map fun x _ => matchExpr keeps hi x
  groupBy := forall₂_map fun c _ => matchField keeps hi c.table c.name
  having := forall₂_map fun x _ => matchExpr keeps hi x
  orderBy := forall₂_map fun o _ => ⟨matchField keeps hi o.column.table o.column.name, rfl⟩
  limit := congrFun Retouch.tokens_eq_id _
  offset := congrFun Retouch.tokens_eq_id _

end Places

/-! ## 4. Statements -/

section Statements

variable {i i' : Inner m} (keeps : R.Keeps l) (hi : R.Inners l i i')

theorem ofEntity {describe describe' : Nat → EntityKey → m EntityMetadata}
    (hd : ∀ n key, R.Holds l.metadata (describe n key) (describe' n (l.entity key)))
    (s : Selector) :
    R.Holds l.metadata (s.metadata describe) ((s.relabel l).metadata describe') := by
  simp only [Selector.metadata, Selector.relabel]
  cases s.entity with
  | none => exact R.ofThrow _ _ nofun
  | some key => exact hd s.db.registry key

include keeps hi

theorem compile_relabel (s : Selector) : R.Holds id (s.compile i) ((s.relabel l).compile i') := by
  have compiled := Likeness.compile (ofEntity hi.describe s) fun _ => match_relabel keeps hi s
  rwa [Retouch.tokens_eq_id] at compiled

theorem buildNested (s : Selector) :
    R.Holds id (s.buildNested i) ((s.relabel l).buildNested i') :=
  R.ofBind (R.ofBind (compile_relabel keeps hi s) fun _ => R.ofPure id _) fun _ => R.ofPure id _

/-- One more nested statement on both sides. -/
theorem push {keeping : Keeping m} (hk : ∀ n x y, R.Holds id x y →
      R.Holds id (keeping n x) (keeping n y)) (s : Selector) :
    R.Inners l (i.push keeping s) (i'.push keeping (s.relabel l)) where
  size := congrArg (· + 1) hi.size
  describe := hi.describe
  query n := by
    simp only [Inner.push, hi.size]
    split
    · exact hk _ _ _ (buildNested keeps hi s)
    · exact hi.query n
  metadata n := by
    simp only [Inner.push, hi.size]
    split
    · exact ofEntity hi.describe s
    · exact hi.metadata n

omit hi

variable {keeping : Keeping m} (hk : ∀ n x y, R.Holds id x y → R.Holds id (keeping n x) (keeping n y))
  {describe describe' : Nat → EntityKey → m EntityMetadata}
  (hd : ∀ n key, R.Holds l.metadata (describe n key) (describe' n (l.entity key)))

include hk hd

theorem ofList (nested : List Selector) :
    R.Inners l (.ofList keeping describe nested)
      (.ofList keeping describe' (nested.map (Selector.relabel l))) := by
  suffices run : ∀ i i' : Inner m, R.Inners l i i' →
      R.Inners l (nested.foldl (Inner.push keeping) i)
        ((nested.map (Selector.relabel l)).foldl (Inner.push keeping) i') from
    run _ _ ⟨rfl, hd, fun _ => R.ofThrow _ _ nofun, fun _ => R.ofThrow _ _ nofun⟩
  induction nested with
  | nil => exact fun _ _ hi => hi
  | cons s rest ih => exact fun _ _ hi => ih _ _ (push keeps hi hk s)

/-- **A relabeled statement is built among relabeled ones as it was before**, if descriptions and what
is kept of nested statements are alike. -/
theorem build (nested : List Selector) (s : Selector) :
    R.Holds id (s.build (.ofList keeping describe nested))
      ((s.relabel l).build (.ofList keeping describe' (nested.map (Selector.relabel l)))) :=
  R.ofBind (compile_relabel keeps (ofList keeps hk hd nested) s) fun _ => R.ofPure id _

end Statements

end Likeness

end SqlSelect
