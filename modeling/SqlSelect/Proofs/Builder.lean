import SqlSelect.Selector
/-!
# What the builder makes

A statement can be put together in many ways, but not every tree is one that the builder makes: its
nodes are of the kind that fits their operator, its aggregates and keywords are the ones there are
functions for, and empty aliases of tables and nested statements are no aliases. Here the calls of
the builder are said as rules, one for each call, for statements over named entities.

* `Draft`, `Available` -- statements that were made into nested ones, and the references to them;
* `Expr.Made`, `Selector.Made` -- what the calls make, given the references that are at hand;
* `Drafts.Made` -- a history of nested statements, each made with references to those before it;
* `Selector.Parts`, `Selector.Made.parts` -- what such a statement consists of, clause by clause.
-/

namespace SqlSelect

/-! ## 1. Nested statements -/

/-- A statement that is made into a nested one, the number it gets, and what its references share. -/
structure Draft where
  number : Nat
  selector : Selector
  columns : List String := []
  aliasName : Option String := none

/-- The reference to a nested statement; an empty alias is none. -/
def Draft.reference (d : Draft) : Subquery :=
  { node := d.number, columns := d.columns, aliasName := nonEmpty d.aliasName }

/-- The references to the nested statements of a list. -/
def Available (drafts : List Draft) (r : Subquery) : Prop := ∃ d ∈ drafts, r = d.reference

/-! ## 2. The parts of a statement -/

/-- The tables of named entities. -/
inductive Table.Made : Table → Prop
  | named (entity : String) : Made { entity := .named entity }
  | withAlias {t : Table} (h : t.Made) (aliasName : String) : Made (t.withAlias aliasName)

section Made

variable (available : Subquery → Prop)

/-- The sources of columns. -/
inductive TableRef.Made : TableRef → Prop
  | table {t : Table} (h : t.Made) : Made (.table t)
  | subquery {s : Subquery} (h : available s) : Made (.subquery s)

/-- The columns. -/
inductive Column.Made : Column → Prop
  | named (name : String) : Made { name }
  | of {c : Column} {t : TableRef} (h : Made c) (ht : t.Made available) : Made (c.of t)
  | withAlias {c : Column} (h : Made c) (aliasName : String) : Made (c.withAlias aliasName)

/-- The aggregates. -/
inductive Aggregate.Made : Aggregate → Prop
  | avg (field : String) : Made (.avg field)
  | sum (field : String) : Made (.sum field)
  | count (field : String) : Made (.count field)
  | min (field : String) : Made (.min field)
  | max (field : String) : Made (.max field)
  | of {a : Aggregate} {t : TableRef} (h : Made a) (ht : t.Made available) : Made (a.of t)
  | withAlias {a : Aggregate} (h : Made a) (aliasName : String) : Made (a.withAlias aliasName)

/-- The keywords before nested statements. -/
inductive KeywordSubquery.Made : KeywordSubquery → Prop
  | exist {s : Subquery} (h : available s) : Made (.exist s)
  | notExist {s : Subquery} (h : available s) : Made (.notExist s)
  | any {s : Subquery} (h : available s) : Made (.any s)
  | all {s : Subquery} (h : available s) : Made (.all s)
  | some {s : Subquery} (h : available s) : Made (.some s)

/-- The expressions. Every operator method makes a node that `Expr.apply` or `Expr.combine` makes. -/
inductive Expr.Made : Expr → Prop
  | column {c : Column} (h : c.Made available) : Made (.column c)
  | value (v : Value) : Made (.value v)
  | raw (r : RawSql) : Made (.raw r)
  | aggregate {a : Aggregate} (h : a.Made available) : Made (.aggregate a)
  | subquery {s : Subquery} (h : available s) : Made (.subquery s)
  | keyword {k : KeywordSubquery} (h : k.Made available) : Made (.keyword k)
  | apply (op : Operator) {x : Expr} (h : Made x) : Made (.apply op x)
  | combine (op : Operator) {x y : Expr} (hx : Made x) (hy : Made y) : Made (.combine op x y)

/-- The items of a `SELECT` list. -/
inductive Selectable.Made : Selectable → Prop
  | column {c : Column} (h : c.Made available) : Made (.column c)
  | aggregate {a : Aggregate} (h : a.Made available) : Made (.aggregate a)
  | raw (r : RawSql) : Made (.raw r)

/-! ## 3. Statements -/

/-- The statements against `db`, call by call. -/
inductive Selector.Made (db : Db) : Selector → Prop
  | new (entity : Option String) : Made db { db, entity := entity.map .named }
  | select {s : Selector} (h : Made db s) {items : List Selectable}
    (hi : ∀ i ∈ items, i.Made available) : Made db (s.select items)
  | addColumn {s : Selector} (h : Made db s) {item : Selectable} (hi : item.Made available) :
    Made db (s.addColumn item)
  | fromText {s : Selector} (h : Made db s) (text : String) : Made db (s.fromText text)
  | fromTable {s : Selector} (h : Made db s) {t : TableRef} (ht : t.Made available) :
    Made db (s.fromTable t)
  | filter {s : Selector} (h : Made db s) {x : Expr} (hx : x.Made available) : Made db (s.filter x)
  | whereAll {s : Selector} (h : Made db s) {xs : List Expr} (hx : ∀ x ∈ xs, x.Made available) :
    Made db (s.whereAll xs)
  | addGroupBy {s : Selector} (h : Made db s) {cs : List Column} (hc : ∀ c ∈ cs, c.Made available) :
    Made db (s.addGroupBy cs)
  | addHaving {s : Selector} (h : Made db s) {x : Expr} (hx : x.Made available) :
    Made db (s.addHaving x)
  | havingAll {s : Selector} (h : Made db s) {xs : List Expr} (hx : ∀ x ∈ xs, x.Made available) :
    Made db (s.havingAll xs)
  | addOrderBy {s : Selector} (h : Made db s) {os : List OrderBy}
    (ho : ∀ o ∈ os, o.column.Made available) : Made db (s.addOrderBy os)
  | withLimit {s : Selector} (h : Made db s) (n : Int64) : Made db (s.withLimit n)
  | withOffset {s : Selector} (h : Made db s) (n : Int64) : Made db (s.withOffset n)

end Made

/-- Nested statements against one `db`, each made with references to those before it, and with a
greater number. -/
inductive Drafts.Made (db : Db) : List Draft → Prop
  | nil : Made db []
  | nest {drafts : List Draft} (h : Made db drafts) {d : Draft}
    (hd : d.selector.Made (Available drafts) db) (later : ∀ e ∈ drafts, e.number < d.number) :
    Made db (drafts ++ [d])

/-! ## 4. Clause by clause -/

variable {available : Subquery → Prop} {db : Db}

/-- The sources of rows that the calls leave. -/
inductive Source.Made (available : Subquery → Prop) : Source → Prop
  | entity : Made available .entity
  | verbatim {text : String} (h : text ≠ "") : Made available (.verbatim text)
  | reference {t : TableRef} (h : t.Made available) : Made available (.reference t)

/-- What a statement that was made consists of. -/
structure Selector.Parts (available : Subquery → Prop) (db : Db) (s : Selector) : Prop where
  db : s.db = db
  entity : ∃ name, s.entity = Option.map .named name
  columns : ∀ i ∈ s.columns, i.Made available
  source : s.source.Made available
  filters : ∀ x ∈ s.filters, x.Made available
  groupBy : ∀ c ∈ s.groupBy, c.Made available
  having : ∀ x ∈ s.having, x.Made available
  orderBy : ∀ o ∈ s.orderBy, o.column.Made available

/-- **Each call adds to one clause** what was made before. -/
theorem Selector.Made.parts {s : Selector} (h : s.Made available db) : s.Parts available db := by
  induction h with
  | new entity =>
    exact ⟨rfl, ⟨entity, rfl⟩, by simp, .entity, by simp, by simp, by simp, by simp⟩
  | select h hi ih => exact { ih with columns := hi }
  | addColumn h hi ih =>
    exact { ih with columns := List.forall_mem_append.2 ⟨ih.columns, List.forall_mem_singleton.2 hi⟩ }
  | fromText h text ih =>
    refine { ih with source := ?_ }
    unfold Selector.fromText
    dsimp only
    split
    · exact .entity
    · next ne => exact .verbatim ne
  | fromTable h ht ih => exact { ih with source := .reference ht }
  | filter h hx ih =>
    exact { ih with filters := List.forall_mem_append.2 ⟨ih.filters, List.forall_mem_singleton.2 hx⟩ }
  | whereAll h hx ih => exact { ih with filters := List.forall_mem_append.2 ⟨ih.filters, hx⟩ }
  | addGroupBy h hc ih => exact { ih with groupBy := List.forall_mem_append.2 ⟨ih.groupBy, hc⟩ }
  | addHaving h hx ih =>
    exact { ih with having := List.forall_mem_append.2 ⟨ih.having, List.forall_mem_singleton.2 hx⟩ }
  | havingAll h hx ih => exact { ih with having := List.forall_mem_append.2 ⟨ih.having, hx⟩ }
  | addOrderBy h ho ih => exact { ih with orderBy := List.forall_mem_append.2 ⟨ih.orderBy, ho⟩ }
  | withLimit h n ih => exact { ih with }
  | withOffset h n ih => exact { ih with }

end SqlSelect
