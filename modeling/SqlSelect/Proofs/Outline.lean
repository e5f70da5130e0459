import SqlSelect.Proofs.Moments
/-!
# The outline of a statement

The outline is what is left of the text of a statement without its quoted names. It is the same for
all statements of one shape: the names of entities, fields, columns and aliases may be any others,
and only whether there is an alias counts.

* `Piece.names`, `Piece.outsides` -- the names in some pieces, and the text outside of them;
* `Selector.shape` -- a statement without its names;
* `outline` -- the outline of a statement, for which nothing at all need be described;
* `outsides_bodyOf` -- the text outside of the names is the outline of the shape, at all moments and
  for all descriptions of entities.
-/

namespace SqlSelect

/-! ## 1. Names and the text outside -/

namespace Piece

/-- The name that a piece puts between quotes. -/
def name? (p : Piece) : Option String :=
  match p.token with
  | .ident name => some name
  | _ => none

/-- The text of a piece if it is no name. -/
def outside (p : Piece) : List Char := if p.name?.isSome then [] else p.text

/-- The names in several pieces, in order. -/
def names (ps : List Piece) : List String := ps.filterMap name?

/-- The text of several pieces outside of the names. -/
def outsides (ps : List Piece) : List Char := ps.flatMap outside

theorem names_append (ps qs : List Piece) : names (ps ++ qs) = names ps ++ names qs :=
  List.filterMap_append

@[simp] theorem outsides_append (ps qs : List Piece) :
    outsides (ps ++ qs) = outsides ps ++ outsides qs :=
  List.flatMap_append

/-- The text of several tokens outside of the names. -/
theorem outsides_own (d : Dialect) (ts : List Token) :
    outsides (own d ts) = ts.flatMap fun t => outside { dialect := d, token := t } :=
  List.flatMap_map _ _ ts

/-- A token that is no name gives no name, and all of its text is outside. -/
theorem outside_of_not_ident (d : Dialect) {t : Token} (h : ∀ name, t ≠ .ident name) :
    names (own d [t]) = [] ∧ outsides (own d [t]) = (t.text d).toList := by
  have no_name : name? { dialect := d, token := t } = none := by
    unfold name?
    split
    · next name ht => exact absurd ht (h name)
    · rfl
  constructor
  · rw [names, own, List.map_singleton, List.filterMap_cons, no_name]
    rfl
  · rw [outsides_own, List.flatMap_singleton, outside, no_name]
    rfl

theorem outsides_own_cons {d : Dialect} {t : Token} {ts : List Token} (h : ∀ name, t ≠ .ident name) :
    outsides (own d (t :: ts)) = (t.text d).toList ++ outsides (own d ts) := by
  rw [← (outside_of_not_ident d h).2, ← outsides_append]
  rfl

/-- The semicolon is outside of the names. -/
theorem outsides_semicolon (d : Dialect) : outsides (own d [.semicolon]) = [';'] := by
  rw [(outside_of_not_ident d fun _ h => by cases h).2]
  simp [Token.text]

end Piece

/-! ## 2. Shapes -/

/-- An alias, if it is not empty, without its name. -/
def aliasShape (aliasName : Option String) : Option String := (nonEmpty aliasName).map fun _ => "_"

/-- A table without its names. -/
def Table.shape (t : Table) : Table := { entity := .named "", aliasName := aliasShape t.aliasName }

/-- A reference to a nested statement without its names. -/
def Subquery.shape (s : Subquery) : Subquery :=
  { node := s.node, columns := [], aliasName := aliasShape s.aliasName }

/-- A source of columns without its names. -/
def TableRef.shape : TableRef → TableRef
  | .table t => .table t.shape
  | .subquery s => .subquery s.shape

/-- A field without its names. -/
def Column.shape (c : Column) : Column :=
  { name := "", table := c.table.map TableRef.shape, aliasName := aliasShape c.aliasName }

/-- An aggregate without its names but for the function. -/
def Aggregate.shape (a : Aggregate) : Aggregate :=
  { function := a.function, field := "", table := a.table.map TableRef.shape,
    aliasName := aliasShape a.aliasName }

/-- An expression without its names. -/
def Expr.shape : Expr → Expr
  | .column c => .column c.shape
  | .value v => .value v
  | .raw r => .raw r
  | .aggregate a => .aggregate a.shape
  | .subquery s => .subquery s.shape
  | .keyword k => .keyword { keyword := k.keyword, subquery := k.subquery.shape }
  | .unary kind op x => .unary kind op x.shape
  | .binary kind op x y => .binary kind op x.shape y.shape

/-- An item of the `SELECT` list without its names. -/
def Selectable.shape : Selectable → Selectable
  | .column c => .column c.shape
  | .aggregate a => .aggregate a.shape
  | .raw r => .raw r

/-- The source of the rows without its names. -/
def Source.shape : Source → Source
  | .entity => .entity
  | .verbatim text => .verbatim text
  | .reference table => .reference table.shape

/-- A column to order by without its names. -/
def OrderBy.shape (o : OrderBy) : OrderBy := { column := o.column.shape, dir := o.dir }

/-- **A statement without its names**: no entity, registry, field, column or alias is left, only which
clauses, operators, functions, keywords, values and nested statements there are. -/
def Selector.shape (s : Selector) : Selector where
  db := { registry := 0, dialect := s.db.dialect }
  entity := none
  columns := s.columns.map Selectable.shape
  source := s.source.shape
  filters := s.filters.map Expr.shape
  groupBy := s.groupBy.map Column.shape
  having := s.having.map Expr.shape
  orderBy := s.orderBy.map OrderBy.shape
  limit := s.limit
  offset := s.offset

/-- **The outline of a statement**: the text of its wording outside of the names, while no entity is
described. -/
def outline (nested : List Selector) (s : Selector) : List Char :=
  Piece.outsides (wordingOf (fun _ => none) (fun _ _ => .error .nilEntity) nested s)

/-! ## 3. Statements of one shape have one outline -/

section Shape

open Piece (own outsides)

theorem nonEmpty_aliasShape (aliasName : Option String) :
    nonEmpty (aliasShape aliasName) = (nonEmpty aliasName).map fun _ => "_" := by
  unfold aliasShape
  cases nonEmpty aliasName <;> rfl

theorem isSome_qualifier_shape (table : Option TableRef) :
    ((table.map TableRef.shape).bind TableRef.qualifier?).isSome
      = (table.bind TableRef.qualifier?).isSome := by
  match table with
  | none => rfl
  | some (.table t) =>
    simp [TableRef.shape, TableRef.qualifier?, Table.shape, nonEmpty_aliasShape]
  | some (.subquery s) =>
    simp [TableRef.shape, TableRef.qualifier?, Subquery.shape, nonEmpty_aliasShape]

section Tokens

variable (d : Dialect) (lk lk' : Lookup)

/-- Outside of the names a field has at most a dot. -/
theorem outsides_field (table : Option TableRef) (name : String) :
    outsides (own d (Wording.field lk table name))
      = if (table.bind TableRef.qualifier?).isSome then ['.'] else [] := by
  unfold Wording.field
  cases table.bind TableRef.qualifier? <;> cases lk.column? name table <;>
    simp [outsides, own, Piece.outside, Piece.name?, Piece.text, Token.text]

theorem outsides_column (c : Column) :
    outsides (own d (Wording.column lk' c.shape)) = outsides (own d (Wording.column lk c)) := by
  rw [Wording.column, Wording.column, outsides_field, outsides_field, Column.shape,
    isSome_qualifier_shape]

theorem outsides_aliased (aliasName : Option String) :
    outsides (own d (Scope.aliased (aliasShape aliasName)))
      = outsides (own d (Scope.aliased aliasName)) := by
  unfold Scope.aliased
  rw [nonEmpty_aliasShape]
  cases nonEmpty aliasName <;> rfl

theorem outsides_aggregate (a : Aggregate) :
    outsides (own d (Wording.aggregate lk' a.shape))
      = outsides (own d (Wording.aggregate lk a)) := by
  simp only [Wording.aggregate, Aggregate.shape, Piece.own_append, Piece.outsides_append,
    outsides_field, isSome_qualifier_shape]

theorem outsides_selectable (item : Selectable) :
    outsides (own d (Wording.selectable lk' item.shape))
      = outsides (own d (Wording.selectable lk item)) := by
  cases item with
  | column c =>
    have column : outsides (own d (Wording.field lk' c.shape.table c.shape.name))
        = outsides (own d (Wording.field lk c.table c.name)) := outsides_column d lk lk' c
    have aliased : outsides (own d (Scope.aliased c.shape.aliasName))
        = outsides (own d (Scope.aliased c.aliasName)) := outsides_aliased d c.aliasName
    simp only [Selectable.shape, Wording.selectable, Piece.own_append, Piece.outsides_append,
      column, aliased]
  | aggregate a =>
    have aggregate := outsides_aggregate d lk lk' a
    have aliased : outsides (own d (Scope.aliased a.shape.aliasName))
        = outsides (own d (Scope.aliased a.aliasName)) := outsides_aliased d a.aliasName
    simp only [Selectable.shape, Wording.selectable, Piece.own_append, Piece.outsides_append,
      aggregate, aliased]
  | raw r => rfl

theorem outsides_ordering (o : OrderBy) :
    outsides (own d (Wording.ordering lk' o.shape)) = outsides (own d (Wording.ordering lk o)) := by
  simp only [Wording.ordering, OrderBy.shape, Piece.own_append, Piece.outsides_append,
    outsides_column d lk lk' o.column]

theorem outsides_separated {α : Type} {part part' : α → List Token} {shape : α → α}
    (hp : ∀ a, outsides (own d (part' (shape a))) = outsides (own d (part a))) (parts : List α) :
    outsides (own d (Wording.separated part' (parts.map shape)))
      = outsides (own d (Wording.separated part parts)) := by
  induction parts with
  | nil => rfl
  | cons a rest ih =>
    cases rest with
    | nil =>
      rw [List.map_singleton, Wording.separated_singleton, Wording.separated_singleton]
      exact hp a
    | cons b rest =>
      rw [List.map_cons] at ih
      simp only [List.map_cons, Wording.separated_cons_cons, Piece.own_append,
        Piece.outsides_append, hp, ih]

theorem outsides_selectList (items : List Selectable) :
    outsides (own d (Wording.selectList lk' (items.map Selectable.shape)))
      = outsides (own d (Wording.selectList lk items)) := by
  unfold Wording.selectList
  cases items with
  | nil => rfl
  | cons item rest => exact outsides_separated d (outsides_selectable d lk lk') (item :: rest)

/-- Outside of the names the name of a table is nothing. -/
theorem outsides_tableName (entity : Option EntityMetadata) :
    outsides (own d (Wording.tableName entity)) = [] := by
  cases entity <;> rfl

end Tokens

variable {d : Dialect} {lk lk' : Lookup} {said said' : Nat → List Piece}

theorem isNode_shape (x : Expr) : Scope.isNode x.shape = Scope.isNode x := by
  cases x <;> rfl

theorem outsides_operand {x : Expr} {ps qs : List Piece} (h : outsides qs = outsides ps) :
    outsides (Wording.operand d x.shape qs) = outsides (Wording.operand d x ps) := by
  unfold Wording.operand
  rw [isNode_shape]
  split
  · simp only [Piece.outsides_append, h]
  · exact h

theorem outsides_clause {α : Type} (keyword : Token) (shape : α → α) (parts : List α)
    {ps qs : List Piece} (h : outsides qs = outsides ps) :
    outsides (Wording.clause d keyword (parts.map shape) qs)
      = outsides (Wording.clause d keyword parts ps) := by
  unfold Wording.clause
  rw [List.isEmpty_map]
  split
  · rfl
  · simp only [Piece.outsides_append, h]

variable (hs : ∀ n, outsides (said' n) = outsides (said n))

include hs

theorem outsides_subquery (s : Subquery) :
    outsides (Wording.subquery d said' s.shape) = outsides (Wording.subquery d said s) := by
  simp only [Wording.subquery, Subquery.shape, Piece.outsides_append, hs]

theorem outsides_expr (x : Expr) :
    outsides (Wording.expr d lk' said' x.shape) = outsides (Wording.expr d lk said x) := by
  induction x with
  | column c => exact outsides_column d lk lk' c
  | value v => rfl
  | raw r => rfl
  | aggregate a => exact outsides_aggregate d lk lk' a
  | subquery s => exact outsides_subquery hs s
  | keyword k =>
    simp only [Wording.expr, Expr.shape, Piece.outsides_append, outsides_subquery hs]
  | unary kind op x ih =>
    have operand := outsides_operand (d := d) (x := x) ih
    simp only [Wording.expr, Expr.shape]
    split <;> simp only [Piece.outsides_append, operand]
  | binary kind op x y ihx ihy =>
    simp only [Wording.expr, Expr.shape, Piece.outsides_append, outsides_operand ihx,
      outsides_operand ihy]

theorem outsides_source (source : Source) :
    outsides (Wording.source d lk' said' source.shape)
      = outsides (Wording.source d lk said source) := by
  match source with
  | .entity => simp only [Wording.source, Source.shape, outsides_tableName]
  | .verbatim text => rfl
  | .reference (.table t) =>
    simp only [Wording.source, Source.shape, TableRef.shape, Table.shape, Piece.own_append,
      Piece.outsides_append, outsides_tableName, outsides_aliased]
  | .reference (.subquery s) =>
    simp only [Wording.source, Source.shape, TableRef.shape, Piece.outsides_append,
      outsides_subquery hs]
    exact congrArg _ (outsides_aliased d s.aliasName)

theorem outsides_conditions (xs : List Expr) :
    outsides (Wording.conditions d lk' said' (xs.map Expr.shape))
      = outsides (Wording.conditions d lk said xs) := by
  unfold Wording.conditions
  rw [Scope.conjunction_map (f := Expr.shape) fun _ _ => rfl]
  cases Scope.conjunction xs with
  | none => rfl
  | some x => exact outsides_expr hs x

/-- **A statement and its shape have the same text outside of the names**, if what is said of the
nested ones has. -/
theorem outsides_statement (s : Selector) :
    outsides (Wording.statement d lk' said' s.shape) = outsides (Wording.statement d lk said s) := by
  have columns := outsides_selectList d lk lk' s.columns
  have source : outsides (Wording.source d lk' said' s.source.shape)
      = outsides (Wording.source d lk said s.source) := outsides_source hs s.source
  have conditions (xs : List Expr) :
      outsides (Wording.conditions d lk' said' (xs.map Expr.shape))
        = outsides (Wording.conditions d lk said xs) := outsides_conditions hs xs
  have filters := outsides_clause (d := d) .where Expr.shape s.filters (conditions s.filters)
  have groupBy := outsides_clause (d := d) .groupBy Column.shape s.groupBy
    (outsides_separated d (outsides_column d lk lk') s.groupBy)
  have having := outsides_clause (d := d) .having Expr.shape s.having (conditions s.having)
  have orderBy := outsides_clause (d := d) .orderBy OrderBy.shape s.orderBy
    (outsides_separated d (outsides_ordering d lk lk') s.orderBy)
  simp only [Wording.statement, Selector.shape, Piece.outsides_append, columns, source, filters,
    groupBy, having, orderBy]

end Shape

/-! ## 4. Outlines over several moments -/

section Moments

variable {D : (Nat → EntityKey → Except BuildError EntityMetadata) → Prop} {nested : List Selector}

/-- All pieces that a nested statement may have leave the same text outside of the names. -/
theorem outsides_worded {n : Nat} {ps : List Piece} (h : Worded D nested n ps) :
    Piece.outsides ps = Piece.outsides (wordings (fun _ => none) (fun _ _ => .error .nilEntity)
      (nested.map Selector.shape) n) := by
  rw [wordings, tabulate_map]
  refine tabulate_relation
    (R := fun (P : List Piece → Prop) qs => ∀ ps, P ps → Piece.outsides ps = Piece.outsides qs)
    ?_ ?_ nested n ps h
  · rintro _ rfl
    rfl
  · rintro before saidA saidB s hsaid ps ⟨describe, f, -, hf, rfl⟩
    exact (outsides_statement (fun n => (hsaid n (f n) (hf n)).symm) s).symm

/-- **The text outside of the names is the outline of the shape**, however entities are described. -/
theorem outsides_bodyOf {describe : Nat → EntityKey → Except BuildError EntityMetadata}
    {said : Nat → List Piece} (hsaid : ∀ n, Worded D nested n (said n)) (s : Selector) :
    Piece.outsides (bodyOf describe nested said s ++ Piece.own s.db.dialect [.semicolon])
      = outline (nested.map Selector.shape) s.shape := by
  have body : Piece.outsides (bodyOf (fun _ _ => .error .nilEntity) (nested.map Selector.shape)
      (wordings (fun _ => none) (fun _ _ => .error .nilEntity) (nested.map Selector.shape)) s.shape)
        = Piece.outsides (bodyOf describe nested said s) :=
    outsides_statement (fun n => (outsides_worded (hsaid n)).symm) s
  rw [outline, wordingOf, Piece.outsides_append, Piece.outsides_append, body]
  rfl

end Moments

end SqlSelect
