import SqlSelect.Proofs.Following
import SqlSelect.Proofs.Frozen
/-!
# What a build walks over

A statement needs some things that it may not get: the description of its entity, fields with a
column, operators that fit, nested statements that can be built. These are its *items*, and a build
meets them one after the other. Between two items it only puts tokens together, so whatever a build
does, in whatever monad, is done by meeting the items in their order.

* `Item`, `Selector.items` -- the items of a statement, clause by clause, read off its syntax;
* `Scope.meet` -- what meeting an item is;
* `voidly_build` -- but for its result, a build is the description of the entity and then the meeting
  of the items; from here on no clause has to be looked at again;
* `Correspondence.voidly_build` -- a correspondence of two monads holds between two builds as soon as
  it holds where their items ask for something;
* `Selector.Reaches`, `Selector.Mentions` -- the nested statements that a statement writes out, and the
  entities that are mentioned in it, at any depth.
-/

namespace SqlSelect

/-! ## 1. Items -/

/-- Something that a statement needs to be built. -/
inductive Item
  /-- A field of the statement's own entity or of another source. -/
  | field (table : Option TableRef) (name : String)
  /-- An operator in a node of some kind, with a second operand or without. -/
  | operator (kind : NodeKind) (op : Operator) (second : Bool)
  /-- The table of an entity as the source of the rows. -/
  | table (entity : EntityKey)
  /-- A nested statement as the source of the rows. -/
  | source (subquery : Subquery)
  /-- A nested statement in an expression. -/
  | nested (subquery : Subquery)

/-- A column is one item. -/
def Column.items (c : Column) : List Item := [.field c.table c.name]

/-- An aggregate is one item. -/
def Aggregate.items (a : Aggregate) : List Item := [.field a.table a.field]

/-- The items of an expression: a node before its operands, these from left to right. -/
def Expr.items : Expr → List Item
  | .column c => c.items
  | .value _ => []
  | .raw _ => []
  | .aggregate a => a.items
  | .subquery s => [.nested s]
  | .keyword k => [.nested k.subquery]
  | .unary kind op x => .operator kind op false :: x.items
  | .binary kind op x y => .operator kind op true :: (x.items ++ y.items)

/-- The items of an item of the `SELECT` list. -/
def Selectable.items : Selectable → List Item
  | .column c => c.items
  | .aggregate a => a.items
  | .raw _ => []

/-- A column to order by is the item of the column. -/
def OrderBy.items (o : OrderBy) : List Item := o.column.items

/-- The items of the source of the rows. -/
def Source.items : Source → List Item
  | .entity => []
  | .verbatim _ => []
  | .reference (.table t) => [.table t.entity]
  | .reference (.subquery s) => [.source s]

/-- The items of a statement, clause by clause. -/
def Selector.items (s : Selector) : List Item :=
  s.columns.flatMap Selectable.items ++ s.source.items ++ s.filters.flatMap Expr.items
    ++ s.groupBy.flatMap Column.items ++ s.having.flatMap Expr.items
    ++ s.orderBy.flatMap OrderBy.items

namespace Item

/-- The entities that an item is about. -/
def entities : Item → List EntityKey
  | .field (some (.table t)) _ => [t.entity]
  | .table entity => [entity]
  | _ => []

/-- The nested statements that an item only takes a field from. -/
def bound : Item → List Nat
  | .field (some (.subquery s)) _ => [s.node]
  | _ => []

/-- The nested statements that an item writes out. -/
def written : Item → List Nat
  | .source s => [s.node]
  | .nested s => [s.node]
  | _ => []

/-- The nested statement that is built for an item. A source without an alias is not looked at. -/
def asked? : Item → Option Nat
  | .source s => if nonEmpty s.aliasName = none then none else some s.node
  | .nested s => some s.node
  | _ => none

/-- What is built for an item is written out by it. -/
theorem mem_written_of_asked? {i : Item} {n : Nat} (h : i.asked? = some n) : n ∈ i.written := by
  cases i with
  | source s =>
    simp only [asked?] at h
    split at h
    · cases h
    · exact List.mem_singleton.2 (Option.some.inj h).symm
  | nested s => exact List.mem_singleton.2 (Option.some.inj h).symm
  | _ => cases h

end Item

/-! ## 2. Meeting items -/

variable {m : Type → Type} [Monad m] [MonadExcept BuildError m]

/-- Meeting an item: what it needs is asked for. -/
def Scope.meet (sc : Scope m) : Item → m Unit
  | .field table name => voidly (sc.columnName name table)
  | .operator kind op second =>
    if second then Scope.admitBinary kind op else Scope.admitUnary kind op
  | .table entity => voidly (sc.inner.describe sc.registry entity)
  | .source s =>
    match nonEmpty s.aliasName with
    | none => voidly (throw .missingSubqueryAlias : m (List Token))
    | some _ => voidly (sc.inner.query s.node)
  | .nested s => voidly (sc.inner.query s.node)

/-- Where a nested statement is built for an item, meeting the item is no more than that. -/
theorem meet_of_asked? (sc : Scope m) {i : Item} {n : Nat} (h : i.asked? = some n) :
    sc.meet i = voidly (sc.inner.query n) := by
  cases i with
  | source s =>
    simp only [Item.asked?] at h
    split at h
    · cases h
    · next named =>
      obtain ⟨name, hname⟩ := Option.ne_none_iff_exists'.1 named
      cases h
      simp only [Scope.meet, hname]
  | nested s =>
    cases h
    rfl
  | _ => cases h

section Meets

variable [LawfulMonad m] {sc : Scope m} {α β : Type}

theorem meets_field (table : Option TableRef) (name : String) :
    Following sc.meet (sc.field table name) [.field table name] := by
  refine .ofStep ?_
  unfold Scope.field
  cases table.bind TableRef.qualifier? with
  | none => exact voidly_bind_pure _ _
  | some qualifier => exact voidly_bind_pure _ _

theorem meets_aggregate (a : Aggregate) : Following sc.meet (sc.aggregate a) a.items :=
  (meets_field a.table a.field).thenPure _

theorem meets_subquery (s : Subquery) : Following sc.meet (sc.subquery s) [.nested s] :=
  .ofStep (voidly_bind_pure _ _)

theorem meets_expr (x : Expr) : Following sc.meet (sc.expr x) x.items := by
  induction x with
  | column c => exact meets_field c.table c.name
  | value v => exact .ofPure _
  | raw r => exact .ofPure _
  | aggregate a => exact meets_aggregate a
  | subquery s => exact meets_subquery s
  | keyword k => exact (meets_subquery k.subquery).thenPure _
  | unary kind op x ih =>
    have fits : Following sc.meet (Scope.admitUnary kind op) [.operator kind op false] :=
      .ofStep (voidly_unit _)
    exact fits.bind fun _ => ih.thenPure _
  | binary kind op x y ihx ihy =>
    have fits : Following sc.meet (Scope.admitBinary kind op) [.operator kind op true] :=
      .ofStep (voidly_unit _)
    exact fits.bind fun _ => ihx.bind fun _ => ihy.thenPure _

theorem meets_separated {part : α → m (List Token)} {items : α → List Item}
    (hp : ∀ a, Following sc.meet (part a) (items a)) (parts : List α) :
    Following sc.meet (Scope.separated part parts) (parts.flatMap items) := by
  induction parts with
  | nil => exact .ofPure _
  | cons a rest ih =>
    cases rest with
    | nil =>
      rw [List.flatMap_singleton]
      exact hp a
    | cons b rest =>
      rw [List.flatMap_cons]
      exact (hp a).bind fun _ => ih.thenPure _

theorem meets_clause (keyword : Token) {parts : List α} {body : List α → m (List Token)}
    {items : α → List Item} (hb : Following sc.meet (body parts) (parts.flatMap items)) :
    Following sc.meet (Scope.clause keyword parts body) (parts.flatMap items) := by
  unfold Scope.clause
  cases parts with
  | nil => exact .ofPure _
  | cons a rest => exact hb.thenPure _

theorem meets_selectable (item : Selectable) : Following sc.meet (sc.selectable item) item.items := by
  cases item with
  | column c => exact (meets_field c.table c.name).thenPure _
  | aggregate a => exact (meets_aggregate a).thenPure _
  | raw r => exact .ofPure _

theorem meets_selectList (items : List Selectable) :
    Following sc.meet (sc.selectList items) (items.flatMap Selectable.items) := by
  unfold Scope.selectList
  cases items with
  | nil => exact .ofPure _
  | cons a rest => exact meets_separated meets_selectable (a :: rest)

theorem meets_source (source : Source) : Following sc.meet (sc.source source) source.items := by
  match source with
  | .entity => exact .ofPure _
  | .verbatim text => exact .ofPure _
  | .reference (.table t) => exact .ofStep (voidly_bind_pure _ _)
  | .reference (.subquery s) =>
    refine .ofStep ?_
    simp only [Scope.source, Scope.meet]
    cases nonEmpty s.aliasName with
    | none => rfl
    | some name => exact (voidly_bind_pure _ _).trans (voidly_bind_pure _ _)

/-- The node that joins conditions always fits, so it is nothing to be met. -/
theorem meets_and {x y : Expr} {items more : List Item} (hx : Following sc.meet (sc.expr x) items)
    (hy : Following sc.meet (sc.expr y) more) : Following sc.meet (sc.expr (.and x y)) (items ++ more) := by
  have joined : Following sc.meet (Scope.admitBinary .predicate .and >>= fun _ => sc.expr x >>= fun xs =>
      sc.expr y >>= fun ys => pure (Scope.operand x xs ++ [.space, .op .and, .space]
        ++ Scope.operand y ys)) ([] ++ (items ++ more)) :=
    (Following.ofPure ()).bind fun _ => hx.bind fun _ => hy.thenPure _
  exact joined

theorem meets_foldl_and {x : Expr} {items : List Item} (hx : Following sc.meet (sc.expr x) items)
    (xs : List Expr) :
    Following sc.meet (sc.expr (xs.foldl .and x)) (items ++ xs.flatMap Expr.items) := by
  induction xs generalizing x items with
  | nil =>
    rw [List.flatMap_nil, List.append_nil]
    exact hx
  | cons y ys ih =>
    rw [List.flatMap_cons, ← List.append_assoc]
    exact ih (meets_and hx (meets_expr y))

theorem meets_conditions (xs : List Expr) :
    Following sc.meet (sc.conditions xs) (xs.flatMap Expr.items) := by
  cases xs with
  | nil => exact .ofPure _
  | cons x rest =>
    rw [List.flatMap_cons]
    exact meets_foldl_and (meets_expr x) rest

theorem meets_column (c : Column) : Following sc.meet (sc.column c) c.items := meets_field c.table c.name

theorem meets_ordering (o : OrderBy) : Following sc.meet (sc.ordering o) o.items :=
  (meets_column o.column).thenPure _

/-- **A statement meets its items.** -/
theorem meets_statement (s : Selector) : Following sc.meet (sc.statement s) s.items := by
  unfold Scope.statement Selector.items
  simp only [List.append_assoc]
  exact (meets_selectList s.columns).bind fun _ =>
    (meets_source s.source).bind fun _ =>
    (meets_clause .where (meets_conditions s.filters)).bind fun _ =>
    (meets_clause .groupBy (meets_separated meets_column s.groupBy)).bind fun _ =>
    (meets_clause .having (meets_conditions s.having)).bind fun _ =>
    (meets_clause .orderBy (meets_separated meets_ordering s.orderBy)).thenPure _

variable {inner : Inner m}

theorem voidly_compile (s : Selector) :
    voidly (s.compile inner) = s.metadata inner.describe >>= fun primary =>
      forM s.items (Scope.meet { registry := s.db.registry, primary, inner }) := by
  unfold Selector.compile
  rw [voidly_bind]
  exact bind_congr fun primary => meets_statement s

/-- **But for its result, a build is the description of the statement's entity and then the meeting of
its items.** -/
theorem voidly_build (s : Selector) :
    voidly (s.build inner) = s.metadata inner.describe >>= fun primary =>
      forM s.items (Scope.meet { registry := s.db.registry, primary, inner }) :=
  (voidly_bind_pure _ _).trans (voidly_compile s)

theorem voidly_buildNested (s : Selector) :
    voidly (s.buildNested inner) = voidly (s.build inner) := voidly_bind_pure _ _

end Meets

theorem run_voidly {α : Type} (x : BuildM α) (st : Store) :
    (voidly x).run.run st = ((x.run.run st).1.map fun _ => (), (x.run.run st).2) := run_map _ x st

/-! ## 3. Correspondences where items ask -/

namespace Correspondence

variable {m₁ m₂ : Type → Type} [Monad m₁] [MonadExcept BuildError m₁] [LawfulMonad m₁]
  [Monad m₂] [MonadExcept BuildError m₂] [LawfulMonad m₂] {R : Correspondence m₁ m₂}

theorem ofVoidly {α : Type} {x : m₁ α} {y : m₂ α} (h : R.Holds x y) :
    R.Holds (SqlSelect.voidly x) (SqlSelect.voidly y) := R.ofMap _ h

omit [LawfulMonad m₁] [LawfulMonad m₂] in
theorem ofForM {f : Item → m₁ Unit} {g : Item → m₂ Unit} {items : List Item}
    (h : ∀ i ∈ items, R.Holds (f i) (g i)) : R.Holds (forM items f) (forM items g) := by
  induction items with
  | nil => exact R.ofPure ()
  | cons i rest ih =>
    rw [List.forM_cons, List.forM_cons]
    exact R.ofBind (h i List.mem_cons_self) fun _ =>
      ih fun j hj => h j (List.mem_cons_of_mem i hj)

/-- Two builds of one statement are given what corresponds, wherever the statement asks. -/
structure Serves (R : Correspondence m₁ m₂) (s : Selector) (i₁ : Inner m₁) (i₂ : Inner m₂) :
    Prop where
  own : R.Holds (s.metadata i₁.describe) (s.metadata i₂.describe)
  entity : ∀ i ∈ s.items, ∀ key ∈ i.entities,
    R.Holds (i₁.describe s.db.registry key) (i₂.describe s.db.registry key)
  bound : ∀ i ∈ s.items, ∀ n ∈ i.bound, R.Holds (i₁.metadata n) (i₂.metadata n)
  written : ∀ i ∈ s.items, ∀ n ∈ i.written,
    R.Holds (SqlSelect.voidly (i₁.query n)) (SqlSelect.voidly (i₂.query n))

/-- Meeting an item corresponds to itself if what the item asks for does. -/
theorem meet {sc₁ : Scope m₁} {sc₂ : Scope m₂} (primary : sc₁.primary = sc₂.primary) {i : Item}
    (entity : ∀ key ∈ i.entities, R.Holds (sc₁.inner.describe sc₁.registry key)
      (sc₂.inner.describe sc₂.registry key))
    (bound : ∀ n ∈ i.bound, R.Holds (sc₁.inner.metadata n) (sc₂.inner.metadata n))
    (asked : ∀ n, i.asked? = some n →
      R.Holds (SqlSelect.voidly (sc₁.inner.query n)) (SqlSelect.voidly (sc₂.inner.query n))) :
    R.Holds (sc₁.meet i) (sc₂.meet i) := by
  match i with
  | .field none name =>
    simp only [Scope.meet, Scope.columnName, primary]
    exact ofVoidly (require sc₂.primary name)
  | .field (some (.table t)) name =>
    have described := entity t.entity (List.mem_singleton.2 rfl)
    exact ofVoidly (R.ofBind described fun d => require d name)
  | .field (some (.subquery sub)) name =>
    have described := bound sub.node (List.mem_singleton.2 rfl)
    refine ofVoidly ?_
    simp only [Scope.columnName]
    split
    · exact R.ofBind described fun d => require d name
    · exact R.ofThrow _
  | .operator kind op second =>
    simp only [Scope.meet]
    split
    · exact admitBinary kind op
    · exact admitUnary kind op
  | .table key => exact ofVoidly (entity key (List.mem_singleton.2 rfl))
  | .source sub =>
    simp only [Scope.meet]
    split
    · exact ofVoidly (R.ofThrow _)
    · next named =>
      refine asked sub.node ?_
      simp only [Item.asked?, named, reduceCtorEq, if_false]
  | .nested sub => exact asked sub.node rfl

namespace Serves

variable {s : Selector} {i₁ : Inner m₁} {i₂ : Inner m₂}

theorem meet (h : R.Serves s i₁ i₂) (primary : EntityMetadata) {i : Item} (hi : i ∈ s.items) :
    R.Holds (Scope.meet { registry := s.db.registry, primary, inner := i₁ } i)
      (Scope.meet { registry := s.db.registry, primary, inner := i₂ } i) := by
  have same : (Scope.mk s.db.registry primary i₁).primary = (Scope.mk s.db.registry primary i₂).primary :=
    rfl
  exact Correspondence.meet same (h.entity i hi) (h.bound i hi) fun n hn =>
    h.written i hi n (Item.mem_written_of_asked? hn)

/-- **Two builds correspond, but for their results, if what their items ask for does.** -/
theorem voidly_build (h : R.Serves s i₁ i₂) :
    R.Holds (SqlSelect.voidly (s.build i₁)) (SqlSelect.voidly (s.build i₂)) := by
  rw [SqlSelect.voidly_build, SqlSelect.voidly_build]
  exact R.ofBind h.own fun primary => ofForM fun i hi => h.meet primary hi

end Serves

end Correspondence

/-! ## 4. Nested statements and entities at any depth -/

namespace Selector

/-- A statement reaches a nested one if it writes it out, or writes out another one that reaches it.
It sees the nested statements below `bound`, and each of these sees those below its own number. -/
inductive Reaches (nested : List Selector) : Nat → Selector → Nat → Prop
  | direct {bound n : Nat} {s : Selector} {i : Item} (hi : i ∈ s.items) (hn : n ∈ i.written)
    (below : n < bound) : Reaches nested bound s n
  | through {bound k n : Nat} {s t : Selector} {i : Item} (hi : i ∈ s.items) (hk : k ∈ i.written)
    (below : k < bound) (ht : nested[k]? = some t) (further : Reaches nested k t n) :
    Reaches nested bound s n

/-- An entity that is mentioned, as an entity of some registry, by a statement or by a nested
statement that it refers to, at any depth. -/
inductive Mentions (nested : List Selector) : Nat → Selector → Nat → EntityKey → Prop
  | own {bound : Nat} {s : Selector} {key : EntityKey} (h : s.entity = some key) :
    Mentions nested bound s s.db.registry key
  | item {bound : Nat} {s : Selector} {key : EntityKey} {i : Item} (hi : i ∈ s.items)
    (hkey : key ∈ i.entities) : Mentions nested bound s s.db.registry key
  | inside {bound k registry : Nat} {s t : Selector} {key : EntityKey} {i : Item}
    (hi : i ∈ s.items) (hk : k ∈ i.bound ∨ k ∈ i.written) (below : k < bound)
    (ht : nested[k]? = some t) (further : Mentions nested k t registry key) :
    Mentions nested bound s registry key

variable {nested : List Selector} {bound k n : Nat} {s t : Selector} {i : Item}

theorem Reaches.lt (h : Reaches nested bound s n) : n < bound := by
  induction h with
  | direct hi hn below => exact below
  | through hi hk below ht further ih => exact Nat.lt_trans ih below

/-- What is written out in a statement that is reached is reached. -/
theorem Reaches.tail (h : Reaches nested bound s n) (ht : nested[n]? = some t) (hi : i ∈ t.items)
    (hk : k ∈ i.written) (below : k < n) : Reaches nested bound s k := by
  induction h with
  | direct hi' hn' below' => exact .through hi' hn' below' ht (.direct hi hk below)
  | through hi' hk' below' ht' further ih => exact .through hi' hk' below' ht' (ih ht below)

end Selector

/-! ## 5. Nested statements by their numbers -/

section Numbers

variable {m : Type → Type} [Monad m] [MonadExcept BuildError m] {keeping : Keeping m}
  {described : Nat → EntityKey → m EntityMetadata} {nested : List Selector} {n k : Nat}
  {s : Selector}

theorem eq_take_append_of_getElem? {α : Type} {as : List α} {a : α} (h : as[n]? = some a) :
    as = as.take n ++ [a] ++ as.drop (n + 1) := by
  obtain ⟨hn, rfl⟩ := List.getElem?_eq_some_iff.1 h
  rw [List.take_append_getElem hn, List.take_append_drop]

/-- The result of a nested statement is kept from its build behind those before it. -/
theorem query_of_getElem? (h : nested[n]? = some s) :
    (Inner.ofList keeping described nested).query n
      = keeping n (s.buildNested (.ofList keeping described (nested.take n))) := by
  have hn : n < nested.length := (List.getElem?_eq_some_iff.1 h).1
  have hlength : (nested.take n).length = n := List.length_take_of_le (Nat.le_of_lt hn)
  have last : (Inner.ofList keeping described (nested.take n ++ [s])).query (nested.take n).length
      = keeping (nested.take n).length (s.buildNested (.ofList keeping described (nested.take n))) :=
    query_concat_self _ s
  rw [hlength] at last
  conv_lhs => rw [eq_take_append_of_getElem? h]
  rw [query_append _ (by rw [List.length_append, hlength]; exact Nat.lt_succ_self n), last]

/-- Statements see those before them as all others do. -/
theorem query_take (hk : k < n) (hn : n ≤ nested.length) :
    (Inner.ofList keeping described (nested.take n)).query k
      = (Inner.ofList keeping described nested).query k := by
  have hlength : (nested.take n).length = n := List.length_take_of_le hn
  conv_rhs => rw [← List.take_append_drop n nested]
  rw [query_append _ (by omega)]

theorem metadata_of_getElem? (h : nested[n]? = some s) :
    (Inner.ofList keeping described nested).metadata n = s.metadata described := by
  induction nested using List.reverseRecOn with
  | nil => cases h
  | append_singleton nested t ih =>
    rw [ofList_concat]
    simp only [Inner.push, size_ofList, describe_ofList]
    by_cases hn : n = nested.length
    · subst hn
      rw [List.getElem?_concat_length] at h
      cases h
      rw [if_pos rfl]
    · rw [if_neg hn]
      refine ih ?_
      rwa [List.getElem?_append_left] at h
      have := (List.getElem?_eq_some_iff.1 h).1
      rw [List.length_append, List.length_singleton] at this
      omega

theorem metadata_of_length_le (h : nested.length ≤ n) :
    (Inner.ofList keeping described nested).metadata n = throw .nilEntity := by
  induction nested using List.reverseRecOn with
  | nil => rfl
  | append_singleton nested t ih =>
    rw [List.length_append, List.length_singleton] at h
    rw [ofList_concat]
    simp only [Inner.push, size_ofList]
    rw [if_neg (by omega), ih (by omega)]

end Numbers

end SqlSelect
