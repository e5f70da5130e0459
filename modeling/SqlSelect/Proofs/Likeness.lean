import Mathlib.Data.List.Forall2
import SqlSelect.Build
/-!
# Statements that are compiled alike

The compiler goes through a statement clause by clause and asks, at each field, table and nested
statement, for what it needs. Two statements of one shape are compiled alike if they ask for the like
at each of these places, whatever computations are and whatever it means for two of them to be alike.
The clauses are gone through once, here; who compares two statements only looks at the places.

* `Likeness` -- what it means for one computation to do as another one does: a relation that return and
  bind keep, with the function that takes the one result to the other;
* `Retouch` -- what may become of the values in tokens; all other tokens stay;
* `Likeness.MatchExpr`, `Likeness.Match` -- two expressions and two statements of one shape that ask
  for the like at every place;
* `Likeness.compile` -- they are compiled alike.
-/

namespace SqlSelect

variable {m₁ m₂ : Type → Type} [Monad m₁] [MonadExcept BuildError m₁]
  [Monad m₂] [MonadExcept BuildError m₂]

/-! ## 1. Computations that do alike -/

/-- A relation between computations, each with the function that takes the result of the first to the
result of the second. It holds of results, of errors that name no field, and of one step after
another. -/
structure Likeness (m₁ m₂ : Type → Type) [Monad m₁] [MonadExcept BuildError m₁]
    [Monad m₂] [MonadExcept BuildError m₂] where
  Holds : {α β : Type} → (α → β) → m₁ α → m₂ β → Prop
  ofPure : ∀ {α β : Type} (f : α → β) (a : α), Holds f (pure a) (pure (f a))
  ofThrow : ∀ {α β : Type} (f : α → β) (e : BuildError), (∀ field, e ≠ .unknownField field) →
    Holds f (throw e) (throw e)
  ofBind : ∀ {α β γ δ : Type} {f : α → β} {g : γ → δ} {x : m₁ α} {y : m₂ β} {k : α → m₁ γ}
    {k' : β → m₂ δ}, Holds f x y → (∀ a, Holds g (k a) (k' (f a))) → Holds g (x >>= k) (y >>= k')

/-- The strictest likeness: two computations that are the same, but for the function of the result. -/
def sameComputation {m : Type → Type} [Monad m] [LawfulMonad m] [MonadExcept BuildError m]
    (failed : ∀ {α β : Type} (f : α → β) (e : BuildError), f <$> (throw e : m α) = throw e) :
    Likeness m m where
  Holds f x y := f <$> x = y
  ofPure f a := map_pure f a
  ofThrow f e _ := failed f e
  ofBind hx hk := by
    rw [map_bind, ← hx, bind_map_left]
    exact bind_congr hk

/-- Two builds that are the same, but for the function of the result. -/
def sameBuild : Likeness BuildM BuildM := sameComputation fun _ _ => rfl

/-- Two results that are the same, but for the function of the result. -/
def sameResult : Likeness (Except BuildError) (Except BuildError) := sameComputation fun _ _ => rfl

/-! ## 2. Values in tokens -/

/-- What becomes of the values in tokens. -/
structure Retouch where
  /-- What becomes of a value that is bound. -/
  value : Value → Value := id
  /-- What becomes of SQL that is rendered already, with its values. -/
  query : Query → Query := id

namespace Retouch

variable (ρ : Retouch)

/-- A token with other values. -/
def token : Token → Token
  | .param v => .param (ρ.value v)
  | .fragment q => .fragment (ρ.query q)
  | t => t

/-- Several tokens with other values. -/
def tokens (ts : List Token) : List Token := ts.map ρ.token

@[simp] theorem tokens_nil : ρ.tokens [] = [] := rfl

@[simp] theorem tokens_cons (t : Token) (ts : List Token) :
    ρ.tokens (t :: ts) = ρ.token t :: ρ.tokens ts := rfl

@[simp] theorem tokens_append (ts us : List Token) : ρ.tokens (ts ++ us) = ρ.tokens ts ++ ρ.tokens us :=
  List.map_append

theorem tokens_aliased (aliasName : Option String) :
    ρ.tokens (Scope.aliased aliasName) = Scope.aliased aliasName := by
  unfold Scope.aliased
  cases nonEmpty aliasName <;> rfl

theorem token_direction (dir : SortDir) : ρ.token (Scope.direction dir) = Scope.direction dir := by
  cases dir <;> rfl

/-- Without other values tokens stay as they are. -/
theorem tokens_eq_id : ({} : Retouch).tokens = id := by
  have same (t : Token) : ({} : Retouch).token t = t := by cases t <;> rfl
  exact funext fun ts => (List.map_congr_left fun t _ => same t).trans (List.map_id ts)

end Retouch

/-! ## 3. Statements of one shape -/

namespace Likeness

variable (R : Likeness m₁ m₂) (ρ : Retouch) (sc : Scope m₁) (sc' : Scope m₂)

/-- At two fields the like column is found, and the same qualifier is written. -/
structure MatchField (table : Option TableRef) (name : String) (table' : Option TableRef)
    (name' : String) : Prop where
  column : R.Holds id (sc.columnName name table) (sc'.columnName name' table')
  qualifier : table'.bind TableRef.qualifier? = table.bind TableRef.qualifier?

/-- Two columns, whatever their aliases. -/
def MatchColumn (c c' : Column) : Prop := R.MatchField sc sc' c.table c.name c'.table c'.name

/-- Two aggregates, whatever their aliases. -/
structure MatchAggregate (a a' : Aggregate) : Prop where
  function : a'.function = a.function
  field : R.MatchField sc sc' a.table a.field a'.table a'.field

/-- Two references to nested statements that have the like result. -/
def MatchSubquery (s s' : Subquery) : Prop :=
  R.Holds ρ.query (sc.inner.query s.node) (sc'.inner.query s'.node)

/-- **Two expressions of one shape** that ask for the like at every place. -/
inductive MatchExpr : Expr → Expr → Prop
  | column {c c' : Column} (h : R.MatchColumn sc sc' c c') : MatchExpr (.column c) (.column c')
  | value (v : Value) : MatchExpr (.value v) (.value (ρ.value v))
  | raw {r r' : RawSql} (h : r'.query = ρ.query r.query) : MatchExpr (.raw r) (.raw r')
  | aggregate {a a' : Aggregate} (h : R.MatchAggregate sc sc' a a') :
    MatchExpr (.aggregate a) (.aggregate a')
  | subquery {s s' : Subquery} (h : R.MatchSubquery ρ sc sc' s s') :
    MatchExpr (.subquery s) (.subquery s')
  | keyword {k k' : KeywordSubquery} (same : k'.keyword = k.keyword)
    (h : R.MatchSubquery ρ sc sc' k.subquery k'.subquery) : MatchExpr (.keyword k) (.keyword k')
  | unary {kind : NodeKind} {op : Operator} {x x' : Expr} (h : MatchExpr x x') :
    MatchExpr (.unary kind op x) (.unary kind op x')
  | binary {kind : NodeKind} {op : Operator} {x x' y y' : Expr} (hx : MatchExpr x x')
    (hy : MatchExpr y y') : MatchExpr (.binary kind op x y) (.binary kind op x' y')

/-- Two items of a `SELECT` list. Here the aliases are written. -/
inductive MatchSelectable : Selectable → Selectable → Prop
  | column {c c' : Column} (h : R.MatchColumn sc sc' c c')
    (aliasName : nonEmpty c'.aliasName = nonEmpty c.aliasName) : MatchSelectable (.column c) (.column c')
  | aggregate {a a' : Aggregate} (h : R.MatchAggregate sc sc' a a')
    (aliasName : nonEmpty a'.aliasName = nonEmpty a.aliasName) :
    MatchSelectable (.aggregate a) (.aggregate a')
  | raw {r r' : RawSql} (h : r'.query = ρ.query r.query) : MatchSelectable (.raw r) (.raw r')

/-- Two sources of the rows. -/
inductive MatchSource : Source → Source → Prop
  | entity (h : sc'.primary.tableName = sc.primary.tableName) : MatchSource .entity .entity
  | verbatim (text : String) : MatchSource (.verbatim text) (.verbatim text)
  | table {t t' : Table} (f : EntityMetadata → EntityMetadata)
    (described : R.Holds f (sc.inner.describe sc.registry t.entity)
      (sc'.inner.describe sc'.registry t'.entity))
    (tableName : ∀ d, (f d).tableName = d.tableName)
    (aliasName : nonEmpty t'.aliasName = nonEmpty t.aliasName) :
    MatchSource (.reference (.table t)) (.reference (.table t'))
  | subquery {s s' : Subquery} (h : R.MatchSubquery ρ sc sc' s s')
    (aliasName : nonEmpty s'.aliasName = nonEmpty s.aliasName) :
    MatchSource (.reference (.subquery s)) (.reference (.subquery s'))

/-- Two columns to order by. -/
structure MatchOrdering (o o' : OrderBy) : Prop where
  column : R.MatchColumn sc sc' o.column o'.column
  dir : o'.dir = o.dir

/-- **Two statements of one shape** that ask for the like at every place. -/
structure Match (s s' : Selector) : Prop where
  columns : List.Forall₂ (R.MatchSelectable ρ sc sc') s.columns s'.columns
  source : R.MatchSource ρ sc sc' s.source s'.source
  filters : List.Forall₂ (R.MatchExpr ρ sc sc') s.filters s'.filters
  groupBy : List.Forall₂ (R.MatchColumn sc sc') s.groupBy s'.groupBy
  having : List.Forall₂ (R.MatchExpr ρ sc sc') s.having s'.having
  orderBy : List.Forall₂ (R.MatchOrdering sc sc') s.orderBy s'.orderBy
  limit : ρ.tokens (Scope.paging .limit s.limit) = Scope.paging .limit s'.limit
  offset : ρ.tokens (Scope.paging .offset s.offset) = Scope.paging .offset s'.offset

variable {R ρ sc sc'}

/-! ## 4. Parts of a statement -/

theorem pureTokens {ts us : List Token} (h : ρ.tokens ts = us) :
    R.Holds ρ.tokens (pure ts) (pure us) :=
  h ▸ R.ofPure ρ.tokens ts

/-- Tokens that are only put together with others afterwards. -/
theorem thenTokens {x : m₁ (List Token)} {y : m₂ (List Token)} {k : List Token → m₁ (List Token)}
    {k' : List Token → m₂ (List Token)} (hx : R.Holds ρ.tokens x y)
    (hk : ∀ ts, R.Holds ρ.tokens (k ts) (k' (ρ.tokens ts))) : R.Holds ρ.tokens (x >>= k) (y >>= k') :=
  R.ofBind hx hk

theorem MatchField.compile {table table' : Option TableRef} {name name' : String}
    (h : R.MatchField sc sc' table name table' name') :
    R.Holds ρ.tokens (sc.field table name) (sc'.field table' name') := by
  refine R.ofBind h.column fun column => ?_
  rw [h.qualifier]
  cases table.bind TableRef.qualifier? with
  | none => exact pureTokens rfl
  | some qualifier => exact pureTokens rfl

theorem MatchColumn.compile {c c' : Column} (h : R.MatchColumn sc sc' c c') :
    R.Holds ρ.tokens (sc.column c) (sc'.column c') :=
  MatchField.compile h

theorem MatchAggregate.compile {a a' : Aggregate} (h : R.MatchAggregate sc sc' a a') :
    R.Holds ρ.tokens (sc.aggregate a) (sc'.aggregate a') := by
  refine thenTokens h.field.compile fun ts => pureTokens ?_
  simp only [Retouch.tokens_append, Retouch.tokens_cons, Retouch.tokens_nil, h.function]
  rfl

theorem MatchSubquery.compile {s s' : Subquery} (h : R.MatchSubquery ρ sc sc' s s') :
    R.Holds ρ.tokens (sc.subquery s) (sc'.subquery s') :=
  R.ofBind h fun _ => pureTokens rfl

theorem admitUnary (kind : NodeKind) (op : Operator) :
    R.Holds id (Scope.admitUnary kind op) (Scope.admitUnary kind op) := by
  unfold Scope.admitUnary
  split
  · exact R.ofThrow id _ nofun
  · split
    · exact R.ofPure id ()
    · exact R.ofThrow id _ nofun

theorem admitBinary (kind : NodeKind) (op : Operator) :
    R.Holds id (Scope.admitBinary kind op) (Scope.admitBinary kind op) := by
  unfold Scope.admitBinary
  split
  · exact R.ofThrow id _ nofun
  · split
    · exact R.ofThrow id _ nofun
    · exact R.ofPure id ()

/-- Expressions of one shape are both put into parentheses or neither of them. -/
theorem MatchExpr.operand {x x' : Expr} (h : R.MatchExpr ρ sc sc' x x') (ts : List Token) :
    ρ.tokens (Scope.operand x ts) = Scope.operand x' (ρ.tokens ts) := by
  cases h with
  | unary | binary =>
    simp only [Scope.operand, Scope.isNode, if_true, Retouch.tokens_append, Retouch.tokens_cons,
      Retouch.tokens_nil]
    rfl
  | _ => rfl

/-- **Expressions of one shape are compiled alike.** By induction on what they have in common. -/
theorem MatchExpr.compile {x x' : Expr} (h : R.MatchExpr ρ sc sc' x x') :
    R.Holds ρ.tokens (sc.expr x) (sc'.expr x') := by
  induction h with
  | column h => exact MatchField.compile h
  | value v => exact pureTokens rfl
  | raw h =>
    refine pureTokens ?_
    rw [h]
    rfl
  | aggregate h => exact h.compile
  | subquery h => exact h.compile
  | keyword same h =>
    refine thenTokens h.compile fun ts => pureTokens ?_
    rw [same]
    rfl
  | @unary kind op x x' h ih =>
    refine R.ofBind (admitUnary kind op) fun _ => thenTokens ih fun ts => pureTokens ?_
    rw [← h.operand]
    cases op.isLeading <;> simp [Retouch.token]
  | @binary kind op x x' y y' hx hy ihx ihy =>
    refine R.ofBind (admitBinary kind op) fun _ => thenTokens ihx fun ts => thenTokens ihy fun us =>
      pureTokens ?_
    rw [← hx.operand, ← hy.operand]
    simp only [Retouch.tokens_append]
    rfl

/-! ## 5. Clauses -/

section Clauses

variable {α β : Type} {P : α → β → Prop} {as : List α} {bs : List β}

theorem forall₂_map {f : α → β} (h : ∀ a ∈ as, P a (f a)) : List.Forall₂ P as (as.map f) :=
  List.forall₂_map_right_iff.2 (List.forall₂_same.2 h)

theorem forall₂_maps {ι : Type} {f : ι → α} {g : ι → β} {is : List ι} (h : ∀ i ∈ is, P (f i) (g i)) :
    List.Forall₂ P (is.map f) (is.map g) :=
  List.forall₂_map_left_iff.2 (forall₂_map h)

theorem separated {part : α → m₁ (List Token)} {part' : β → m₂ (List Token)}
    (hp : ∀ a b, P a b → R.Holds ρ.tokens (part a) (part' b)) (h : List.Forall₂ P as bs) :
    R.Holds ρ.tokens (Scope.separated part as) (Scope.separated part' bs) := by
  induction h with
  | nil => exact pureTokens rfl
  | cons first rest ih =>
    cases rest with
    | nil => exact hp _ _ first
    | cons second rest =>
      refine thenTokens (hp _ _ first) fun ts => thenTokens ih fun us => pureTokens ?_
      simp only [Retouch.tokens_append, Retouch.tokens_cons]
      rfl

theorem clause {keyword : Token} (hk : ρ.token keyword = keyword) {body : List α → m₁ (List Token)}
    {body' : List β → m₂ (List Token)} (h : List.Forall₂ P as bs)
    (hb : R.Holds ρ.tokens (body as) (body' bs)) :
    R.Holds ρ.tokens (Scope.clause keyword as body) (Scope.clause keyword bs body') := by
  unfold Scope.clause
  cases h with
  | nil => exact pureTokens rfl
  | cons first rest =>
    refine thenTokens hb fun ts => pureTokens ?_
    simp only [Retouch.tokens_append, Retouch.tokens_cons, Retouch.tokens_nil, hk]
    rfl

end Clauses

theorem MatchSelectable.compile {i i' : Selectable} (h : R.MatchSelectable ρ sc sc' i i') :
    R.Holds ρ.tokens (sc.selectable i) (sc'.selectable i') := by
  cases h with
  | column h aliasName =>
    refine thenTokens (MatchField.compile h) fun ts => pureTokens ?_
    rw [Retouch.tokens_append, Retouch.tokens_aliased, Scope.aliased, Scope.aliased, aliasName]
  | aggregate h aliasName =>
    refine thenTokens h.compile fun ts => pureTokens ?_
    rw [Retouch.tokens_append, Retouch.tokens_aliased, Scope.aliased, Scope.aliased, aliasName]
  | raw h =>
    refine pureTokens ?_
    rw [h]
    rfl

theorem selectList {items : List Selectable} {items' : List Selectable}
    (h : List.Forall₂ (R.MatchSelectable ρ sc sc') items items') :
    R.Holds ρ.tokens (sc.selectList items) (sc'.selectList items') := by
  unfold Scope.selectList
  cases h with
  | nil => exact pureTokens rfl
  | cons first rest => exact separated (fun _ _ h => h.compile) (.cons first rest)

theorem MatchSource.compile {source source' : Source} (h : R.MatchSource ρ sc sc' source source') :
    R.Holds ρ.tokens (sc.source source) (sc'.source source') := by
  cases h with
  | entity h =>
    refine pureTokens ?_
    rw [h]
    rfl
  | verbatim text => exact pureTokens rfl
  | table f described tableName aliasName =>
    refine R.ofBind described fun d => pureTokens ?_
    rw [Retouch.tokens_cons, Retouch.tokens_aliased, Scope.aliased, Scope.aliased, aliasName, tableName]
    rfl
  | subquery h aliasName =>
    simp only [Scope.source, aliasName]
    split
    · exact R.ofThrow _ _ nofun
    · refine thenTokens h.compile fun ts => pureTokens ?_
      rw [Retouch.tokens_append, Retouch.tokens_aliased]

/-- Conditions that are joined are of one shape, if they are one by one. -/
theorem MatchExpr.foldl_and {x x' : Expr} (h : R.MatchExpr ρ sc sc' x x') {xs xs' : List Expr}
    (hxs : List.Forall₂ (R.MatchExpr ρ sc sc') xs xs') :
    R.MatchExpr ρ sc sc' (xs.foldl .and x) (xs'.foldl .and x') := by
  induction hxs generalizing x x' with
  | nil => exact h
  | cons second rest ih => exact ih (.binary h second)

theorem conditions {xs xs' : List Expr} (h : List.Forall₂ (R.MatchExpr ρ sc sc') xs xs') :
    R.Holds ρ.tokens (sc.conditions xs) (sc'.conditions xs') := by
  cases h with
  | nil => exact pureTokens rfl
  | cons first rest => exact (first.foldl_and rest).compile

theorem MatchOrdering.compile {o o' : OrderBy} (h : R.MatchOrdering sc sc' o o') :
    R.Holds ρ.tokens (sc.ordering o) (sc'.ordering o') := by
  refine thenTokens h.column.compile fun ts => pureTokens ?_
  simp only [Retouch.tokens_append, Retouch.tokens_cons, Retouch.tokens_nil,
    Retouch.token_direction, h.dir]
  rfl

/-! ## 6. Statements -/

/-- **Statements of one shape are compiled alike.** -/
theorem Match.compile {s s' : Selector} (h : R.Match ρ sc sc' s s') :
    R.Holds ρ.tokens (sc.statement s) (sc'.statement s') := by
  refine thenTokens (selectList h.columns) fun _ => ?_
  refine thenTokens h.source.compile fun _ => ?_
  refine thenTokens (clause rfl h.filters (conditions h.filters)) fun _ => ?_
  refine thenTokens (clause rfl h.groupBy (separated (fun _ _ h => h.compile) h.groupBy)) fun _ => ?_
  refine thenTokens (clause rfl h.having (conditions h.having)) fun _ => ?_
  refine thenTokens (clause rfl h.orderBy (separated (fun _ _ h => h.compile) h.orderBy)) fun _ => ?_
  refine pureTokens ?_
  simp only [Retouch.tokens_append, h.limit, h.offset]
  rfl

variable {i : Inner m₁} {i' : Inner m₂} {s s' : Selector} {f : EntityMetadata → EntityMetadata}

/-- Two statements about entities with like descriptions, which are of one shape whatever the first
description is. -/
theorem compile (described : R.Holds f (s.metadata i.describe) (s'.metadata i'.describe))
    (h : ∀ primary, R.Match ρ { registry := s.db.registry, primary, inner := i }
      { registry := s'.db.registry, primary := f primary, inner := i' } s s') :
    R.Holds ρ.tokens (s.compile i) (s'.compile i') :=
  R.ofBind described fun primary => (h primary).compile

end Likeness

end SqlSelect
