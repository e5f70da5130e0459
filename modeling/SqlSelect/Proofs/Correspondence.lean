import SqlSelect.Build
/-!
# The compiler in two monads

The compiler is one program for every monad with the errors of a build. So a relation between the
computations of two monads that `pure`, `throw` and `>>=` keep (a `Correspondence`) holds between a
build in the one and the same build in the other, as soon as it holds between what the two builds
are given: the descriptions of entities and the results of nested statements.

The lemmas follow the compiler function by function; `Correspondence.build` is the last one.
-/

namespace SqlSelect

variable {m₁ m₂ : Type → Type} [Monad m₁] [MonadExcept BuildError m₁]
  [Monad m₂] [MonadExcept BuildError m₂]

/-- A relation between the computations of two monads that holds of equal results, of equal errors,
and of one step after another. -/
structure Correspondence (m₁ m₂ : Type → Type) [Monad m₁] [MonadExcept BuildError m₁]
    [Monad m₂] [MonadExcept BuildError m₂] where
  Holds : {α : Type} → m₁ α → m₂ α → Prop
  ofPure : ∀ {α : Type} (a : α), Holds (pure a) (pure a)
  ofThrow : ∀ {α : Type} (e : BuildError), Holds (throw e : m₁ α) (throw e)
  ofBind : ∀ {α β : Type} {x₁ : m₁ α} {x₂ : m₂ α} {f₁ : α → m₁ β} {f₂ : α → m₂ β},
    Holds x₁ x₂ → (∀ a, Holds (f₁ a) (f₂ a)) → Holds (x₁ >>= f₁) (x₂ >>= f₂)

namespace Correspondence

variable (R : Correspondence m₁ m₂)

/-- The same function of two results. -/
theorem ofMap [LawfulMonad m₁] [LawfulMonad m₂] {α β : Type} (f : α → β) {x₁ : m₁ α} {x₂ : m₂ α}
    (h : R.Holds x₁ x₂) : R.Holds (f <$> x₁) (f <$> x₂) := by
  rw [← bind_pure_comp, ← bind_pure_comp]
  exact R.ofBind h fun _ => R.ofPure _

/-- What two builds are given corresponds part by part. -/
structure Inners (i₁ : Inner m₁) (i₂ : Inner m₂) : Prop where
  size : i₁.size = i₂.size
  describe : ∀ n key, R.Holds (i₁.describe n key) (i₂.describe n key)
  query : ∀ n, R.Holds (i₁.query n) (i₂.query n)
  metadata : ∀ n, R.Holds (i₁.metadata n) (i₂.metadata n)

/-- Two scopes of one statement in what corresponds. -/
structure Scopes (sc₁ : Scope m₁) (sc₂ : Scope m₂) : Prop where
  registry : sc₁.registry = sc₂.registry
  primary : sc₁.primary = sc₂.primary
  inner : R.Inners sc₁.inner sc₂.inner

variable {R} {sc₁ : Scope m₁} {sc₂ : Scope m₂} (h : R.Scopes sc₁ sc₂)

/-! ## 1. Fields and nested statements -/

omit h in
theorem require (d : EntityMetadata) (field : String) :
    R.Holds (Scope.require d field) (Scope.require d field) := by
  unfold Scope.require
  split
  · exact R.ofPure _
  · exact R.ofThrow _

include h

theorem columnName (field : String) (table : Option TableRef) :
    R.Holds (sc₁.columnName field table) (sc₂.columnName field table) := by
  match table with
  | none =>
    simp only [Scope.columnName, h.primary]
    exact require _ field
  | some (.table t) =>
    simp only [Scope.columnName, h.registry]
    exact R.ofBind (h.inner.describe _ _) fun d => require d field
  | some (.subquery s) =>
    simp only [Scope.columnName]
    split
    · exact R.ofBind (h.inner.metadata _) fun d => require d field
    · exact R.ofThrow _

theorem field (table : Option TableRef) (name : String) :
    R.Holds (sc₁.field table name) (sc₂.field table name) := by
  refine R.ofBind (columnName h name table) fun column => ?_
  split
  · exact R.ofPure _
  · exact R.ofPure _

theorem aggregate (a : Aggregate) : R.Holds (sc₁.aggregate a) (sc₂.aggregate a) :=
  R.ofBind (field h a.table a.field) fun _ => R.ofPure _

theorem subquery (s : Subquery) : R.Holds (sc₁.subquery s) (sc₂.subquery s) :=
  R.ofBind (h.inner.query s.node) fun _ => R.ofPure _

/-! ## 2. Expressions -/

omit h in
theorem admitUnary (kind : NodeKind) (op : Operator) :
    R.Holds (Scope.admitUnary kind op) (Scope.admitUnary kind op) := by
  unfold Scope.admitUnary
  split
  · exact R.ofThrow _
  · split
    · exact R.ofPure _
    · exact R.ofThrow _

omit h in
theorem admitBinary (kind : NodeKind) (op : Operator) :
    R.Holds (Scope.admitBinary kind op) (Scope.admitBinary kind op) := by
  unfold Scope.admitBinary
  split
  · exact R.ofThrow _
  · split
    · exact R.ofThrow _
    · exact R.ofPure _

theorem expr (x : Expr) : R.Holds (sc₁.expr x) (sc₂.expr x) := by
  induction x with
  | column c => exact field h c.table c.name
  | value v => exact R.ofPure _
  | raw r => exact R.ofPure _
  | aggregate a => exact aggregate h a
  | subquery s => exact subquery h s
  | keyword k => exact R.ofBind (subquery h k.subquery) fun _ => R.ofPure _
  | unary kind op x ih =>
    exact R.ofBind (admitUnary kind op) fun _ => R.ofBind ih fun _ => R.ofPure _
  | binary kind op x y ihx ihy =>
    exact R.ofBind (admitBinary kind op) fun _ =>
      R.ofBind ihx fun _ => R.ofBind ihy fun _ => R.ofPure _

/-! ## 3. Clauses -/

omit h in
theorem separated {α : Type} {part₁ : α → m₁ (List Token)} {part₂ : α → m₂ (List Token)}
    (hp : ∀ a, R.Holds (part₁ a) (part₂ a)) (parts : List α) :
    R.Holds (Scope.separated part₁ parts) (Scope.separated part₂ parts) := by
  induction parts with
  | nil => exact R.ofPure _
  | cons a rest ih =>
    cases rest with
    | nil => exact hp a
    | cons b rest => exact R.ofBind (hp a) fun _ => R.ofBind ih fun _ => R.ofPure _

omit h in
theorem clause {α : Type} (keyword : Token) (parts : List α)
    {body₁ : List α → m₁ (List Token)} {body₂ : List α → m₂ (List Token)}
    (hb : R.Holds (body₁ parts) (body₂ parts)) :
    R.Holds (Scope.clause keyword parts body₁) (Scope.clause keyword parts body₂) := by
  unfold Scope.clause
  split
  · exact R.ofPure _
  · exact R.ofBind hb fun _ => R.ofPure _

theorem selectable (item : Selectable) : R.Holds (sc₁.selectable item) (sc₂.selectable item) := by
  cases item with
  | column c => exact R.ofBind (field h c.table c.name) fun _ => R.ofPure _
  | aggregate a => exact R.ofBind (aggregate h a) fun _ => R.ofPure _
  | raw r => exact R.ofPure _

theorem selectList (items : List Selectable) :
    R.Holds (sc₁.selectList items) (sc₂.selectList items) := by
  unfold Scope.selectList
  split
  · exact R.ofPure _
  · exact separated (selectable h) items

theorem source (source : Source) : R.Holds (sc₁.source source) (sc₂.source source) := by
  match source with
  | .entity =>
    simp only [Scope.source, h.primary]
    exact R.ofPure _
  | .verbatim text => exact R.ofPure _
  | .reference (.table t) =>
    simp only [Scope.source, h.registry]
    exact R.ofBind (h.inner.describe _ _) fun _ => R.ofPure _
  | .reference (.subquery s) =>
    simp only [Scope.source]
    split
    · exact R.ofThrow _
    · exact R.ofBind (subquery h s) fun _ => R.ofPure _

theorem conditions (xs : List Expr) : R.Holds (sc₁.conditions xs) (sc₂.conditions xs) := by
  unfold Scope.conditions
  split
  · exact expr h _
  · exact R.ofPure _

theorem column (c : Column) : R.Holds (sc₁.column c) (sc₂.column c) := field h c.table c.name

theorem ordering (o : OrderBy) : R.Holds (sc₁.ordering o) (sc₂.ordering o) :=
  R.ofBind (column h o.column) fun _ => R.ofPure _

/-! ## 4. Statements -/

theorem statement (s : Selector) : R.Holds (sc₁.statement s) (sc₂.statement s) :=
  R.ofBind (selectList h s.columns) fun _ =>
  R.ofBind (source h s.source) fun _ =>
  R.ofBind (clause .where s.filters (conditions h s.filters)) fun _ =>
  R.ofBind (clause .groupBy s.groupBy (separated (column h) s.groupBy)) fun _ =>
  R.ofBind (clause .having s.having (conditions h s.having)) fun _ =>
  R.ofBind (clause .orderBy s.orderBy (separated (ordering h) s.orderBy)) fun _ =>
  R.ofPure _

omit h

variable {i₁ : Inner m₁} {i₂ : Inner m₂} (hi : R.Inners i₁ i₂)

theorem ofEntity {describe₁ : Nat → EntityKey → m₁ EntityMetadata}
    {describe₂ : Nat → EntityKey → m₂ EntityMetadata}
    (hd : ∀ n key, R.Holds (describe₁ n key) (describe₂ n key)) (s : Selector) :
    R.Holds (s.metadata describe₁) (s.metadata describe₂) := by
  unfold Selector.metadata
  split
  · exact R.ofThrow _
  · exact hd _ _

include hi

theorem compile (s : Selector) : R.Holds (s.compile i₁) (s.compile i₂) := by
  refine R.ofBind (ofEntity hi.describe s) fun primary => ?_
  have hs : R.Scopes ⟨s.db.registry, primary, i₁⟩ ⟨s.db.registry, primary, i₂⟩ := ⟨rfl, rfl, hi⟩
  exact statement hs s

/-- **A build corresponds to itself** in two monads, if what it is given does. -/
theorem build (s : Selector) : R.Holds (s.build i₁) (s.build i₂) :=
  R.ofBind (compile hi s) fun _ => R.ofPure _

theorem buildNested (s : Selector) : R.Holds (s.buildNested i₁) (s.buildNested i₂) :=
  R.ofBind (build hi s) fun _ => R.ofPure _

/-! ## 5. Nested statements -/

/-- One more nested statement on both sides, if what is kept of its build corresponds. -/
theorem push {k₁ : Keeping m₁} {k₂ : Keeping m₂} {s : Selector}
    (hk : R.Holds (k₁ i₁.size (s.buildNested i₁)) (k₂ i₁.size (s.buildNested i₂))) :
    R.Inners (i₁.push k₁ s) (i₂.push k₂ s) where
  size := congrArg (· + 1) hi.size
  describe := hi.describe
  query n := by
    simp only [Inner.push, ← hi.size]
    split
    · exact hk
    · exact hi.query n
  metadata n := by
    simp only [Inner.push, ← hi.size]
    split
    · exact ofEntity hi.describe s
    · exact hi.metadata n

omit hi

variable {describe₁ : Nat → EntityKey → m₁ EntityMetadata}
  {describe₂ : Nat → EntityKey → m₂ EntityMetadata}
  (hd : ∀ n key, R.Holds (describe₁ n key) (describe₂ n key))

include hd

theorem empty : R.Inners (.empty describe₁) (.empty describe₂) where
  size := rfl
  describe := hd
  query _ := R.ofThrow _
  metadata _ := R.ofThrow _

/-- All statements of a list, if nothing is kept of their builds. -/
theorem ofList (nested : List Selector) :
    R.Inners (.ofList .never describe₁ nested) (.ofList .never describe₂ nested) := by
  unfold Inner.ofList
  generalize hi₁ : Inner.empty describe₁ = i₁
  generalize hi₂ : Inner.empty describe₂ = i₂
  have hi : R.Inners i₁ i₂ := hi₁ ▸ hi₂ ▸ empty hd
  clear hi₁ hi₂
  induction nested generalizing i₁ i₂ with
  | nil => exact hi
  | cons s rest ih =>
    exact ih _ _ (push hi (buildNested hi s))

end Correspondence

end SqlSelect
