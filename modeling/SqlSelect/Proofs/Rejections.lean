import SqlSelect.Proofs.Flaws
import SqlSelect.Proofs.Unquoted
import SqlSelect.Session
/-!
# Operators that are rejected

The compiler rejects an operator in a node of the wrong kind, one with an operand too many and one with
an operand too few. Neither the methods that expressions are made with nor the lowering of documents
can bring about the first of these, and the methods none of the three: a document can, by leaving the
second operand out or by writing one too many.

* `Expr.Fluent` -- expressions that are made from leaves by methods;
* `RejectsOnly` -- the rejections that a computation may end with, over any store, with a rule for each
  way to put computations together;
* `build_rejectsOnly` -- a build rejects only operators of the statements that it writes out, whatever
  has been built before;
* `ExprDoc.nodes` -- the operators of an expression in a document, as texts;
* `rejected_only_for_operands` -- statements made by methods are not rejected, and documents only for
  operators with the wrong number of operands.
-/

namespace SqlSelect

/-! ## 1. Expressions made by methods -/

namespace Expr

/-- The methods without another operand. -/
def unaryMethods : List (Expr → Expr) := [not, isNull, isNotNull]

/-- The methods with another operand. -/
def binaryMethods : List (Expr → Expr → Expr) :=
  [eq, ne, lt, lte, gt, gte, like, notLike, and, or, add, sub, mul, div, mod]

/-- The methods with a nested statement. -/
def queryMethods : List (Expr → Subquery → Expr) := [inQuery, notInQuery]

/-- The expressions that are made from leaves by methods. -/
inductive Fluent : Expr → Prop
  | column (c : Column) : Fluent (.column c)
  | value (v : Value) : Fluent (.value v)
  | raw (r : RawSql) : Fluent (.raw r)
  | aggregate (a : Aggregate) : Fluent (.aggregate a)
  | subquery (s : Subquery) : Fluent (.subquery s)
  | keyword (k : KeywordSubquery) : Fluent (.keyword k)
  | unary {f : Expr → Expr} (hf : f ∈ unaryMethods) {x : Expr} (hx : Fluent x) : Fluent (f x)
  | binary {f : Expr → Expr → Expr} (hf : f ∈ binaryMethods) {x y : Expr} (hx : Fluent x)
    (hy : Fluent y) : Fluent (f x y)
  | query {f : Expr → Subquery → Expr} (hf : f ∈ queryMethods) {x : Expr} (hx : Fluent x)
    (s : Subquery) : Fluent (f x s)

/-- No operator of the expression has a flaw. -/
def Fits (x : Expr) : Prop :=
  ∀ kind op second, .operator kind op second ∈ x.items → operatorFlaw? kind op second = none

variable {x y : Expr} {op : Operator}

theorem fits_apply (hop : op.isUnary = true) (hx : x.Fits) : (apply op x).Fits := by
  intro kind op' second h
  rcases List.mem_cons.1 h with same | h
  · cases same
    simp [operatorFlaw?, hop]
  · exact hx kind op' second h

theorem fits_combine (hop : op.isUnary = false) (hx : x.Fits) (hy : y.Fits) :
    (combine op x y).Fits := by
  intro kind op' second h
  rcases List.mem_cons.1 h with same | h
  · cases same
    simp [operatorFlaw?, hop]
  · exact (List.mem_append.1 h).elim (hx kind op' second) (hy kind op' second)

theorem fits_subquery (s : Subquery) : (subquery s).Fits := by
  intro kind op second h
  cases List.mem_singleton.1 h

theorem exists_apply_of_method {f : Expr → Expr} (hf : f ∈ unaryMethods) :
    ∃ op : Operator, op.isUnary = true ∧ f = apply op := by
  have methods : unaryMethods = [.not, .isNull, .isNotNull].map apply := rfl
  obtain ⟨op, hop, rfl⟩ := List.mem_map.1 (methods ▸ hf)
  have unary : ∀ op ∈ [Operator.not, .isNull, .isNotNull], op.isUnary = true := by decide
  exact ⟨op, unary op hop, rfl⟩

theorem exists_combine_of_method {f : Expr → Expr → Expr} (hf : f ∈ binaryMethods) :
    ∃ op : Operator, op.isUnary = false ∧ f = combine op := by
  have methods : binaryMethods = [.eq, .ne, .lt, .lte, .gt, .gte, .like, .notLike, .and, .or, .add,
    .sub, .mul, .div, .mod].map combine := rfl
  obtain ⟨op, hop, rfl⟩ := List.mem_map.1 (methods ▸ hf)
  have binary : ∀ op ∈ [Operator.eq, .ne, .lt, .lte, .gt, .gte, .like, .notLike, .and, .or, .add, .sub,
    .mul, .div, .mod], op.isUnary = false := by decide
  exact ⟨op, binary op hop, rfl⟩

theorem exists_combine_of_query {f : Expr → Subquery → Expr} (hf : f ∈ queryMethods) :
    ∃ op : Operator, op.isUnary = false ∧ f = fun x s => combine op x (.subquery s) := by
  rcases List.mem_cons.1 hf with rfl | hf
  · exact ⟨.isIn, rfl, rfl⟩
  · obtain rfl := List.mem_singleton.1 hf
    exact ⟨.notIn, rfl, rfl⟩

/-- **Methods give each operator the node and the operands that it takes.** -/
theorem Fluent.fits (h : x.Fluent) : x.Fits := by
  induction h with
  | column | aggregate | subquery | keyword =>
    intro kind op second h
    cases List.mem_singleton.1 h
  | value | raw =>
    intro kind op second h
    cases h
  | unary hf _ ih =>
    obtain ⟨op, hop, rfl⟩ := exists_apply_of_method hf
    exact fits_apply hop ih
  | binary hf _ _ ihx ihy =>
    obtain ⟨op, hop, rfl⟩ := exists_combine_of_method hf
    exact fits_combine hop ihx ihy
  | query hf _ s ih =>
    obtain ⟨op, hop, rfl⟩ := exists_combine_of_query hf
    exact fits_combine hop ih (fits_subquery s)

end Expr

namespace Selector

/-- All expressions of the statement are made by methods. -/
def Fluent (s : Selector) : Prop := ∀ x ∈ s.filters ++ s.having, x.Fluent

/-- The statement has an operator that is rejected for the reason. -/
def Misuses (s : Selector) (reason : String) : Prop :=
  ∃ kind op second, .operator kind op second ∈ s.items ∧
    operatorFlaw? kind op second = some (.unsupportedExpression reason)

/-- Operators stand in the conditions of a statement only. -/
theorem exists_condition_of_operator {s : Selector} {kind : NodeKind} {op : Operator} {second : Bool}
    (h : .operator kind op second ∈ s.items) :
    ∃ x ∈ s.filters ++ s.having, .operator kind op second ∈ x.items := by
  have columns : .operator kind op second ∉ s.columns.flatMap Selectable.items := fun mem => by
    obtain ⟨item, -, mem⟩ := List.mem_flatMap.1 mem
    cases item <;> simp [Selectable.items, Column.items, Aggregate.items] at mem
  have source : .operator kind op second ∉ s.source.items := by
    generalize s.source = source
    rcases source with _ | _ | (_ | _) <;> simp [Source.items]
  have groupBy : .operator kind op second ∉ s.groupBy.flatMap Column.items := fun mem => by
    obtain ⟨c, -, mem⟩ := List.mem_flatMap.1 mem
    cases List.mem_singleton.1 mem
  have orderBy : .operator kind op second ∉ s.orderBy.flatMap OrderBy.items := fun mem => by
    obtain ⟨o, -, mem⟩ := List.mem_flatMap.1 mem
    cases List.mem_singleton.1 mem
  simp only [items, List.mem_append, columns, source, groupBy, orderBy, false_or, or_false] at h
  rw [← List.mem_append, ← List.flatMap_append] at h
  exact List.mem_flatMap.1 h

theorem Fluent.not_misuses {s : Selector} (h : s.Fluent) (reason : String) : ¬ s.Misuses reason := by
  rintro ⟨kind, op, second, mem, flaw⟩
  obtain ⟨x, hx, mem⟩ := exists_condition_of_operator mem
  rw [(h x hx).fits kind op second mem] at flaw
  cases flaw

end Selector

/-! ## 2. What a computation rejects -/

section Rules

variable {P : String → Prop} {α β : Type}

/-- Over any store, the computation ends with a rejection only for reasons of which `P` holds. -/
def RejectsOnly (P : String → Prop) (x : BuildM α) : Prop :=
  ∀ st reason, (x.run.run st).1 = .error (.unsupportedExpression reason) → P reason

namespace RejectsOnly

theorem ofPure (a : α) : RejectsOnly P (pure a) := by
  intro st reason h
  cases h

theorem ofThrow {e : BuildError} (h : ∀ reason, e = .unsupportedExpression reason → P reason) :
    RejectsOnly P (throw e : BuildM α) := fun _ reason thrown => h reason (Except.error.inj thrown)

theorem ofNilEntity : RejectsOnly P (throw .nilEntity : BuildM α) := ofThrow fun _ same => by cases same

theorem ofUnknownField (field : String) : RejectsOnly P (throw (.unknownField field) : BuildM α) :=
  ofThrow fun _ same => by cases same

theorem bind {x : BuildM α} {f : α → BuildM β} (hx : RejectsOnly P x)
    (hf : ∀ a, RejectsOnly P (f a)) : RejectsOnly P (x >>= f) := by
  intro st reason h
  rw [run_bind] at h
  rcases hrun : x.run.run st with ⟨e | a, st'⟩
  · simp only [hrun] at h
    refine hx st reason ?_
    rw [hrun]
    exact congrArg Except.error (Except.error.inj h)
  · simp only [hrun] at h
    exact hf a st' reason h

theorem voidly_iff {x : BuildM α} : RejectsOnly P (voidly x) ↔ RejectsOnly P x := by
  refine forall_congr' fun st => forall_congr' fun reason => ?_
  rw [run_voidly]
  cases (x.run.run st).1 <;> simp [Except.map]

theorem ofForM {f : Item → BuildM Unit} {items : List Item} (h : ∀ i ∈ items, RejectsOnly P (f i)) :
    RejectsOnly P (forM items f) := by
  induction items with
  | nil => exact ofPure ()
  | cons i rest ih =>
    rw [List.forM_cons]
    exact (h i List.mem_cons_self).bind fun _ => ih fun j hj => h j (List.mem_cons_of_mem i hj)

/-- A registry rejects no operator. -/
theorem ofResolve (n : Nat) (key : EntityKey) : RejectsOnly P (resolve n key) := by
  intro st reason h
  rw [run_resolve] at h
  have answered : ((st.registries n).resolve key).1 = .error (.unsupportedExpression reason) := h
  cases key with
  | named name =>
    rw [Registry.resolve_named] at answered
    cases hname : (st.registries n).get? name <;> rw [hname] at answered <;> cases answered
  | typed type =>
    rw [Registry.resolve_typed_fst] at answered
    split at answered <;> cases answered

/-- What is kept in a cell was no rejection. -/
theorem inCells {b : BuildM Query} (h : RejectsOnly P b) (n : Nat) :
    RejectsOnly P (Keeping.inCells n b) := by
  intro st reason failed
  rw [run_inCells] at failed
  cases hc : st.cells n with
  | some q =>
    rw [hc] at failed
    cases failed
  | none =>
    rw [hc] at failed
    rcases hb : b.run.run (st.note n) with ⟨e | q, st'⟩
    · simp only [hb] at failed
      refine h (st.note n) reason ?_
      rw [hb]
      exact failed
    · simp only [hb] at failed
      cases failed

end RejectsOnly

end Rules

/-! ## 3. Builds -/

section Builds

variable {P : String → Prop} {nested : List Selector}

/-- Meeting an operator ends with its flaw. -/
theorem rejectsOnly_operator {sc : Scope BuildM} {kind : NodeKind} {op : Operator} {second : Bool}
    (h : ∀ reason, operatorFlaw? kind op second = some (.unsupportedExpression reason) → P reason) :
    RejectsOnly P (sc.meet (.operator kind op second)) := by
  have outcome : sc.meet (.operator kind op second)
      = (operatorFlaw? kind op second).elim (pure ()) throw := by
    unfold Scope.meet Scope.admitBinary Scope.admitUnary operatorFlaw?
    by_cases hk : op.nodeKind = kind <;> cases hu : op.isUnary <;> cases second <;> simp [hk, hu]
  rw [outcome]
  cases hflaw : operatorFlaw? kind op second with
  | none => exact .ofPure ()
  | some e => exact .ofThrow fun reason same => h reason (hflaw.trans (congrArg some same))

theorem rejectsOnly_require (d : EntityMetadata) (field : String) :
    RejectsOnly P (Scope.require d field) := by
  unfold Scope.require
  cases d.column? field with
  | some column => exact .ofPure column
  | none => exact .ofUnknownField field

/-- An item is met with a rejection only if it is an operator, or writes out something that is. -/
theorem rejectsOnly_meet {sc : Scope BuildM} {i : Item}
    (describes : ∀ n key, RejectsOnly P (sc.inner.describe n key))
    (bound : ∀ n, RejectsOnly P (sc.inner.metadata n))
    (written : ∀ n ∈ i.written, RejectsOnly P (sc.inner.query n))
    (operators : ∀ kind op second reason, i = .operator kind op second →
      operatorFlaw? kind op second = some (.unsupportedExpression reason) → P reason) :
    RejectsOnly P (sc.meet i) := by
  match i with
  | .field none name => exact RejectsOnly.voidly_iff.2 (rejectsOnly_require sc.primary name)
  | .field (some (.table t)) name =>
    exact RejectsOnly.voidly_iff.2 ((describes _ _).bind fun d => rejectsOnly_require d name)
  | .field (some (.subquery s)) name =>
    refine RejectsOnly.voidly_iff.2 ?_
    simp only [Scope.columnName]
    split
    · exact (bound _).bind fun d => rejectsOnly_require d name
    · exact .ofUnknownField name
  | .operator kind op second =>
    exact rejectsOnly_operator fun reason => operators kind op second reason rfl
  | .table entity => exact RejectsOnly.voidly_iff.2 (describes _ _)
  | .source s =>
    simp only [Scope.meet]
    split
    · exact RejectsOnly.voidly_iff.2 (.ofThrow fun _ same => by cases same)
    · exact RejectsOnly.voidly_iff.2 (written s.node (List.mem_singleton.2 rfl))
  | .nested s => exact RejectsOnly.voidly_iff.2 (written s.node (List.mem_singleton.2 rfl))

theorem rejectsOnly_metadata (s : Selector) : RejectsOnly P (s.metadata resolve) := by
  unfold Selector.metadata
  cases s.entity with
  | none => exact .ofNilEntity
  | some key => exact .ofResolve _ key

/-- A statement behind the first `bound` nested ones rejects its own operators, and what the statements
reject that it writes out. -/
theorem rejectsOnly_build_of {bound : Nat} (hbound : bound ≤ nested.length) {s : Selector}
    (own : ∀ reason, s.Misuses reason → P reason)
    (written : ∀ i ∈ s.items, ∀ n ∈ i.written, n < bound →
      RejectsOnly P ((Inner.ofList .inCells resolve nested).query n)) :
    RejectsOnly P (s.build (.ofList .inCells resolve (nested.take bound))) := by
  refine RejectsOnly.voidly_iff.1 ?_
  rw [voidly_build, describe_ofList]
  refine (rejectsOnly_metadata s).bind fun primary => .ofForM fun i hi =>
    rejectsOnly_meet (fun n key => ?describes) (fun n => ?bound) (fun n hn => ?written)
      fun kind op second reason same flaw => own reason ⟨kind, op, second, same ▸ hi, flaw⟩
  case describes =>
    rw [describe_ofList]
    exact .ofResolve n key
  case bound =>
    cases ht : (nested.take bound)[n]? with
    | none =>
      rw [metadata_of_length_le (List.getElem?_eq_none_iff.1 ht)]
      exact .ofNilEntity
    | some t =>
      rw [metadata_of_getElem? ht]
      exact rejectsOnly_metadata t
  case written =>
    by_cases below : n < bound
    · rw [query_take below hbound]
      exact written i hi n hn below
    · have hlength : (nested.take bound).length ≤ n := by
        rw [List.length_take_of_le hbound]
        exact Nat.not_lt.1 below
      rw [query_of_length_le hlength]
      exact .ofNilEntity

/-- The statements of a build: the one that is built, and the nested ones that it reaches. -/
def Selector.Within (s : Selector) (nested : List Selector) (t : Selector) : Prop :=
  t = s ∨ ∃ n, s.Reaches nested nested.length n ∧ nested[n]? = some t

theorem Selector.Within.mem {s t : Selector} (h : s.Within nested t) : t ∈ s :: nested := by
  obtain rfl | ⟨n, -, ht⟩ := h
  · exact List.mem_cons_self
  · exact List.mem_cons_of_mem _ (List.mem_of_getElem? ht)

/-- What a nested statement rejects that is reached, it rejects for an operator of the build. -/
theorem rejectsOnly_query {s : Selector} {n : Nat} (reached : s.Reaches nested nested.length n) :
    RejectsOnly (fun reason => ∃ t, s.Within nested t ∧ t.Misuses reason)
      ((Inner.ofList .inCells resolve nested).query n) := by
  -- a nested statement writes out only statements with smaller numbers
  induction n using Nat.strongRecOn with
  | _ n ih =>
    obtain ⟨t, ht⟩ : ∃ t, nested[n]? = some t := ⟨_, List.getElem?_eq_getElem reached.lt⟩
    rw [query_of_getElem? ht]
    refine .inCells (RejectsOnly.voidly_iff.1 ?_) n
    rw [voidly_buildNested]
    exact RejectsOnly.voidly_iff.2 (rejectsOnly_build_of (Nat.le_of_lt reached.lt)
      (fun reason misused => ⟨t, .inr ⟨n, reached, ht⟩, misused⟩)
      fun i hi k hk below => ih k below (reached.tail ht hi hk below))

/-- **A build rejects only operators of the statements that it writes out**, whatever is registered
and has been built before. -/
theorem build_rejectsOnly (nested : List Selector) (s : Selector) :
    RejectsOnly (fun reason => ∃ t, s.Within nested t ∧ t.Misuses reason)
      (s.build (.ofList .inCells resolve nested)) := by
  have whole := rejectsOnly_build_of (P := fun reason => ∃ t, s.Within nested t ∧ t.Misuses reason)
    (Nat.le_refl nested.length) (fun reason misused => ⟨s, .inl rfl, misused⟩)
    fun i hi n hn below => rejectsOnly_query (.direct hi hn below)
  rwa [List.take_length] at whole

end Builds

/-! ## 4. Documents -/

/-- The operators of an expression as texts, each with whether it has a second operand. -/
def ExprDoc.nodes : ExprDoc → List (String × Bool)
  | .unary text x => (text, false) :: x.nodes
  | .binary text x y => (text, true) :: (x.nodes ++ y.nodes)
  | _ => []

/-- The operators of a statement. -/
def StatementDoc.nodes (doc : StatementDoc) : List (String × Bool) :=
  (doc.filters ++ doc.having).flatMap ExprDoc.nodes

theorem ExprDoc.operator_mem_mentions {x : ExprDoc} {text : String} {second : Bool}
    (h : (text, second) ∈ x.nodes) : .operator text ∈ x.mentions := by
  induction x with
  | unary t x ih =>
    rcases List.mem_cons.1 h with same | h
    · cases same
      exact List.mem_cons_self
    · exact List.mem_cons_of_mem _ (ih h)
  | binary t x y ihx ihy =>
    rcases List.mem_cons.1 h with same | h
    · cases same
      exact List.mem_cons_self
    · rcases List.mem_append.1 h with h | h
      · exact List.mem_cons_of_mem _ (List.mem_append_left _ (ihx h))
      · exact List.mem_cons_of_mem _ (List.mem_append_right _ (ihy h))
  | _ => cases h

/-- An operator of a lowered expression comes from a text, and stands in a node of its own kind. -/
theorem ExprDoc.exists_node_of_operator (ref : String → Subquery) {x : ExprDoc} {kind : NodeKind}
    {op : Operator} {second : Bool} (h : .operator kind op second ∈ (x.lowered ref).items) :
    ∃ text, (text, second) ∈ x.nodes ∧ op = (Operator.ofText? text).getD default ∧
      kind = op.nodeKind := by
  induction x with
  | unary text x ih =>
    rcases List.mem_cons.1 h with same | h
    · obtain ⟨hkind, hop, rfl⟩ := Item.operator.inj same
      exact ⟨text, List.mem_cons_self, hop, hop ▸ hkind⟩
    · obtain ⟨t, ht, named⟩ := ih h
      exact ⟨t, List.mem_cons_of_mem _ ht, named⟩
  | binary text x y ihx ihy =>
    rcases List.mem_cons.1 h with same | h
    · obtain ⟨hkind, hop, rfl⟩ := Item.operator.inj same
      exact ⟨text, List.mem_cons_self, hop, hop ▸ hkind⟩
    · rcases List.mem_append.1 h with h | h
      · obtain ⟨t, ht, named⟩ := ihx h
        exact ⟨t, List.mem_cons_of_mem _ (List.mem_append_left _ ht), named⟩
      · obtain ⟨t, ht, named⟩ := ihy h
        exact ⟨t, List.mem_cons_of_mem _ (List.mem_append_right _ ht), named⟩
  | value | raw => cases h
  | _ => cases List.mem_singleton.1 h

namespace StatementDoc

variable {doc : StatementDoc} {text : String} {second : Bool}

theorem operator_mem_mentions (h : (text, second) ∈ doc.nodes) : .operator text ∈ doc.mentions := by
  obtain ⟨x, hx, mem⟩ := List.mem_flatMap.1 h
  have mentioned := ExprDoc.operator_mem_mentions mem
  rcases List.mem_append.1 hx with hx | hx
  · simp only [mentions, List.mem_append]
    exact .inl (.inl (.inl (.inr (List.mem_flatMap.2 ⟨x, hx, mentioned⟩))))
  · simp only [mentions, List.mem_append]
    exact .inl (.inr (List.mem_flatMap.2 ⟨x, hx, mentioned⟩))

/-- What is rejected in a lowered statement is an operator with the wrong number of operands. -/
theorem exists_node_of_misuses (ref : String → Subquery) (db : Db) {reason : String}
    (h : (doc.lowered ref db).Misuses reason) :
    ∃ text second op, (text, second) ∈ doc.nodes ∧ op = (Operator.ofText? text).getD default ∧
      op.isUnary = second ∧ .unsupportedExpression reason
        = if second then Scope.overfull op else Scope.incomplete op := by
  obtain ⟨kind, op, second, mem, flaw⟩ := h
  obtain ⟨y, hy, mem⟩ := Selector.exists_condition_of_operator mem
  have lowered : (doc.lowered ref db).filters ++ (doc.lowered ref db).having
      = (doc.filters ++ doc.having).map (ExprDoc.lowered ref) := List.map_append.symm
  obtain ⟨x, hx, rfl⟩ := List.mem_map.1 (lowered ▸ hy)
  obtain ⟨text, node, named, rfl⟩ := x.exists_node_of_operator ref mem
  refine ⟨text, second, op, List.mem_flatMap.2 ⟨x, hx, node⟩, named, ?_⟩
  unfold operatorFlaw? at flaw
  cases hu : op.isUnary <;> cases second <;> simp [hu] at flaw <;> simp [flaw]

end StatementDoc

namespace QueryDocument

variable {q : QueryDocument}

/-- The operators of a document that can be lowered are named by their texts. -/
theorem operator_of_lower {db : Db} {r : Selector × List Selector} (h : q.lower db = .ok r)
    {doc : StatementDoc} (reached : q.Reaches doc) {text : String} {second : Bool}
    (node : (text, second) ∈ doc.nodes) : ∃ op, Operator.ofText? text = some op := by
  have mentioned := doc.operator_mem_mentions node
  have met : q.Meets (.operator text) := by
    cases reached with
    | own => exact .here mentioned
    | named met defined => exact met.inside defined mentioned
  cases hop : Operator.ofText? text with
  | some op => exact ⟨op, rfl⟩
  | none => exact absurd (.operator met hop) (not_defect_of_lower h _)

/-- **A document is rejected only for an operator with the wrong number of operands**, in a statement
that counts. -/
theorem render_rejects {registry : Registry} {dialect : Dialect} {reason : String}
    (h : q.render registry dialect = .error (.build (.unsupportedExpression reason))) :
    ∃ doc text second op, q.Reaches doc ∧ (text, second) ∈ doc.nodes ∧
      Operator.ofText? text = some op ∧ op.isUnary = second ∧
      .unsupportedExpression reason = if second then Scope.overfull op else Scope.incomplete op := by
  cases hlower : q.lower { registry := 0, dialect } with
  | error e =>
    rw [render_of_lower_error hlower] at h
    obtain rfl := Except.error.inj h
    -- lowering fails at defects, and none of them is a rejection
    cases defect_of_lower hlower
  | ok r =>
    obtain ⟨s, nested⟩ := r
    obtain ⟨ref, lowered⟩ := reaches_of_lower hlower
    rw [render_of_lower_ok hlower] at h
    have failed : ((s.build (.ofList .inCells resolve nested)).run.run (.ofRegistry registry)).1
        = .error (.unsupportedExpression reason) := by
      rcases hrun : (s.build (.ofList .inCells resolve nested)).run.run (.ofRegistry registry)
        with ⟨e | r, st⟩
      · rw [hrun] at h
        exact congrArg Except.error (DocumentError.build.inj (Except.error.inj h))
      · rw [hrun] at h
        cases h
    obtain ⟨t, within, misused⟩ := build_rejectsOnly nested s _ reason failed
    obtain ⟨doc, reached, rfl⟩ := lowered t within.mem
    obtain ⟨text, second, op, node, named, arity, same⟩ := doc.exists_node_of_misuses ref _ misused
    obtain ⟨op', hop⟩ := operator_of_lower hlower reached node
    rw [hop, Option.getD_some] at named
    exact ⟨doc, text, second, op, reached, node, named ▸ hop, arity, same⟩

end QueryDocument

/-! ## 5. Statements made by methods, and documents -/

/-- **Which statements are rejected for an operator.** One that is made by methods, nested statements
and all, is not, in whatever session and dialect. A document is rejected only because in a statement
that counts an operator for one operand has a second one, or an operator for two has none. -/
theorem rejected_only_for_operands :
    (∀ (session : Session) (s : Selector), (∀ t, s.Within session.nested t → t.Fluent) →
      ∀ reason, (session.step (.build s)).1 ≠ .failed (.unsupportedExpression reason)) ∧
    ∀ (q : QueryDocument) (registry : Registry) (dialect : Dialect) (reason : String),
      q.render registry dialect = .error (.build (.unsupportedExpression reason)) →
        ∃ doc text second op, q.Reaches doc ∧ (text, second) ∈ doc.nodes ∧
          Operator.ofText? text = some op ∧ op.isUnary = second ∧ .unsupportedExpression reason
            = if second then Scope.overfull op else Scope.incomplete op := by
  refine ⟨fun session s fluent reason failed => ?_,
    fun q registry dialect reason => QueryDocument.render_rejects⟩
  have rejected : ((s.build session.inner).run.run session.store).1
      = .error (.unsupportedExpression reason) := by
    simp only [Session.step, Session.run] at failed
    rcases hrun : (s.build session.inner).run.run session.store with ⟨e | r, st⟩
    · rw [hrun] at failed
      exact congrArg Except.error (Answer.failed.inj failed)
    · rw [hrun] at failed
      cases failed
  obtain ⟨t, within, misused⟩ := build_rejectsOnly session.nested s _ reason rejected
  exact (fluent t within).not_misuses reason misused

/-- The session of a page of users. -/
def usersSession : Session := { store := usersStore, nested := [namesakes], opened := 1 }

/-- The users, on a condition that has an operand too many. -/
def lopsided : QueryDocument where
  statement :=
    { entity := some "user"
      filters := [.binary " Is_Null" (.column { name := "Id" }) (.value (.int 1))] }

theorem rejected_only_for_operands_users :
    (∀ reason, (usersSession.step (.build usersPage)).1 ≠ .failed (.unsupportedExpression reason)) ∧
    lopsided.render (usersStore.registries 0) BaseDialect.mysql.toDialect
      = .error (.build (.unsupportedExpression "unary operator 'is_null' with right operand")) ∧
    ∃ doc text second op, lopsided.Reaches doc ∧ (text, second) ∈ doc.nodes ∧
      Operator.ofText? text = some op ∧ op.isUnary = second := by
  have fluent : ∀ t, usersPage.Within usersSession.nested t → t.Fluent := by
    intro t within
    have id : (Expr.column { name := "Id" }).Fluent := .column _
    have name : (Expr.column { name := "Name" }).Fluent := .column _
    rcases List.mem_cons.1 within.mem with rfl | mem
    · refine List.forall_mem_cons.2 ⟨.binary (f := .or) ?_ (.query (f := .inQuery) ?_ id _) (.raw _),
        List.forall_mem_singleton.2 (.keyword _)⟩
      · simp [Expr.binaryMethods]
      · simp [Expr.queryMethods]
    · obtain rfl := List.mem_singleton.1 mem
      exact List.forall_mem_singleton.2 (.binary (f := .eq) List.mem_cons_self name (.value _))
  have rendered : (lopsided.render (usersStore.registries 0) BaseDialect.mysql.toDialect).map
      (fun _ => ()) = .error (.build (.unsupportedExpression
        "unary operator 'is_null' with right operand")) := by decide +kernel
  have failed : lopsided.render (usersStore.registries 0) BaseDialect.mysql.toDialect
      = .error (.build (.unsupportedExpression "unary operator 'is_null' with right operand")) := by
    cases h : lopsided.render (usersStore.registries 0) BaseDialect.mysql.toDialect with
    | error e =>
      rw [h] at rendered
      exact congrArg Except.error (Except.error.inj rendered)
    | ok r =>
      rw [h] at rendered
      cases rendered
  obtain ⟨doc, text, second, op, reached, node, named, arity, -⟩ :=
    rejected_only_for_operands.2 _ _ _ _ failed
  exact ⟨rejected_only_for_operands.1 usersSession usersPage fluent, failed,
    doc, text, second, op, reached, node, named, arity⟩

end SqlSelect
