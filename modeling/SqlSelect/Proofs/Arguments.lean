import SqlSelect.Proofs.Wording
/-!
# Arguments and placeholders

The text of a statement and its arguments are collected at different places: at values, at raw SQL,
at nested statements and at the numbers of rows. They never drift apart.

* `Selector.values` -- the values that a walk over the statement meets, clause by clause;
* `Piece.Fair` -- what a caller put into a piece holds as many question marks as values come with it:
  none in a name, and one for each value in raw SQL;
* `build_arguments` -- a build that succeeds collects the values of the walk; and if all pieces are
  fair, every beginning of the text that ends with a piece has as many question marks as values.
-/

namespace SqlSelect

/-! ## 1. The walk -/

section Walk

variable (inner : Nat → List Value)

/-- The values met in an expression. A nested statement gives all of its own, at every reference. -/
def Expr.values : Expr → List Value
  | .column _ => []
  | .value v => [v]
  | .raw r => r.args
  | .aggregate _ => []
  | .subquery s => inner s.node
  | .keyword k => inner k.subquery.node
  | .unary _ _ x => x.values
  | .binary _ _ x y => x.values ++ y.values

/-- The values met in an item of the `SELECT` list. -/
def Selectable.values : Selectable → List Value
  | .column _ => []
  | .aggregate _ => []
  | .raw r => r.args

/-- The values met in the source of the rows. -/
def Source.values : Source → List Value
  | .entity => []
  | .verbatim _ => []
  | .reference (.table _) => []
  | .reference (.subquery s) => inner s.node

/-- **The values met in a statement**: `SELECT` list, source, `WHERE`, `HAVING`, `LIMIT`, `OFFSET`.
There are none in `GROUP BY` and `ORDER BY`, which hold columns only. -/
def Selector.values (s : Selector) : List Value :=
  s.columns.flatMap Selectable.values ++ s.source.values inner
    ++ s.filters.flatMap (·.values inner) ++ s.having.flatMap (·.values inner)
    ++ (if 0 < s.limit then [.int s.limit] else [])
    ++ (if 0 < s.offset then [.int s.offset] else [])

end Walk

/-- The values met in each nested statement. -/
def nestedValues (nested : List Selector) : Nat → List Value :=
  tabulate [] (fun _ => Selector.values) nested

/-! ## 2. The pieces bring along the values of the walk -/

section Pieces

variable {d : Dialect} {lk : Lookup} {said : Nat → List Piece} {inner : Nat → List Value}

theorem args_own (ts : List Token) : (Piece.own d ts).flatMap Piece.args = ts.flatMap Token.args :=
  List.flatMap_map _ _ ts

@[simp] theorem args_field (table : Option TableRef) (name : String) :
    (Wording.field lk table name).flatMap Token.args = [] := by
  unfold Wording.field
  cases table.bind TableRef.qualifier? <;> cases lk.column? name table <;> rfl

@[simp] theorem args_aliased (aliasName : Option String) :
    (Scope.aliased aliasName).flatMap Token.args = [] := by
  unfold Scope.aliased
  cases nonEmpty aliasName <;> rfl

@[simp] theorem args_aggregate (a : Aggregate) :
    (Wording.aggregate lk a).flatMap Token.args = [] := by
  simp [Wording.aggregate, Token.args]

@[simp] theorem args_selectable (item : Selectable) :
    (Wording.selectable lk item).flatMap Token.args = item.values := by
  cases item <;> simp [Wording.selectable, Selectable.values, Token.args, RawSql.query]

@[simp] theorem args_column (c : Column) : (Wording.column lk c).flatMap Token.args = [] :=
  args_field c.table c.name

@[simp] theorem args_ordering (o : OrderBy) : (Wording.ordering lk o).flatMap Token.args = [] := by
  unfold Wording.ordering Scope.direction
  cases o.dir <;> simp [Token.args]

theorem args_separated {α : Type} (part : α → List Token) (parts : List α) :
    (Wording.separated part parts).flatMap Token.args
      = parts.flatMap fun a => (part a).flatMap Token.args := by
  induction parts with
  | nil => rfl
  | cons a rest ih =>
    cases rest with
    | nil => rw [Wording.separated_singleton, List.flatMap_singleton]
    | cons b rest =>
      rw [Wording.separated_cons_cons, List.flatMap_append, List.flatMap_append, ih]
      simp [Token.args]

theorem args_selectList (items : List Selectable) :
    (Wording.selectList lk items).flatMap Token.args = items.flatMap Selectable.values := by
  unfold Wording.selectList
  cases items with
  | nil => rfl
  | cons item rest => simp [args_separated]

theorem args_tableName (entity : Option EntityMetadata) :
    (Wording.tableName entity).flatMap Token.args = [] := by
  cases entity <;> rfl

theorem args_paging (keyword : Token) (hk : keyword.args = []) (n : Int64) :
    (Scope.paging keyword n).flatMap Token.args = if 0 < n then [.int n] else [] := by
  unfold Scope.paging
  split
  · simp only [List.flatMap_cons, hk]
    rfl
  · rfl

variable (hs : ∀ n, (said n).flatMap Piece.args = inner n)

include hs

theorem args_subquery (s : Subquery) :
    (Wording.subquery d said s).flatMap Piece.args = inner s.node := by
  simp [Wording.subquery, args_own, Token.args, hs]

omit hs in
theorem args_operand (x : Expr) (ps : List Piece) :
    (Wording.operand d x ps).flatMap Piece.args = ps.flatMap Piece.args := by
  unfold Wording.operand
  split
  · simp [args_own, Token.args]
  · rfl

theorem args_expr (x : Expr) : (Wording.expr d lk said x).flatMap Piece.args = x.values inner := by
  induction x with
  | column c => simp [Wording.expr, Expr.values, args_own]
  | value v => rfl
  | raw r => simp [Wording.expr, Expr.values, args_own, Token.args, RawSql.query]
  | aggregate a => simp [Wording.expr, Expr.values, args_own]
  | subquery s => exact args_subquery hs s
  | keyword k =>
    simp only [Wording.expr, Expr.values, List.flatMap_append, args_subquery hs]
    rfl
  | unary kind op x ih =>
    rw [Wording.expr]
    split <;> simp [args_own, args_operand, Token.args, Expr.values, ih]
  | binary kind op x y ihx ihy =>
    simp [Wording.expr, args_own, args_operand, Token.args, Expr.values, ihx, ihy]

theorem args_source (source : Source) :
    (Wording.source d lk said source).flatMap Piece.args = source.values inner := by
  match source with
  | .entity => simp [Wording.source, Source.values, args_own, args_tableName]
  | .verbatim text => rfl
  | .reference (.table t) => simp [Wording.source, Source.values, args_own, args_tableName]
  | .reference (.subquery s) =>
    simp [Wording.source, Source.values, args_own, args_subquery hs]

omit hs in
/-- Folding conditions with `AND` keeps their values in order. -/
theorem values_foldl_and (x : Expr) (rest : List Expr) :
    (rest.foldl Expr.and x).values inner = x.values inner ++ rest.flatMap (·.values inner) := by
  induction rest generalizing x with
  | nil => simp
  | cons y rest ih =>
    rw [List.foldl_cons, ih]
    simp [Expr.and, Expr.predicate, Expr.values]

theorem args_conditions (xs : List Expr) :
    (Wording.conditions d lk said xs).flatMap Piece.args = xs.flatMap (·.values inner) := by
  unfold Wording.conditions
  cases xs with
  | nil => rfl
  | cons x rest =>
    simp only [Scope.conjunction, Option.elim_some, args_expr hs, values_foldl_and,
      List.flatMap_cons]

omit hs in
theorem args_clause {α : Type} {keyword : Token} (hk : keyword.args = []) {parts : List α}
    {body : List Piece} (hb : parts = [] → body.flatMap Piece.args = []) :
    (Wording.clause d keyword parts body).flatMap Piece.args = body.flatMap Piece.args := by
  unfold Wording.clause
  cases parts with
  | nil => exact (hb rfl).symm
  | cons a rest =>
    simp only [List.isEmpty_cons, Bool.false_eq_true, if_false, List.flatMap_append, args_own,
      List.flatMap_cons, hk]
    rfl

/-- **The pieces of a statement bring along the values of the walk.** -/
theorem args_statement (s : Selector) :
    (Wording.statement d lk said s).flatMap Piece.args = s.values inner := by
  have hconditions (keyword : Token) (hk : keyword.args = []) (xs : List Expr) :
      (Wording.clause d keyword xs (Wording.conditions d lk said xs)).flatMap Piece.args
        = xs.flatMap (·.values inner) := by
    rw [args_clause hk fun h => by rw [args_conditions hs, h, List.flatMap_nil],
      args_conditions hs]
  have hcolumns {α : Type} (keyword : Token) (hk : keyword.args = []) (part : α → List Token)
      (parts : List α) (hp : ∀ a, (part a).flatMap Token.args = []) :
      (Wording.clause d keyword parts (Piece.own d (Wording.separated part parts))).flatMap
        Piece.args = [] := by
    have none : (Piece.own d (Wording.separated part parts)).flatMap Piece.args = [] := by
      simp [args_own, args_separated, hp]
    rw [args_clause hk fun _ => none, none]
  simp only [Wording.statement, Selector.values, List.flatMap_append, args_own, args_selectList,
    args_source hs, hconditions .where rfl, hconditions .having rfl,
    hcolumns .groupBy rfl _ s.groupBy args_column,
    hcolumns .orderBy rfl _ s.orderBy args_ordering,
    args_paging .limit rfl, args_paging .offset rfl]
  simp [Token.args]

end Pieces

section Wordings

variable (describe : Nat → EntityKey → Except BuildError EntityMetadata) (nested : List Selector)

theorem args_wordings (n : Nat) :
    (wordings (fun _ => none) describe nested n).flatMap Piece.args = nestedValues nested n :=
  tabulate_relation (R := fun (ps : List Piece) vs => ps.flatMap Piece.args = vs) rfl
    (fun _ _ _ s hs => args_statement hs s) nested n

theorem args_wordingOf (s : Selector) :
    (wordingOf (fun _ => none) describe nested s).flatMap Piece.args
      = s.values (nestedValues nested) := by
  rw [wordingOf, List.flatMap_append, bodyOf, args_statement (args_wordings describe nested)]
  exact List.append_nil _

end Wordings

/-! ## 3. Placeholders -/

namespace Piece

/-- The part of a piece that a caller chose, and the values that come with it: only raw SQL has
any. -/
def fromCaller (p : Piece) : List Char × List Value :=
  match p.token with
  | .ident name => (p.dialect.quoteChar :: name.toList, [])
  | .op operator => ((p.dialect.spelling operator).toList, [])
  | .function name => (name.toList, [])
  | .fragment query => (query.sql.toList, query.args)
  | .raw text => (text.toList, [])
  | _ => ([], [])

/-- The part that a caller chose has as many question marks as values come with it. -/
def Fair (p : Piece) : Prop := p.fromCaller.1.count '?' = p.fromCaller.2.length

instance : DecidablePred Fair :=
  fun p => inferInstanceAs (Decidable (p.fromCaller.1.count '?' = p.fromCaller.2.length))

theorem count_quoteWith {quote c : Char} {name : String} (hq : quote ≠ c) (hn : c ∉ name.toList) :
    (quoteWith quote name).toList.count c = 0 := by
  refine List.count_eq_zero.2 fun mem => ?_
  simp only [quoteWith, String.toList_ofList, List.cons_append, List.mem_cons, List.mem_append,
    List.mem_flatMap] at mem
  rcases mem with rfl | ⟨x, hx, hc⟩ | rfl | hc
  · exact hq rfl
  · have : c = x := by
      split at hc <;> simpa using hc
    exact hn (this ▸ hx)
  · exact hq rfl
  · cases hc

/-- **A fair piece holds one question mark for each of its values.** -/
theorem Fair.count_text {p : Piece} (h : p.Fair) : p.text.count '?' = p.args.length := by
  obtain ⟨d, t⟩ := p
  unfold Fair at h
  cases t with
  | ident name =>
    have hn : '?' ∉ d.quoteChar :: name.toList := List.count_eq_zero.1 h
    rw [List.mem_cons, not_or] at hn
    rw [text, Token.text_ident]
    exact count_quoteWith (Ne.symm hn.1) hn.2
  | op operator => exact h
  | function name => exact h
  | fragment query => exact h
  | raw text => exact h
  | _ => simp [text, args, Token.text, Token.args]

/-- So do several fair pieces together. -/
theorem count_text_of_fair {ps : List Piece} (h : ∀ p ∈ ps, p.Fair) :
    (ps.flatMap text).count '?' = (ps.flatMap args).length := by
  induction ps with
  | nil => rfl
  | cons p ps ih =>
    rw [List.flatMap_cons, List.flatMap_cons, List.count_append, List.length_append,
      (h p List.mem_cons_self).count_text, ih fun q hq => h q (List.mem_cons_of_mem p hq)]

end Piece

/-- **The arguments of a statement are the values of its walk, and placeholders keep step with
them.** From a store with empty cells, a build that succeeds collects the values that a walk over
the statement meets. Its text and its arguments are those of the pieces of its wording one after the
other; and if these are fair, then however far one has read, the question marks so far are as many
as the values so far. -/
theorem build_arguments {nested : List Selector} {s : Selector} {st st' : Store} {q : Query}
    (hst : ∀ n, st.cells n = none)
    (h : (s.build (.ofList .inCells resolve nested)).run.run st = (.ok q, st')) :
    q.args = s.values (nestedValues nested) ∧
      q.sql.toList = (wordingOf (fun _ => none) st.answer nested s).flatMap Piece.text ∧
      q.args = (wordingOf (fun _ => none) st.answer nested s).flatMap Piece.args ∧
      ((∀ p ∈ wordingOf (fun _ => none) st.answer nested s, p.Fair) →
        ∀ pre, pre <+: wordingOf (fun _ => none) st.answer nested s →
          (pre.flatMap Piece.text).count '?' = (pre.flatMap Piece.args).length) := by
  have hq := build_writes_of_empty hst h
  have hargs : q.args = (wordingOf (fun _ => none) st.answer nested s).flatMap Piece.args := by
    rw [hq, Piece.render_args]
  refine ⟨?_, ?_, hargs, ?_⟩
  · rw [hargs, args_wordingOf]
  · rw [hq, Piece.toList_render_sql]
  · intro hfair pre hpre
    exact Piece.count_text_of_fair fun p hp => hfair p (hpre.subset hp)

/-- A store that describes one entity. -/
def usersStore : Store :=
  let user : EntityMetadata := { tableName := "users", fields := [("Id", "id"), ("Name", "name")] }
  .ofRegistry { named := KeyMap.empty.insert "user" user }

/-- The numbers of the users of one name. -/
def namesakes : Selector where
  db := { registry := 0, dialect := BaseDialect.mysql.toDialect }
  entity := some (.named "user")
  columns := [.column { name := "Id" }]
  filters := [.eq (.column { name := "Name" }) (.value (.text "Ann"))]

/-- Raw SQL, two references to one nested statement, and a number of rows. -/
def usersPage : Selector where
  db := { registry := 0, dialect := BaseDialect.mysql.toDialect }
  entity := some (.named "user")
  columns := [.raw { sql := "id + ?", args := [.int 1] }]
  filters := [.or (.inQuery (.column { name := "Id" }) { node := 0 })
      (.raw { sql := "id < ?", args := [.int 7] }), .keyword (.exist { node := 0 })]
  limit := 10

theorem build_arguments_usersPage :
    ∃ q st',
      (usersPage.build (.ofList .inCells resolve [namesakes])).run.run usersStore = (.ok q, st')
      ∧ q.args = [.int 1, .text "Ann", .int 7, .text "Ann", .int 10]
      ∧ ∀ pre, pre <+: wordingOf (fun _ => none) usersStore.answer [namesakes] usersPage →
        (pre.flatMap Piece.text).count '?' = (pre.flatMap Piece.args).length := by
  have fair : ∀ p ∈ wordingOf (fun _ => none) usersStore.answer [namesakes] usersPage, p.Fair := by
    decide +kernel
  obtain ⟨q, st', h⟩ : ∃ q st',
      (usersPage.build (.ofList .inCells resolve [namesakes])).run.run usersStore = (.ok q, st') :=
    ⟨_, _, rfl⟩
  obtain ⟨hvalues, -, -, hcounts⟩ := build_arguments (fun _ => rfl) h
  exact ⟨q, st', h, hvalues, hcounts fair⟩

end SqlSelect
