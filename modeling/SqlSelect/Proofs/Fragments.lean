import Mathlib.Logic.Relation
import SqlSelect.Proofs.Dialects
/-!
# Fragments are transparent

A fragment is a query in the place of the tokens that it was rendered from, and rendering does not
see the difference: neither the text nor the values, nor their order, depend on what was rendered
before and put in, at any place and as deep as fragments stand in fragments.

* `Token.Opens` -- one fragment of a list is opened;
* `Token.render_eq_of_opens` -- any number of fragments can be opened, one inside of the other;
* `Selector.buildNested_eq` -- in any lawful monad a nested statement is built to the rendering of
  its tokens, but for its semicolon;
* `Token.render_transparent` -- so what is kept for a nested statement can stand for its tokens.
-/

namespace SqlSelect

/-! ## 1. Opening fragments -/

namespace Token

variable {d : Dialect} {ts us : List Token}

/-- A fragment renders to what it holds. -/
theorem render_fragment (d : Dialect) (q : Query) : render d [.fragment q] = q := by
  rw [render_cons, render_nil, Query.append_empty]
  rfl

/-- **A fragment can be opened** wherever it stands. -/
theorem render_append_fragment (d : Dialect) (pre mid post : List Token) :
    render d (pre ++ [.fragment (render d mid)] ++ post) = render d (pre ++ mid ++ post) := by
  simp only [render_append, render_fragment]

/-- One fragment of the first list is opened in the second one: the tokens that it was rendered from
stand in its place. -/
inductive Opens (d : Dialect) : List Token → List Token → Prop
  | intro (pre mid post : List Token) :
    Opens d (pre ++ [.fragment (render d mid)] ++ post) (pre ++ mid ++ post)

theorem Opens.render_eq (h : Opens d ts us) : render d ts = render d us := by
  cases h with
  | intro pre mid post => exact render_append_fragment d pre mid post

/-- **Fragments can be opened one after the other**, those too that come to light on the way. -/
theorem render_eq_of_opens (h : Relation.ReflTransGen (Opens d) ts us) :
    render d ts = render d us := by
  induction h with
  | refl => rfl
  | tail _ last ih => exact ih.trans last.render_eq

end Token

/-! ## 2. Nested statements -/

section Nested

variable {m : Type → Type} [Monad m] [MonadExcept BuildError m]

/-- The tokens of a statement in its scope, but for its semicolon. -/
def Scope.body (sc : Scope m) (s : Selector) : m (List Token) := do
  let columns ← sc.selectList s.columns
  let source ← sc.source s.source
  let filters ← clause .where s.filters sc.conditions
  let groupBy ← clause .groupBy s.groupBy (separated sc.column)
  let having ← clause .having s.having sc.conditions
  let orderBy ← clause .orderBy s.orderBy (separated sc.ordering)
  pure ([.select, .space] ++ columns ++ [.space, .from, .space] ++ source ++ filters ++ groupBy
    ++ having ++ orderBy ++ paging .limit s.limit ++ paging .offset s.offset)

/-- The tokens of a statement, given the nested ones, but for its semicolon. -/
def Selector.body (s : Selector) (inner : Inner m) : m (List Token) := do
  let primary ← s.metadata inner.describe
  Scope.body { registry := s.db.registry, primary, inner } s

variable [LawfulMonad m]

theorem Scope.statement_eq (sc : Scope m) (s : Selector) :
    sc.statement s = (· ++ [.semicolon]) <$> sc.body s := by
  simp only [Scope.statement, Scope.body, map_bind, map_pure]

theorem Selector.compile_eq (s : Selector) (inner : Inner m) :
    s.compile inner = (· ++ [.semicolon]) <$> s.body inner := by
  simp only [Selector.compile, Selector.body, Scope.statement_eq, map_bind]

/-- **A nested statement is built to the rendering of its tokens**, but for its semicolon. -/
theorem Selector.buildNested_eq (s : Selector) (inner : Inner m) :
    s.buildNested inner = Token.render s.db.dialect <$> s.body inner := by
  have unterminated (ts : List Token) :
      (Token.render s.db.dialect (ts ++ [.semicolon])).unterminated = Token.render s.db.dialect ts := by
    rw [Token.render_append]
    exact Query.unterminated_append _
  simp only [Selector.buildNested, Selector.build, Selector.compile_eq, map_eq_pure_bind, bind_assoc,
    pure_bind, unterminated]

end Nested

/-- What a nested statement was built to can stand for its tokens. -/
theorem Selector.render_nested {s : Selector} {inner : Inner BuildM} {st st' : Store} {q : Query}
    (h : (s.buildNested inner).run.run st = (.ok q, st')) :
    ∃ ts, (s.compile inner).run.run st = (.ok (ts ++ [.semicolon]), st') ∧
      q = Token.render s.db.dialect ts := by
  rw [Selector.buildNested_eq, run_map] at h
  rw [Selector.compile_eq, run_map]
  rcases hb : (s.body inner).run.run st with ⟨e | ts, st''⟩
  · rw [hb] at h
    cases h
  · rw [hb] at h
    cases h
    exact ⟨ts, rfl, rfl⟩

/-- What is put into an empty cell is what the build answered. -/
theorem build_of_inCells {n : Nat} {b : BuildM Query} {st st' : Store} {q : Query}
    (empty : st.cells n = none) (h : (Keeping.inCells n b).run.run st = (.ok q, st')) :
    st'.cells n = some q ∧ ∃ st'', b.run.run (st.note n) = (.ok q, st'') := by
  rw [run_inCells, empty] at h
  rcases hb : b.run.run (st.note n) with ⟨e | p, st''⟩
  · simp only [hb] at h
    cases h
  · simp only [hb] at h
    cases h
    exact ⟨Store.update_self st''.cells n (some q), st'', rfl⟩

/-! ## 3. Transparency -/

/-- **Fragments are transparent to rendering.** In every dialect a fragment renders, anywhere in a list
of tokens, to the text and the values of the tokens that it was rendered from, and so do fragments in
fragments, however deep; and the text of a rendered list is its serialization. So the query that is kept
for a nested statement of the dialect stands for the tokens that the statement was compiled to, but for
their semicolon. -/
theorem Token.render_transparent (d : Dialect) :
    (∀ pre mid post,
      render d (pre ++ [.fragment (render d mid)] ++ post) = render d (pre ++ mid ++ post)) ∧
    (∀ ts, (render d ts).sql = serialize d ts) ∧
    (∀ ts us, Relation.ReflTransGen (Opens d) ts us → render d ts = render d us) ∧
    ∀ (s : Selector) (inner : Inner BuildM) n st q st', s.db.dialect = d → st.cells n = none →
      (Keeping.inCells n (s.buildNested inner)).run.run st = (.ok q, st') →
      st'.cells n = some q ∧ ∃ ts st'',
        (s.compile inner).run.run (st.note n) = (.ok (ts ++ [.semicolon]), st'') ∧
        ∀ pre post, render d (pre ++ [.fragment q] ++ post) = render d (pre ++ ts ++ post) := by
  refine ⟨render_append_fragment d, fun ts => ?_, fun _ _ => render_eq_of_opens,
    fun s inner n st q st' dialect empty h => ?_⟩
  · rw [render_eq_serialize]
  · obtain ⟨kept, st'', built⟩ := build_of_inCells empty h
    obtain ⟨ts, compiled, rendered⟩ := Selector.render_nested built
    refine ⟨kept, ts, st'', compiled, fun pre post => ?_⟩
    rw [rendered, dialect]
    exact render_append_fragment d pre ts post

/-- A placeholder in a fragment in a fragment, and one behind them. -/
def Token.boxed (d : Dialect) : List Token :=
  [.ident "id", .space, .op .isIn, .space,
    .fragment (render d [.openParen, .fragment (render d [.param (.int 7)]), .closeParen]),
    .space, .op .and, .space, .param (.bool true)]

theorem Token.render_transparent_boxed :
    let d := BaseDialect.mysql.toDialect
    render d (boxed d) = render d [.ident "id", .space, .op .isIn, .space, .openParen,
        .param (.int 7), .closeParen, .space, .op .and, .space, .param (.bool true)] ∧
    ∃ q st', (Keeping.inCells 0 (namesakes.buildNested (.empty resolve))).run.run usersStore
        = (.ok q, st') ∧ st'.cells 0 = some q ∧
      ∃ ts st'', (namesakes.compile (.empty resolve)).run.run (usersStore.note 0)
        = (.ok (ts ++ [.semicolon]), st'') ∧
        render d [.openParen, .fragment q, .closeParen]
          = render d ([.openParen] ++ ts ++ [.closeParen]) := by
  intro d
  obtain ⟨-, -, opened, nested⟩ := render_transparent d
  constructor
  · have outer := Opens.intro (d := d) [.ident "id", .space, .op .isIn, .space]
      [.openParen, .fragment (render d [.param (.int 7)]), .closeParen]
      [.space, .op .and, .space, .param (.bool true)]
    have inner := Opens.intro (d := d)
      [.ident "id", .space, .op .isIn, .space, .openParen] [.param (.int 7)]
      [.closeParen, .space, .op .and, .space, .param (.bool true)]
    exact opened _ _ ((Relation.ReflTransGen.single outer).tail inner)
  · obtain ⟨q, st', h⟩ : ∃ q st',
        (Keeping.inCells 0 (namesakes.buildNested (.empty resolve))).run.run usersStore
          = (.ok q, st') := ⟨_, _, rfl⟩
    obtain ⟨kept, ts, st'', compiled, same⟩ :=
      nested namesakes (.empty resolve) 0 usersStore q st' rfl rfl h
    exact ⟨q, st', h, kept, ts, st'', compiled, same [.openParen] [.closeParen]⟩

end SqlSelect
