import SqlSelect.Proofs.Arguments
import SqlSelect.Proofs.Likeness
/-!
# Values do not reach the text

Two statements that differ in nothing but their values are built to the same text, or fail with the
same error, and leave behind the same, but for the values that are kept in cells. A value is what is
bound in an expression, an argument of raw SQL, and a number of rows as long as it is positive.

* `Expr.bare`, `Selector.bare` -- the syntax with one and the same value everywhere; two statements
  differ in nothing but their values if these are equal;
* `Retouch.bare`, `Query.bare`, `Inner.bare` -- the same of what a build writes and of what it is given;
* `bare_build` -- taking away the values of what a build writes is building the statement that has
  none, against nested statements without them;
* `Store.Alike`, `twinned` -- stores that differ in nothing but the values in their cells, and two
  builds that cannot tell them apart;
* `build_eq_but_values` -- the theorem for whole statements with nested ones.
-/

namespace SqlSelect

/-! ## 1. Syntax without values -/

/-- The value that stands in the place of all others. As a number of rows it is written out. -/
def Value.any : Value := .int 1

/-- A query without its values. -/
def Query.bare (q : Query) : Query := { q with args := [] }

/-- Raw SQL without its values. -/
def RawSql.bare (r : RawSql) : RawSql := { r with args := [] }

/-- An expression without its values. -/
def Expr.bare : Expr → Expr
  | .column c => .column c
  | .value _ => .value .any
  | .raw r => .raw r.bare
  | .aggregate a => .aggregate a
  | .subquery s => .subquery s
  | .keyword k => .keyword k
  | .unary kind op x => .unary kind op x.bare
  | .binary kind op x y => .binary kind op x.bare y.bare

/-- An item of the `SELECT` list without its values. -/
def Selectable.bare : Selectable → Selectable
  | .column c => .column c
  | .aggregate a => .aggregate a
  | .raw r => .raw r.bare

/-- What is left of a number of rows: whether it is positive. -/
def bareRows (n : Int64) : Int64 := if 0 < n then 1 else 0

/-- **A statement without its values**: none in expressions and in raw SQL, and of a number of rows
only whether it is positive. Two statements that are equal without their values differ in nothing
else. -/
def Selector.bare (s : Selector) : Selector :=
  { s with
    columns := s.columns.map Selectable.bare
    filters := s.filters.map Expr.bare
    having := s.having.map Expr.bare
    limit := bareRows s.limit
    offset := bareRows s.offset }

/-- No values in tokens. -/
def Retouch.bare : Retouch where
  value _ := .any
  query := Query.bare

/-- What a statement is compiled against, without the values of nested statements. -/
def Inner.bare (inner : Inner BuildM) : Inner BuildM :=
  { inner with query := fun n => Query.bare <$> inner.query n }

/-- A scope without the values of nested statements. -/
def Scope.bare (sc : Scope BuildM) : Scope BuildM := { sc with inner := sc.inner.bare }

/-! ## 2. Tokens without values -/

/-- A value is no part of the text of its token. -/
theorem text_bare (d : Dialect) (t : Token) : (Retouch.bare.token t).text d = t.text d := by
  cases t <;> rfl

/-- Values are no part of a text. -/
theorem bare_render (d : Dialect) (ts : List Token) :
    (Token.render d (Retouch.bare.tokens ts)).bare = (Token.render d ts).bare := by
  have texts : (Token.render d (Retouch.bare.tokens ts)).sql = (Token.render d ts).sql := by
    induction ts with
    | nil => rfl
    | cons t ts ih =>
      simp only [Retouch.tokens_cons, Token.render_cons, Query.append, text_bare, ih]
  rw [Query.bare, texts, Query.bare]

/-- Of a number of rows it only counts whether it is positive. -/
theorem bare_paging {keyword : Token} (hk : Retouch.bare.token keyword = keyword) (n : Int64) :
    Retouch.bare.tokens (Scope.paging keyword n) = Scope.paging keyword (bareRows n) := by
  unfold Scope.paging bareRows
  by_cases hn : 0 < n
  · rw [if_pos hn, if_pos hn, if_pos (by decide)]
    simp only [Retouch.tokens_cons, Retouch.tokens_nil, hk]
    rfl
  · rw [if_neg hn, if_neg hn, if_neg (by decide)]
    rfl

/-! ## 3. Builds without values -/

section Places

variable (sc : Scope BuildM)

/-- Without values a statement asks for the same columns. -/
theorem matchField_bare (table : Option TableRef) (name : String) :
    sameBuild.MatchField sc sc.bare table name table name := by
  refine ⟨(id_map _).trans ?_, rfl⟩
  match table with
  | none => rfl
  | some (.table t) => rfl
  | some (.subquery s) => rfl

theorem matchExpr_bare (x : Expr) : sameBuild.MatchExpr .bare sc sc.bare x x.bare := by
  induction x with
  | column c => exact .column (matchField_bare sc c.table c.name)
  | value v => exact .value v
  | raw r => exact .raw rfl
  | aggregate a => exact .aggregate ⟨rfl, matchField_bare sc a.table a.field⟩
  | subquery s => exact .subquery rfl
  | keyword k => exact .keyword rfl rfl
  | unary kind op x ih => exact .unary ih
  | binary kind op x y ihx ihy => exact .binary ihx ihy

theorem matchSelectable_bare (item : Selectable) :
    sameBuild.MatchSelectable .bare sc sc.bare item item.bare := by
  cases item with
  | column c => exact .column (matchField_bare sc c.table c.name) rfl
  | aggregate a => exact .aggregate ⟨rfl, matchField_bare sc a.table a.field⟩ rfl
  | raw r => exact .raw rfl

theorem matchSource_bare (source : Source) :
    sameBuild.MatchSource .bare sc sc.bare source source := by
  match source with
  | .entity => exact .entity rfl
  | .verbatim text => exact .verbatim text
  | .reference (.table t) => exact .table id (id_map _) (fun _ => rfl) rfl
  | .reference (.subquery s) => exact .subquery rfl rfl

/-- **The statement without its values asks for the same at every place.** -/
theorem match_bare (s : Selector) : sameBuild.Match .bare sc sc.bare s s.bare where
  columns := Likeness.forall₂_map fun item _ => matchSelectable_bare sc item
  source := matchSource_bare sc s.source
  filters := Likeness.forall₂_map fun x _ => matchExpr_bare sc x
  groupBy := List.forall₂_same.2 fun c _ => matchField_bare sc c.table c.name
  having := Likeness.forall₂_map fun x _ => matchExpr_bare sc x
  orderBy := List.forall₂_same.2 fun o _ => ⟨matchField_bare sc o.column.table o.column.name, rfl⟩
  limit := bare_paging rfl s.limit
  offset := bare_paging rfl s.offset

end Places

section Statements

variable (inner : Inner BuildM)

/-- **The tokens of a statement without their values are those of the statement without its
values.** -/
theorem bare_compile (s : Selector) :
    Retouch.bare.tokens <$> s.compile inner = s.bare.compile inner.bare := by
  have described : sameBuild.Holds id (s.metadata inner.describe)
      (s.bare.metadata inner.bare.describe) := id_map _
  exact Likeness.compile described fun primary =>
    match_bare { registry := s.db.registry, primary, inner } s

/-- **What a build writes is, but for its values, what the build of the statement without its values
writes.** -/
theorem bare_build (s : Selector) :
    Query.bare <$> s.build inner = Query.bare <$> s.bare.build inner.bare := by
  unfold Selector.build
  rw [← bare_compile]
  simp only [map_bind, map_pure, bind_map_left, bare_render]
  rfl

theorem bare_buildNested (s : Selector) :
    Query.bare <$> s.buildNested inner = Query.bare <$> s.bare.buildNested inner.bare := by
  have apart : ∀ x : BuildM Query, Query.bare <$> (do pure (← x).unterminated)
      = Query.unterminated <$> Query.bare <$> x := by
    intro x
    rw [bind_pure_comp, Functor.map_map, Functor.map_map]
    rfl
  unfold Selector.buildNested
  rw [apart, apart, bare_build]

end Statements

/-! ## 4. Stores that differ in nothing but values -/

/-- Two stores that differ in nothing but the values in their cells. -/
structure Store.Alike (st st' : Store) : Prop where
  registries : st.registries = st'.registries
  begun : st.begun = st'.begun
  cells : ∀ n, (st.cells n).map Query.bare = (st'.cells n).map Query.bare

namespace Store.Alike

variable {st st' : Store}

theorem refl (st : Store) : st.Alike st := ⟨rfl, rfl, fun _ => rfl⟩

theorem fill (h : st.Alike st') (n : Nat) {q q' : Query} (hq : q.bare = q'.bare) :
    (st.fill n q).Alike (st'.fill n q') where
  registries := h.registries
  begun := h.begun
  cells k := by
    by_cases hk : k = n
    · subst hk
      simp only [Store.fill, Store.update_self, Option.map_some, hq]
    · simp only [Store.fill, Store.update_of_ne _ _ hk]
      exact h.cells k

end Store.Alike

/-- **Two computations that cannot tell stores apart that are alike**: they have one result, and leave
stores that are alike again. -/
def twinned : Correspondence BuildM BuildM where
  Holds b c := ∀ st st' : Store, st.Alike st' →
    (b.run.run st).1 = (c.run.run st').1 ∧ (b.run.run st).2.Alike (c.run.run st').2
  ofPure _ _ _ h := ⟨rfl, h⟩
  ofThrow _ _ _ h := ⟨rfl, h⟩
  ofBind := by
    intro α β b c f g hb hf st st' h
    obtain ⟨hr, halike⟩ := hb st st' h
    rw [run_bind, run_bind]
    rcases hrun : b.run.run st with ⟨e | a, left⟩ <;>
      rcases hrun' : c.run.run st' with ⟨e' | a', right⟩
    all_goals
      rw [hrun, hrun'] at hr halike
      cases hr
    · exact ⟨rfl, halike⟩
    · exact hf a left right halike

theorem resolve_twinned (n : Nat) (key : EntityKey) :
    twinned.Holds (resolve n key) (resolve n key) := by
  intro st st' h
  rw [run_resolve, run_resolve, Store.answer, Store.answer, h.registries]
  refine ⟨rfl, ?_, h.begun, h.cells⟩
  simp only [Store.setRegistry, h.registries]

/-- Whether a cell is filled does not depend on values, and neither does what is done then. -/
theorem inCells_twinned (n : Nat) {b c : BuildM Query}
    (hbc : twinned.Holds (Query.bare <$> b) (Query.bare <$> c)) :
    twinned.Holds (Query.bare <$> Keeping.inCells n b) (Query.bare <$> Keeping.inCells n c) := by
  intro st st' h
  rw [run_map, run_map, run_inCells, run_inCells]
  have hcells := h.cells n
  rcases hq : st.cells n with _ | q <;> rcases hq' : st'.cells n with _ | q'
  all_goals rw [hq, hq'] at hcells
  · have noted : (st.note n).Alike (st'.note n) := ⟨h.registries, congrArg (n :: ·) h.begun, h.cells⟩
    obtain ⟨hr, halike⟩ := hbc _ _ noted
    rw [run_map, run_map] at hr halike
    rcases hb : b.run.run (st.note n) with ⟨e | q, left⟩ <;>
      rcases hc : c.run.run (st'.note n) with ⟨e' | q', right⟩
    all_goals rw [hb, hc] at hr halike
    · exact ⟨hr, halike⟩
    · cases hr
    · cases hr
    · exact ⟨hr, halike.fill n (Except.ok.inj hr)⟩
  · cases hcells
  · cases hcells
  · exact ⟨congrArg Except.ok (Option.some.inj hcells), h⟩

/-! ## 5. Statements that differ in nothing but values -/

section Nested

variable {i i' : Inner BuildM} {s s' : Selector}

theorem build_twinned (hi : twinned.Inners i.bare i'.bare) (hs : s.bare = s'.bare) :
    twinned.Holds (Query.bare <$> s.build i) (Query.bare <$> s'.build i') := by
  have built : twinned.Holds (s'.bare.build i.bare) (s'.bare.build i'.bare) :=
    Correspondence.build hi s'.bare
  rw [bare_build i s, bare_build i' s', hs]
  exact twinned.ofMap Query.bare built

theorem buildNested_twinned (hi : twinned.Inners i.bare i'.bare) (hs : s.bare = s'.bare) :
    twinned.Holds (Query.bare <$> s.buildNested i) (Query.bare <$> s'.buildNested i') := by
  have built : twinned.Holds (s'.bare.buildNested i.bare) (s'.bare.buildNested i'.bare) :=
    Correspondence.buildNested hi s'.bare
  rw [bare_buildNested i s, bare_buildNested i' s', hs]
  exact twinned.ofMap Query.bare built

theorem push_twinned (hi : twinned.Inners i.bare i'.bare) (hs : s.bare = s'.bare) :
    twinned.Inners (i.push .inCells s).bare (i'.push .inCells s').bare where
  size := congrArg (· + 1) hi.size
  describe := hi.describe
  query n := by
    have hsize : i.size = i'.size := hi.size
    simp only [Inner.bare, Inner.push, ← hsize]
    split
    · exact inCells_twinned _ (buildNested_twinned hi hs)
    · exact hi.query n
  metadata n := by
    have hsize : i.size = i'.size := hi.size
    simp only [Inner.bare, Inner.push, ← hsize]
    split
    · have described : twinned.Holds (s.bare.metadata i.describe) (s.bare.metadata i'.describe) :=
        Correspondence.ofEntity hi.describe s.bare
      have same : s.bare.metadata i'.describe = s'.bare.metadata i'.describe := by rw [hs]
      exact same ▸ described
    · exact hi.metadata n

theorem empty_twinned :
    twinned.Inners (Inner.empty resolve).bare (Inner.empty resolve).bare where
  size := rfl
  describe := resolve_twinned
  query _ := twinned.ofMap _ (twinned.ofThrow _)
  metadata _ := twinned.ofThrow _

theorem ofList_twinned {nested nested' : List Selector}
    (h : nested.map Selector.bare = nested'.map Selector.bare) :
    twinned.Inners (Inner.ofList .inCells resolve nested).bare
      (Inner.ofList .inCells resolve nested').bare := by
  suffices run : ∀ i i' : Inner BuildM, twinned.Inners i.bare i'.bare →
      twinned.Inners (nested.foldl (Inner.push .inCells) i).bare
        (nested'.foldl (Inner.push .inCells) i').bare from run _ _ empty_twinned
  induction nested generalizing nested' with
  | nil =>
    cases nested' with
    | nil => exact fun _ _ hi => hi
    | cons s' rest' => cases h
  | cons s rest ih =>
    cases nested' with
    | nil => cases h
    | cons s' rest' =>
      obtain ⟨hs, hrest⟩ := List.cons.inj h
      exact fun _ _ hi => ih hrest _ _ (push_twinned hi hs)

end Nested

/-- **Values do not reach the text.** If two statements with their nested ones differ in nothing but
values, then from any store their builds both fail, with one error, or both succeed, with one text;
and they leave behind the same registries, and the same filled cells with the same texts. -/
theorem build_eq_but_values {nested nested' : List Selector} {s s' : Selector}
    (hn : nested.map Selector.bare = nested'.map Selector.bare) (hs : s.bare = s'.bare) (st : Store) :
    let run := (s.build (.ofList .inCells resolve nested)).run.run st
    let run' := (s'.build (.ofList .inCells resolve nested')).run.run st
    run.1.map Query.sql = run'.1.map Query.sql ∧ run.2.registries = run'.2.registries ∧
      ∀ n, (run.2.cells n).map Query.sql = (run'.2.cells n).map Query.sql := by
  intro run run'
  have h := build_twinned (ofList_twinned hn) hs st st (.refl st)
  rw [run_map, run_map] at h
  obtain ⟨hresult, halike⟩ : run.1.map Query.bare = run'.1.map Query.bare ∧ run.2.Alike run'.2 := h
  have text_bare (r : Except BuildError Query) :
      (r.map Query.bare).map Query.sql = r.map Query.sql := by cases r <;> rfl
  refine ⟨?_, halike.registries, fun n => ?_⟩
  · rw [← text_bare run.1, hresult, text_bare]
  · have hcell := congrArg (Option.map Query.sql) (halike.cells n)
    rwa [Option.map_map, Option.map_map] at hcell

/-- The numbers of the users without a name. -/
def nameless : Selector :=
  { namesakes with filters := [.eq (.column { name := "Name" }) (.value .null)] }

/-- A page of users with other values in all of its places. -/
def otherPage : Selector :=
  { usersPage with
    columns := [.raw { sql := "id + ?", args := [.text "1'; --", .null] }]
    filters := [.or (.inQuery (.column { name := "Id" }) { node := 0 }) (.raw { sql := "id < ?" }),
      .keyword (.exist { node := 0 })]
    limit := 7
    offset := -1 }

theorem build_eq_but_values_otherPage :
    ∃ text,
      ((usersPage.build (.ofList .inCells resolve [namesakes])).run.run usersStore).1.map Query.sql
        = .ok text ∧
      ((otherPage.build (.ofList .inCells resolve [nameless])).run.run usersStore).1.map Query.sql
        = .ok text := by
  have hn : [namesakes].map Selector.bare = [nameless].map Selector.bare := rfl
  have hs : usersPage.bare = otherPage.bare := rfl
  obtain ⟨text, built⟩ : ∃ text, ((usersPage.build (.ofList .inCells resolve
      [namesakes])).run.run usersStore).1.map Query.sql = .ok text := ⟨_, rfl⟩
  exact ⟨text, built, (build_eq_but_values hn hs _).1.symm.trans built⟩

end SqlSelect
