import Mathlib.Data.List.Nodup
import Mathlib.Data.Set.Function
import Mathlib.Logic.Equiv.Basic
import SqlSelect.Proofs.Results
/-!
# Other names, and names that are never met

The names of nested statements only tie references to entries. So a document means the same under
other names, as long as different names stay different, and it does not matter what stands in the
table under names that are never met.

Both are seen by lowering two documents side by side: the second one refers to `r name` where the
first one refers to `name`, and its table has the renamed entry of `name` under `r name`. Only names
that are met count here, so the second table may hold anything else, in any order.

* `StatementDoc.rename`, `QueryDocument.rename`, `DocumentError.rename` -- other names in a statement,
  in a document and in the errors that tell one;
* `LowerM.Renames` -- two computations that end alike from states that tell the same of the names
  that are met, with one lemma for each part of a statement (`LowerM.renames_statement`);
* `LowerM.renames_lookUp` -- looking up a name, by induction on the names that are unvisited: both
  sides find the name lowered, or both find it on the way, or both lower its statement now;
* `QueryDocument.lower_renamed` -- whole documents;
* `QueryDocument.render_up_to_names` -- what this says of rendering.
-/

namespace SqlSelect

/-! ## 1. Other names -/

section Rename

variable (r : String → String)

/-- A source of columns under other names. -/
def TableDoc.rename : TableDoc → TableDoc
  | subquery name => .subquery (r name)
  | entity name aliasName => .entity name aliasName

/-- A column under other names. -/
def ColumnDoc.rename (c : ColumnDoc) : ColumnDoc := { c with table := c.table.map (TableDoc.rename r) }

/-- An aggregate under other names. -/
def AggregateDoc.rename (a : AggregateDoc) : AggregateDoc :=
  { a with table := a.table.map (TableDoc.rename r) }

/-- An expression under other names. -/
def ExprDoc.rename : ExprDoc → ExprDoc
  | column c => .column (c.rename r)
  | value v => .value v
  | raw sql => .raw sql
  | aggregate a => .aggregate (a.rename r)
  | unary op x => .unary op (rename x)
  | binary op x y => .binary op (rename x) (rename y)
  | subquery name => .subquery (r name)
  | keyword text name => .keyword text (r name)

/-- An item of a `SELECT` list under other names. -/
def SelectDoc.rename : SelectDoc → SelectDoc
  | column c => .column (c.rename r)
  | aggregate a => .aggregate (a.rename r)
  | raw sql => .raw sql

/-- The source of the rows under other names. -/
def SourceDoc.rename : SourceDoc → SourceDoc
  | verbatim text => .verbatim text
  | table t => .table (t.rename r)

/-- A column to order by under other names. -/
def OrderDoc.rename (o : OrderDoc) : OrderDoc := { o with column := o.column.rename r }

/-- A statement under other names. -/
def StatementDoc.rename (s : StatementDoc) : StatementDoc :=
  { s with
    select := s.select.map (SelectDoc.rename r)
    source := s.source.map (SourceDoc.rename r)
    filters := s.filters.map (ExprDoc.rename r)
    groupBy := s.groupBy.map (ColumnDoc.rename r)
    having := s.having.map (ExprDoc.rename r)
    orderBy := s.orderBy.map (OrderDoc.rename r) }

/-- An entry of the table under other names. -/
def SubqueryDoc.rename (doc : SubqueryDoc) : SubqueryDoc :=
  { doc with statement := doc.statement.rename r }

/-- A document under other names: in the keys of its table and in every reference. -/
def QueryDocument.rename (q : QueryDocument) : QueryDocument where
  statement := q.statement.rename r
  subqueries := .ofList (q.subqueries.entries.map fun entry => (r entry.1, entry.2.rename r))

/-- An error under other names. -/
def DocumentError.rename : DocumentError → DocumentError
  | unknownSubquery name => .unknownSubquery (r name)
  | subqueryCycle name => .subqueryCycle (r name)
  | e => e

end Rename

/-! Keeping every name changes nothing. -/

@[simp] theorem TableDoc.rename_id : TableDoc.rename id = id := by
  funext t
  cases t <;> rfl

@[simp] theorem ColumnDoc.rename_id : ColumnDoc.rename id = id := by
  funext c
  simp only [rename, TableDoc.rename_id, Option.map_id_fun, id_eq]

@[simp] theorem AggregateDoc.rename_id : AggregateDoc.rename id = id := by
  funext a
  simp only [rename, TableDoc.rename_id, Option.map_id_fun, id_eq]

@[simp] theorem ExprDoc.rename_id : ExprDoc.rename id = id := by
  funext x
  induction x with
  | column c => simp only [rename, ColumnDoc.rename_id, id_eq]
  | value v => rfl
  | raw sql => rfl
  | aggregate a => simp only [rename, AggregateDoc.rename_id, id_eq]
  | unary op x ih => simp only [rename, ih, id_eq]
  | binary op x y ihx ihy => simp only [rename, ihx, ihy, id_eq]
  | subquery name => rfl
  | keyword text name => rfl

@[simp] theorem SelectDoc.rename_id : SelectDoc.rename id = id := by
  funext item
  cases item with
  | column c => simp only [rename, ColumnDoc.rename_id, id_eq]
  | aggregate a => simp only [rename, AggregateDoc.rename_id, id_eq]
  | raw sql => rfl

@[simp] theorem SourceDoc.rename_id : SourceDoc.rename id = id := by
  funext source
  cases source with
  | verbatim text => rfl
  | table t => simp only [rename, TableDoc.rename_id, id_eq]

@[simp] theorem OrderDoc.rename_id : OrderDoc.rename id = id := by
  funext o
  simp only [rename, ColumnDoc.rename_id, id_eq]

@[simp] theorem StatementDoc.rename_id : StatementDoc.rename id = id := by
  funext s
  simp only [rename, SelectDoc.rename_id, SourceDoc.rename_id, ExprDoc.rename_id,
    ColumnDoc.rename_id, OrderDoc.rename_id, Option.map_id_fun, List.map_id_fun, id_eq]

@[simp] theorem SubqueryDoc.rename_id : SubqueryDoc.rename id = id := by
  funext doc
  simp only [rename, StatementDoc.rename_id, id_eq]

@[simp] theorem DocumentError.rename_id : DocumentError.rename id = id := by
  funext e
  cases e <;> rfl

/-! ## 2. Computations side by side -/

/-- Two states tell the same of some names, which are others in the second one: they have the same
references, and so far the same statements were lowered. -/
structure Lowered.Renamed (r : String → String) (met : String → Prop) (st st' : Lowered) : Prop where
  built : ∀ name, met name → st'.built.get? (r name) = st.built.get? name
  nested : st'.nested = st.nested

namespace LowerM

variable {r : String → String} {met : String → Prop} {α β γ δ : Type}

/-- Two computations end alike from states that tell the same: with one error, but for the names in
it, or with one result and states that tell the same again. -/
def Renames (r : String → String) (met : String → Prop) (x y : LowerM α) : Prop :=
  ∀ st st', st.Renamed r met st' →
    (∃ e, x.run st = .error e ∧ y.run st' = .error (e.rename r)) ∨
      ∃ a next next', x.run st = .ok (a, next) ∧ y.run st' = .ok (a, next') ∧
        next.Renamed r met next'

namespace Renames

theorem ofPure (a : α) : Renames r met (pure a) (pure a) :=
  fun st st' h => .inr ⟨a, st, st', rfl, rfl, h⟩

theorem ofThrow {e e' : DocumentError} (h : e' = e.rename r) :
    Renames r met (throw e : LowerM α) (throw e') :=
  fun _ _ _ => .inl ⟨e, rfl, congrArg Except.error h⟩

theorem bind {x y : LowerM α} {f g : α → LowerM β} (hx : Renames r met x y)
    (hf : ∀ a, Renames r met (f a) (g a)) : Renames r met (x >>= f) (y >>= g) := by
  intro st st' h
  rw [run_bind, run_bind]
  obtain ⟨e, hx, hy⟩ | ⟨a, next, next', hx, hy, h'⟩ := hx st st' h
  · rw [hx, hy]
    exact .inl ⟨e, rfl, rfl⟩
  · rw [hx, hy]
    exact hf a next next' h'

theorem thenPure {x y : LowerM α} (hx : Renames r met x y) (f : α → β) :
    Renames r met (x >>= fun a => pure (f a)) (y >>= fun a => pure (f a)) :=
  hx.bind fun a => .ofPure (f a)

/-- One computation for each part of a list, under other names on the second side. -/
theorem mapM {f : α → LowerM β} {g : γ → LowerM β} {h : α → γ} {as : List α}
    (hf : ∀ a ∈ as, Renames r met (f a) (g (h a))) :
    Renames r met (as.mapM f) ((as.map h).mapM g) := by
  induction as with
  | nil => exact ofPure []
  | cons a as ih =>
    rw [List.map_cons, List.mapM_cons, List.mapM_cons]
    have first := hf a List.mem_cons_self
    have others := ih fun b hb => hf b (List.mem_cons_of_mem a hb)
    exact first.bind fun _ => others.thenPure _

end Renames

section Parts

variable {lookUp lookUp' : String → LowerM Subquery}

/-- The names among some mentions are looked up alike. -/
def RenamesNames (r : String → String) (met : String → Prop) (lookUp lookUp' : String → LowerM Subquery)
    (ms : List Mention) : Prop :=
  ∀ n, .subquery n ∈ ms → Renames r met (lookUp n) (lookUp' (r n))

theorem RenamesNames.mono {ms more : List Mention} (h : RenamesNames r met lookUp lookUp' more)
    (sub : ∀ m ∈ ms, m ∈ more) : RenamesNames r met lookUp lookUp' ms :=
  fun n hn => h n (sub _ hn)

theorem renames_operator (text : String) : Renames r met (operator text) (operator text) := by
  unfold operator
  split
  · exact .ofPure _
  · exact .ofThrow rfl

theorem renames_table {t : TableDoc} (names : RenamesNames r met lookUp lookUp' t.mentions) :
    Renames r met (table lookUp t) (table lookUp' (t.rename r)) := by
  cases t with
  | subquery name => exact (names name List.mem_cons_self).thenPure _
  | entity entity aliasName => exact .ofPure _

theorem renames_table? {t : Option TableDoc}
    (names : RenamesNames r met lookUp lookUp' (t.elim [] TableDoc.mentions)) :
    Renames r met (table? lookUp t) (table? lookUp' (t.map (TableDoc.rename r))) := by
  cases t with
  | none => exact .ofPure none
  | some t => exact (renames_table names).thenPure some

theorem renames_column {c : ColumnDoc} (names : RenamesNames r met lookUp lookUp' c.mentions) :
    Renames r met (column lookUp c) (column lookUp' (c.rename r)) :=
  (renames_table? names).thenPure _

theorem renames_aggregate {a : AggregateDoc}
    (names : RenamesNames r met lookUp lookUp' a.mentions) :
    Renames r met (aggregate lookUp a) (aggregate lookUp' (a.rename r)) :=
  (renames_table? names).thenPure _

theorem renames_expr {x : ExprDoc} (names : RenamesNames r met lookUp lookUp' x.mentions) :
    Renames r met (expr lookUp x) (expr lookUp' (x.rename r)) := by
  induction x with
  | column c => exact (renames_column names).thenPure _
  | value v => exact .ofPure _
  | raw sql => exact .ofPure _
  | aggregate a => exact (renames_aggregate names).thenPure _
  | unary text x ih =>
    have inside := ih (names.mono fun m hm => List.mem_cons_of_mem _ hm)
    exact (renames_operator text).bind fun _ => inside.thenPure _
  | binary text x y ihx ihy =>
    have left := ihx (names.mono fun m hm => List.mem_cons_of_mem _ (List.mem_append_left _ hm))
    have right := ihy (names.mono fun m hm => List.mem_cons_of_mem _ (List.mem_append_right _ hm))
    exact (renames_operator text).bind fun _ => left.bind fun _ => right.thenPure _
  | subquery name => exact (names name List.mem_cons_self).thenPure _
  | keyword text name => exact (names name List.mem_cons_self).thenPure _

theorem renames_selectable {item : SelectDoc}
    (names : RenamesNames r met lookUp lookUp' item.mentions) :
    Renames r met (selectable lookUp item) (selectable lookUp' (item.rename r)) := by
  cases item with
  | column c => exact (renames_column names).thenPure _
  | aggregate a => exact (renames_aggregate names).thenPure _
  | raw sql => exact .ofPure _

theorem renames_source {source : Option SourceDoc}
    (names : RenamesNames r met lookUp lookUp' (source.elim [] SourceDoc.mentions)) :
    Renames r met (LowerM.source lookUp source)
      (LowerM.source lookUp' (source.map (SourceDoc.rename r))) := by
  match source with
  | none => exact .ofPure _
  | some (.verbatim text) => exact .ofPure _
  | some (.table t) => exact (renames_table names).thenPure _

theorem renames_ordering {o : OrderDoc} (names : RenamesNames r met lookUp lookUp' o.mentions) :
    Renames r met (ordering lookUp o) (ordering lookUp' (o.rename r)) := by
  have inside : Renames r met (column lookUp o.column) (column lookUp' (o.column.rename r)) :=
    renames_column (names.mono fun m hm => List.mem_cons_of_mem _ hm)
  unfold ordering OrderDoc.rename
  dsimp only
  split
  · exact inside.thenPure _
  · exact .ofThrow rfl

/-- **A statement is lowered alike under other names**, if its names are looked up alike. -/
theorem renames_statement (db : Db) {doc : StatementDoc}
    (names : RenamesNames r met lookUp lookUp' doc.mentions) :
    Renames r met (statement lookUp db doc) (statement lookUp' db (doc.rename r)) := by
  simp only [RenamesNames, StatementDoc.mentions, List.mem_append, or_imp, forall_and] at names
  obtain ⟨⟨⟨⟨⟨inSelect, inSource⟩, inFilters⟩, inGroupBy⟩, inHaving⟩, inOrderBy⟩ := names
  have columns := Renames.mapM fun i (hi : i ∈ doc.select) =>
    renames_selectable fun n hn => inSelect n (List.mem_flatMap.2 ⟨i, hi, hn⟩)
  have source := renames_source inSource
  have filters := Renames.mapM fun x (hx : x ∈ doc.filters) =>
    renames_expr fun n hn => inFilters n (List.mem_flatMap.2 ⟨x, hx, hn⟩)
  have groupBy := Renames.mapM fun c (hc : c ∈ doc.groupBy) =>
    renames_column fun n hn => inGroupBy n (List.mem_flatMap.2 ⟨c, hc, hn⟩)
  have having := Renames.mapM fun x (hx : x ∈ doc.having) =>
    renames_expr fun n hn => inHaving n (List.mem_flatMap.2 ⟨x, hx, hn⟩)
  have orderBy := Renames.mapM fun o (ho : o ∈ doc.orderBy) =>
    renames_ordering fun n hn => inOrderBy n (List.mem_flatMap.2 ⟨o, ho, hn⟩)
  exact columns.bind fun _ => source.bind fun _ => filters.bind fun _ => groupBy.bind fun _ =>
    having.bind fun _ => orderBy.thenPure _

end Parts

end LowerM

/-! ## 3. Names -/

/-- Two tables tell the same of some names, which are others in the second one. -/
def RenamesTable (r : String → String) (met : String → Prop) (docs docs' : KeyMap SubqueryDoc) : Prop :=
  ∀ name, met name → docs'.get? (r name) = (docs.get? name).map (SubqueryDoc.rename r)

section Names

variable {r : String → String} {met : String → Prop}

theorem RenamesTable.contains {docs docs' : KeyMap SubqueryDoc} (h : RenamesTable r met docs docs')
    {name : String} (hname : met name) : docs'.contains (r name) = docs.contains name := by
  rw [KeyMap.contains, KeyMap.contains, h name hname, Option.isSome_map]

/-- Different names stay different, so taking one out on both sides leaves tables that tell the
same. -/
theorem RenamesTable.erase {docs docs' : KeyMap SubqueryDoc} (h : RenamesTable r met docs docs')
    (distinct : Set.InjOn r {name | met name}) {name : String} (hname : met name) :
    RenamesTable r met (docs.erase name) (docs'.erase (r name)) := by
  intro n hn
  have same : r n = r name ↔ n = name := distinct.eq_iff hn hname
  simp only [KeyMap.get?_erase, same]
  split
  · rfl
  · exact h n hn

/-- Statements that are lowered for a name on both sides get one reference. -/
theorem LowerM.renames_share (distinct : Set.InjOn r {name | met name}) {name : String}
    (hname : met name) (doc : SubqueryDoc) (selector : Selector) :
    Renames r met (share name doc selector) (share (r name) (doc.rename r) selector) := by
  rintro st ⟨built, nested⟩ ⟨sameBuilt, sameNested⟩
  obtain rfl : nested = st.nested := sameNested
  refine .inr ⟨_, _, _, rfl, rfl, fun n hn => ?_, rfl⟩
  have same : r n = r name ↔ n = name := distinct.eq_iff hn hname
  simp only [KeyMap.get?_insert, same]
  split
  · rfl
  · exact sameBuilt n hn

/-- **A name is looked up alike under another name.** The tables of the two documents tell the same of
the names that are met, and so do the tables of what is unvisited. -/
theorem LowerM.renames_lookUp {q : QueryDocument} {docs' : KeyMap SubqueryDoc} (db : Db)
    (distinct : Set.InjOn r {name | q.Meets (.subquery name)})
    (tables : RenamesTable r (q.Meets <| .subquery ·) q.subqueries docs')
    {unvisited unvisited' : KeyMap SubqueryDoc} (part : q.Part unvisited)
    (left : RenamesTable r (q.Meets <| .subquery ·) unvisited unvisited')
    {name : String} (hname : q.Meets (.subquery name)) :
    Renames r (q.Meets <| .subquery ·) (LowerM.lookUp db q.subqueries unvisited name)
      (LowerM.lookUp db docs' unvisited' (r name)) := by
  induction hsize : unvisited.size using Nat.strongRecOn generalizing unvisited unvisited' name with
  | _ size ih =>
    intro st st' h
    have sameBuilt := h.built name hname
    cases hbuilt : st.built.get? name with
    | some reference =>
      rw [hbuilt] at sameBuilt
      exact .inr ⟨_, _, _, run_lookUp_built hbuilt, run_lookUp_built sameBuilt, h⟩
    | none =>
      rw [hbuilt] at sameBuilt
      have sameEntry := left name hname
      cases hdoc : unvisited.get? name with
      | none =>
        rw [hdoc] at sameEntry
        refine .inl ⟨_, run_lookUp_visited hbuilt hdoc, ?_⟩
        rw [run_lookUp_visited sameBuilt sameEntry, tables.contains hname]
        cases q.subqueries.contains name <;> rfl
      | some doc =>
        rw [hdoc] at sameEntry
        rw [run_lookUp_unvisited hbuilt hdoc, run_lookUp_unvisited sameBuilt sameEntry]
        have names : RenamesNames r (q.Meets <| .subquery ·)
            (LowerM.lookUp db q.subqueries (unvisited.erase name))
            (LowerM.lookUp db docs' (unvisited'.erase (r name))) doc.statement.mentions := by
          intro n hn
          have met : q.Meets (.subquery n) := .inside hname (part name doc hdoc) hn
          exact ih _ (hsize ▸ KeyMap.size_erase_lt hdoc) (part.erase name)
            (left.erase distinct hname) met rfl
        have both := (renames_statement db names).bind fun s => renames_share distinct hname doc s
        have ended := both st st' h
        rwa [run_bind, run_bind] at ended

end Names

/-! ## 4. Documents -/

namespace QueryDocument

variable {q q' : QueryDocument} {r : String → String}

/-- **A document is lowered alike under other names**, whatever stands in its table under names that
are not met. -/
theorem lower_renamed (statement : q'.statement = q.statement.rename r)
    (distinct : Set.InjOn r {name | q.Meets (.subquery name)})
    (tables : RenamesTable r (q.Meets <| .subquery ·) q.subqueries q'.subqueries) (db : Db) :
    q'.lower db = (q.lower db).mapError (DocumentError.rename r) := by
  have names : LowerM.RenamesNames r (q.Meets <| .subquery ·)
      (LowerM.lookUp db q.subqueries q.subqueries) (LowerM.lookUp db q'.subqueries q'.subqueries)
      q.statement.mentions :=
    fun n hn => LowerM.renames_lookUp db distinct tables (fun _ _ h => h) tables (.here hn)
  rw [lower_eq_map, lower_eq_map, statement]
  obtain ⟨e, hs, hs'⟩ | ⟨s, next, next', hs, hs', h⟩ :=
    LowerM.renames_statement db names {} {} ⟨fun _ _ => rfl, rfl⟩
  · rw [hs, hs']
    rfl
  · rw [hs, hs']
    simp only [Except.map, Except.mapError, h.nested]

/-- Documents that are lowered alike render alike. -/
theorem render_of_lower_mapError {registry : Registry} {dialect : Dialect}
    (h : q'.lower { registry := 0, dialect }
      = (q.lower { registry := 0, dialect }).mapError (DocumentError.rename r)) :
    q'.render registry dialect = (q.render registry dialect).mapError (DocumentError.rename r) := by
  cases hl : q.lower { registry := 0, dialect } with
  | error e =>
    rw [hl] at h
    rw [render_of_lower_error hl, render_of_lower_error h]
    rfl
  | ok result =>
    obtain ⟨s, nested⟩ := result
    rw [hl] at h
    rw [render_of_lower_ok hl, render_of_lower_ok h]
    -- no error of a build tells a name
    cases ((s.build (.ofList .inCells resolve nested)).run.run (.ofRegistry registry)).1 <;> rfl

/-- The table of a renamed document has the renamed entries of the document's own table, and no
others under names that are met. -/
theorem renamesTable_rename
    (distinct : Set.InjOn r {name | name ∈ q.subqueries.keys ∨ q.Meets (.subquery name)}) :
    RenamesTable r (q.Meets <| .subquery ·) q.subqueries (q.rename r).subqueries := by
  have keys : ((q.subqueries.entries.map fun entry => (r entry.1, entry.2.rename r)).map
      (·.1)).Nodup := by
    rw [List.map_map]
    have renamed : ((q.subqueries.keys).map r).Nodup := by
      refine List.Nodup.map_on (fun a ha b hb same => ?_) q.subqueries.nodup_keys
      exact distinct (.inl ha) (.inl hb) same
    rwa [KeyMap.keys, List.map_map] at renamed
  intro name hname
  refine Option.ext fun doc' => ?_
  rw [QueryDocument.rename, KeyMap.get?_ofList_eq_some_iff keys, List.mem_map, Option.map_eq_some_iff]
  constructor
  · rintro ⟨⟨other, doc⟩, mem, same⟩
    obtain ⟨sameName, rfl⟩ := Prod.mk.inj same
    have key : other ∈ q.subqueries.keys := List.mem_map.2 ⟨_, mem, rfl⟩
    obtain rfl : other = name := distinct (.inl key) (.inr hname) sameName
    exact ⟨doc, KeyMap.get?_eq_some_iff.2 mem, rfl⟩
  · rintro ⟨doc, hdoc, rfl⟩
    exact ⟨(name, doc), KeyMap.get?_eq_some_iff.1 hdoc, rfl⟩

/-- **The meaning of a document lies neither in names nor in what is never met.** Another document
with the same statement, whose table has the same entries for the names that are met, or none where
there is none, renders to the same. And a document renders to the same under other names, if
different names of it stay different: the same query, or the same error, which tells the other name
if it tells any. -/
theorem render_up_to_names (q : QueryDocument) (registry : Registry) (dialect : Dialect) :
    (∀ q' : QueryDocument, q'.statement = q.statement →
      (∀ name, q.Meets (.subquery name) → q'.subqueries.get? name = q.subqueries.get? name) →
      q'.render registry dialect = q.render registry dialect) ∧
    ∀ r : String → String,
      Set.InjOn r {name | name ∈ q.subqueries.keys ∨ q.Meets (.subquery name)} →
      (q.rename r).render registry dialect
        = (q.render registry dialect).mapError (DocumentError.rename r) := by
  constructor
  · intro q' statement entries
    have sameStatement : q'.statement = q.statement.rename id := by
      rw [StatementDoc.rename_id]
      exact statement
    have tables : RenamesTable id (q.Meets <| .subquery ·) q.subqueries q'.subqueries := by
      intro name hname
      rw [SubqueryDoc.rename_id, Option.map_id, id_eq]
      exact entries name hname
    have same : q'.render registry dialect
        = (q.render registry dialect).mapError (DocumentError.rename id) :=
      render_of_lower_mapError
        (lower_renamed sameStatement (Set.injOn_id _) tables { registry := 0, dialect })
    rw [same, DocumentError.rename_id]
    cases q.render registry dialect <;> rfl
  · intro r distinct
    have met : Set.InjOn r {name | q.Meets (.subquery name)} := distinct.mono fun _ => .inr
    exact render_of_lower_mapError
      (lower_renamed rfl met (renamesTable_rename distinct) { registry := 0, dialect })

/-- Two names that are met, and one that is not and could not be lowered. -/
def strayed : QueryDocument where
  statement :=
    { entity := some "user", filters := [.keyword "exists" "outer", .keyword "exists" "base"] }
  subqueries := .ofList
    [("base", { statement := { entity := some "user" }, aliasName := some "u" }),
      ("outer", { statement := { entity := some "user", source := some (.table (.subquery "base")) } }),
      ("stray", { statement := { filters := [.unary "nonsense" (.subquery "stray")] } })]

theorem render_up_to_names_strayed :
    let users : Registry :=
      { named := KeyMap.empty.insert "user" { tableName := "users", fields := [("Id", "id")] } }
    let tidy : QueryDocument := { strayed with subqueries := strayed.subqueries.erase "stray" }
    let turned := strayed.rename (Equiv.swap "base" "outer")
    tidy.render users BaseDialect.mysql.toDialect = strayed.render users BaseDialect.mysql.toDialect ∧
      turned.render users BaseDialect.mysql.toDialect
        = (strayed.render users BaseDialect.mysql.toDialect).mapError
            (DocumentError.rename (Equiv.swap "base" "outer")) ∧
      (strayed.render users BaseDialect.mysql.toDialect).toOption.map Query.sql
        = some ("SELECT * FROM `users` WHERE EXISTS (SELECT * FROM (SELECT * FROM `users`) AS `u`) "
          ++ "AND EXISTS (SELECT * FROM `users`);") := by
  intro users tidy turned
  have met : ∀ name, strayed.Meets (.subquery name) → name ≠ "stray" := by
    intro name met
    refine Meets.name_induction (P := (· ≠ "stray")) ?here ?inside met
    case here =>
      rintro name hm rfl
      simp [strayed, StatementDoc.mentions, ExprDoc.mentions] at hm
    case inside =>
      rintro outer doc name ih defined hm rfl
      rw [strayed, KeyMap.get?_ofList_eq_some_iff (by decide)] at defined
      simp only [List.mem_cons, Prod.mk.injEq, List.not_mem_nil, or_false] at defined
      obtain ⟨-, rfl⟩ | ⟨-, rfl⟩ | ⟨rfl, -⟩ := defined
      · simp [StatementDoc.mentions] at hm
      · simp [StatementDoc.mentions, SourceDoc.mentions, TableDoc.mentions] at hm
      · exact ih rfl
  obtain ⟨unmet, renamed⟩ := render_up_to_names strayed users BaseDialect.mysql.toDialect
  refine ⟨unmet tidy rfl fun name h => ?_, renamed _ (Equiv.injective _).injOn, by decide +kernel⟩
  exact (KeyMap.get?_erase _ _ _).trans (if_neg (met name h))

end QueryDocument

end SqlSelect
