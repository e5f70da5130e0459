import SqlSelect.Proofs.Defects
/-!
# What lowering results in

While a document is lowered, names get references one after the other, and a name keeps the reference
that it got. So what a statement was lowered to can be said from the end: each name in it stands for
the reference that it has when everything has been lowered. `Mentions` says what lowering does to its
state; here is what it leaves as its result.

* `StatementDoc.lowered` -- a statement, given what every name stands for: a plain function, in which
  nothing fails;
* `Lowered.Extends` -- names keep their references;
* `LowerM.Yields` -- a result that is said by a plain function of the references at the end;
* `LowerM.yields_statement`, `LowerM.yields_lookUp` -- of a statement, and of a name;
* `QueryDocument.lower_ok` -- of a document: `found_of_meets` and `places_of_run` say it of the run of
  its own statement.
-/

namespace SqlSelect

/-! ## 1. Statements, given what names stand for -/

section Lowered

variable (ref : String → Subquery)

/-- A source of columns. -/
def TableDoc.lowered : TableDoc → TableRef
  | subquery name => .subquery (ref name)
  | entity name aliasName => .table { entity := .named name, aliasName := nonEmpty aliasName }

/-- A column. -/
def ColumnDoc.lowered (c : ColumnDoc) : Column :=
  { name := c.name, table := c.table.map (TableDoc.lowered ref), aliasName := c.aliasName }

/-- An aggregate. -/
def AggregateDoc.lowered (a : AggregateDoc) : Aggregate :=
  { function := Text.uppercase a.function, field := a.field,
    table := a.table.map (TableDoc.lowered ref), aliasName := a.aliasName }

/-- An expression; a text that names no operator stands for any of them. -/
def ExprDoc.lowered : ExprDoc → Expr
  | column c => .column (c.lowered ref)
  | value v => .value v
  | raw r => .raw r
  | aggregate a => .aggregate (a.lowered ref)
  | unary text x => .apply ((Operator.ofText? text).getD default) (lowered x)
  | binary text x y => .combine ((Operator.ofText? text).getD default) (lowered x) (lowered y)
  | subquery name => .subquery (ref name)
  | keyword text name => .keyword { keyword := LowerM.keyword text, subquery := ref name }

/-- An item of a `SELECT` list. -/
def SelectDoc.lowered : SelectDoc → Selectable
  | column c => .column (c.lowered ref)
  | aggregate a => .aggregate (a.lowered ref)
  | raw r => .raw r

/-- The source of the rows. -/
def SourceDoc.lowered : SourceDoc → Source
  | verbatim text => if text = "" then .entity else .verbatim text
  | table t => .reference (t.lowered ref)

/-- A column to order by; a text that names no direction stands for any of them. -/
def OrderDoc.lowered (o : OrderDoc) : OrderBy :=
  { column := o.column.lowered ref, dir := (SortDir.ofText? o.dir).getD default }

/-- A statement. -/
def StatementDoc.lowered (db : Db) (s : StatementDoc) : Selector where
  db
  entity := s.entity.map .named
  columns := s.select.map (SelectDoc.lowered ref)
  source := s.source.elim .entity (SourceDoc.lowered ref)
  filters := s.filters.map (ExprDoc.lowered ref)
  groupBy := s.groupBy.map (ColumnDoc.lowered ref)
  having := s.having.map (ExprDoc.lowered ref)
  orderBy := s.orderBy.map (OrderDoc.lowered ref)
  limit := s.limit
  offset := s.offset

end Lowered

/-! ## 2. Names keep their references -/

namespace Lowered

/-- Every name that has a reference keeps it. -/
def Extends (before after : Lowered) : Prop :=
  ∀ name reference, before.built.get? name = some reference →
    after.built.get? name = some reference

theorem Extends.refl (st : Lowered) : st.Extends st := fun _ _ h => h

theorem Extends.trans {a b c : Lowered} (first : a.Extends b) (second : b.Extends c) :
    a.Extends c :=
  fun name reference h => second name reference (first name reference h)

/-- The reference of a name, if it has one yet. -/
def reference (st : Lowered) (name : String) : Subquery := (st.built.get? name).getD default

theorem reference_of_get? {st : Lowered} {name : String} {r : Subquery}
    (h : st.built.get? name = some r) : st.reference name = r := by
  rw [reference, h, Option.getD_some]

end Lowered

/-! ## 3. Results -/

namespace LowerM

variable {α β : Type}

/-- Where the computation succeeds, names have kept their references, and its result is what `say`
makes of the references at the end, and of those at any later time. -/
def Yields (x : LowerM α) (say : (String → Subquery) → α) : Prop :=
  ∀ st a st', x.run st = .ok (a, st') →
    st.Extends st' ∧ ∀ later, st'.Extends later → a = say later.reference

namespace Yields

variable {x : LowerM α} {say : (String → Subquery) → α}

theorem ofPure (a : α) : Yields (pure a) fun _ => a := by
  intro st b st' h
  cases h
  exact ⟨.refl st, fun _ _ => rfl⟩

theorem bind {f : α → LowerM β} {say' : α → (String → Subquery) → β} (hx : Yields x say)
    (hf : ∀ a, Yields (f a) (say' a)) : Yields (x >>= f) fun ref => say' (say ref) ref := by
  intro st b st'' h
  rw [run_bind] at h
  cases hr : x.run st with
  | error e =>
    rw [hr] at h
    cases h
  | ok r =>
    rw [hr] at h
    obtain ⟨first, said⟩ := hx st r.1 r.2 hr
    obtain ⟨second, said'⟩ := hf r.1 r.2 b st'' h
    refine ⟨first.trans second, fun later hlater => ?_⟩
    dsimp only
    rw [← said later (second.trans hlater)]
    exact said' later hlater

theorem thenPure (hx : Yields x say) (f : α → β) :
    Yields (x >>= fun a => pure (f a)) fun ref => f (say ref) :=
  hx.bind fun a => .ofPure (f a)

theorem mapM {f : α → LowerM β} {say : α → (String → Subquery) → β}
    (hf : ∀ a, Yields (f a) (say a)) (as : List α) :
    Yields (as.mapM f) fun ref => as.map (say · ref) := by
  induction as with
  | nil => exact ofPure []
  | cons a as ih =>
    rw [List.mapM_cons]
    exact (hf a).bind fun _ => ih.thenPure _

end Yields

section Parts

variable {lookUp : String → LowerM Subquery} (names : ∀ name, Yields (lookUp name) (· name))

theorem yields_operator (text : String) :
    Yields (operator text) fun _ => (Operator.ofText? text).getD default := by
  unfold operator
  cases Operator.ofText? text with
  | some op => exact .ofPure op
  | none => exact fun _ _ _ h => by cases h

include names

theorem yields_table (t : TableDoc) : Yields (table lookUp t) (t.lowered ·) := by
  cases t with
  | subquery name => exact (names name).thenPure _
  | entity entity aliasName => exact .ofPure _

theorem yields_table? (t : Option TableDoc) :
    Yields (table? lookUp t) fun ref => t.map (TableDoc.lowered ref) := by
  cases t with
  | none => exact .ofPure none
  | some t => exact (yields_table names t).thenPure some

theorem yields_column (c : ColumnDoc) : Yields (column lookUp c) (c.lowered ·) :=
  (yields_table? names c.table).thenPure _

theorem yields_aggregate (a : AggregateDoc) : Yields (aggregate lookUp a) (a.lowered ·) :=
  (yields_table? names a.table).thenPure _

theorem yields_expr (x : ExprDoc) : Yields (expr lookUp x) (x.lowered ·) := by
  induction x with
  | column c => exact (yields_column names c).thenPure _
  | value v => exact .ofPure _
  | raw r => exact .ofPure _
  | aggregate a => exact (yields_aggregate names a).thenPure _
  | unary text x ih => exact (yields_operator text).bind fun _ => ih.thenPure _
  | binary text x y ihx ihy =>
    exact (yields_operator text).bind fun _ => ihx.bind fun _ => ihy.thenPure _
  | subquery name => exact (names name).thenPure _
  | keyword text name => exact (names name).thenPure _

theorem yields_selectable (item : SelectDoc) : Yields (selectable lookUp item) (item.lowered ·) := by
  cases item with
  | column c => exact (yields_column names c).thenPure _
  | aggregate a => exact (yields_aggregate names a).thenPure _
  | raw r => exact .ofPure _

theorem yields_source (source : Option SourceDoc) :
    Yields (LowerM.source lookUp source) fun ref => source.elim .entity (SourceDoc.lowered ref) := by
  match source with
  | none => exact .ofPure _
  | some (.verbatim text) => exact .ofPure _
  | some (.table t) => exact (yields_table names t).thenPure _

theorem yields_ordering (o : OrderDoc) : Yields (ordering lookUp o) (o.lowered ·) := by
  unfold ordering
  cases h : SortDir.ofText? o.dir with
  | some dir =>
    have result := (yields_column names o.column).thenPure fun c => OrderBy.mk c dir
    simpa only [OrderDoc.lowered, h, Option.getD_some] using result
  | none => exact fun _ _ _ h => by cases h

/-- **The result of lowering a statement.** -/
theorem yields_statement (db : Db) (doc : StatementDoc) :
    Yields (statement lookUp db doc) (doc.lowered · db) :=
  (Yields.mapM (yields_selectable names) doc.select).bind fun _ =>
  (yields_source names doc.source).bind fun _ =>
  (Yields.mapM (yields_expr names) doc.filters).bind fun _ =>
  (Yields.mapM (yields_column names) doc.groupBy).bind fun _ =>
  (Yields.mapM (yields_expr names) doc.having).bind fun _ =>
  (Yields.mapM (yields_ordering names) doc.orderBy).thenPure _

end Parts

/-! ## 4. Names -/

/-- What a mention that is followed can do to the state: nothing, unless it is a name. -/
theorem follow_ok_cases {lookUp : String → LowerM Subquery} {m : Mention} {st st' : Lowered}
    (h : (follow lookUp m).run st = .ok ((), st')) :
    (st' = st ∧ ∀ name, m ≠ .subquery name) ∨
      ∃ name r, m = .subquery name ∧ (lookUp name).run st = .ok (r, st') := by
  cases m with
  | operator text =>
    refine .inl ⟨?_, fun _ => Mention.noConfusion⟩
    simp only [follow, operator] at h
    cases hop : Operator.ofText? text with
    | none =>
      rw [hop] at h
      cases h
    | some op =>
      rw [hop] at h
      cases h
      rfl
  | direction text =>
    refine .inl ⟨?_, fun _ => Mention.noConfusion⟩
    simp only [follow] at h
    cases hdir : SortDir.ofText? text with
    | none =>
      rw [hdir] at h
      cases h
    | some dir =>
      rw [hdir] at h
      cases h
      rfl
  | subquery name =>
    rw [follow, run_void] at h
    cases hn : (lookUp name).run st with
    | error e =>
      rw [hn] at h
      cases h
    | ok r =>
      rw [hn] at h
      cases h
      exact .inr ⟨name, r.1, rfl, hn⟩

/-- The invariant of names that a statement keeps if looking up its names does. -/
theorem statement_keeps_of_mentioned {lookUp : String → LowerM Subquery} {I : Lowered → Prop}
    {db : Db} {doc : StatementDoc}
    (names : ∀ name, .subquery name ∈ doc.mentions → ∀ st r st', I st →
      (lookUp name).run st = .ok (r, st') → I st')
    {st st' : Lowered} {s : Selector} (hst : I st)
    (h : (statement lookUp db doc).run st = .ok (s, st')) : I st' := by
  have step : ∀ m ∈ doc.mentions, ∀ st st', I st → (follow lookUp m).run st = .ok ((), st') →
      I st' ∧ True := by
    intro m hm st st' hst h
    obtain ⟨rfl, -⟩ | ⟨name, r, rfl, found⟩ := follow_ok_cases h
    · exact ⟨hst, trivial⟩
    · exact ⟨names name hm st r st' hst found, trivial⟩
  exact (follow_ok step hst (run_ok_of_follows (follows_statement db doc) h)).1

/-- The invariant of names that a statement keeps if looking up any name does. -/
theorem statement_keeps {lookUp : String → LowerM Subquery} {I : Lowered → Prop}
    (names : ∀ name st r st', I st → (lookUp name).run st = .ok (r, st') → I st')
    {db : Db} {doc : StatementDoc} {st st' : Lowered} {s : Selector} (hst : I st)
    (h : (statement lookUp db doc).run st = .ok (s, st')) : I st' :=
  statement_keeps_of_mentioned (fun name _ => names name) hst h

/-- Names keep their references while mentions are followed. -/
theorem follow_extends {lookUp : String → LowerM Subquery}
    (names : ∀ name, Yields (lookUp name) (· name)) {ms : List Mention} {st st' : Lowered}
    (h : (forM ms (follow lookUp)).run st = .ok ((), st')) : st.Extends st' := by
  refine (follow_ok (I := fun now => st.Extends now) (Q := fun _ => True) ?_ (.refl st) h).1
  intro m _ now next hnow h
  obtain ⟨rfl, -⟩ | ⟨name, r, -, h⟩ := follow_ok_cases h
  · exact ⟨hnow, trivial⟩
  · exact ⟨hnow.trans (names name now r next h).1, trivial⟩

section Names

variable {db : Db} {docs unvisited : KeyMap SubqueryDoc} {name : String} {st st' : Lowered}
  {r : Subquery}

/-- **What a successful look-up can have come to**: the name had its reference, or its statement was
lowered and got the next number. -/
theorem lookUp_ok_cases (h : (LowerM.lookUp db docs unvisited name).run st = .ok (r, st')) :
    (st.built.get? name = some r ∧ st' = st) ∨
      ∃ doc s mid, st.built.get? name = none ∧ unvisited.get? name = some doc ∧
        (statement (LowerM.lookUp db docs (unvisited.erase name)) db doc.statement).run st
          = .ok (s, mid) ∧
        r = { node := mid.nested.length, columns := doc.columns,
              aliasName := nonEmpty doc.aliasName } ∧
        st' = { built := mid.built.insert name r, nested := mid.nested ++ [s] } := by
  cases hbuilt : st.built.get? name with
  | some reference =>
    cases (run_lookUp_built hbuilt).symm.trans h
    exact .inl ⟨rfl, rfl⟩
  | none =>
    cases hdoc : unvisited.get? name with
    | none => cases (run_lookUp_visited hbuilt hdoc).symm.trans h
    | some doc =>
      rw [run_lookUp_unvisited hbuilt hdoc] at h
      cases hs : (statement (LowerM.lookUp db docs (unvisited.erase name)) db
          doc.statement).run st with
      | error e =>
        rw [hs] at h
        cases h
      | ok result =>
        rw [hs] at h
        cases h
        exact .inr ⟨doc, result.1, result.2, rfl, rfl, hs, rfl, rfl⟩

/-- Looking up a name gives references to unvisited names only. -/
theorem lookUp_keeps {P : String → Prop} (hP : ∀ n doc, unvisited.get? n = some doc → P n)
    (hst : ∀ n reference, st.built.get? n = some reference → P n)
    (h : (LowerM.lookUp db docs unvisited name).run st = .ok (r, st')) :
    ∀ n reference, st'.built.get? n = some reference → P n := by
  induction hsize : unvisited.size using Nat.strongRecOn generalizing unvisited name st st' r with
  | _ size ih =>
    obtain ⟨-, rfl⟩ | ⟨doc, s, mid, -, hdoc, hs, -, rfl⟩ := lookUp_ok_cases h
    · exact hst
    · have inside : ∀ n doc, (unvisited.erase name).get? n = some doc → P n := by
        intro n doc' hn
        rw [KeyMap.get?_erase] at hn
        split at hn
        · cases hn
        · exact hP n doc' hn
      have kept := statement_keeps (I := fun st => ∀ n reference,
        st.built.get? n = some reference → P n) (fun n st r st' hst h =>
          ih _ (hsize ▸ KeyMap.size_erase_lt hdoc) inside hst h rfl) hst hs
      intro n reference hn
      rw [KeyMap.get?_insert] at hn
      split at hn
      · next same => exact same ▸ hP name doc hdoc
      · exact kept n reference hn

/-- While its statement is lowered, a name gets no reference. -/
theorem statement_fresh {doc : StatementDoc} {s : Selector} {mid : Lowered}
    (hbuilt : st.built.get? name = none)
    (hs : (statement (LowerM.lookUp db docs (unvisited.erase name)) db doc).run st
      = .ok (s, mid)) : mid.built.get? name = none := by
  have others := statement_keeps (I := fun st => ∀ n reference,
    st.built.get? n = some reference → n ≠ name) (fun n st r st' hst h =>
      lookUp_keeps (fun n doc hn same => by
        rw [KeyMap.get?_erase, if_pos same] at hn
        cases hn) hst h) (fun n reference hn same => by
        rw [same, hbuilt] at hn
        cases hn) hs
  cases hmid : mid.built.get? name with
  | none => rfl
  | some reference => exact absurd rfl (others name reference hmid)

/-- **The result of looking up a name** is its reference. -/
theorem yields_lookUp (db : Db) (docs unvisited : KeyMap SubqueryDoc) (name : String) :
    Yields (LowerM.lookUp db docs unvisited name) (· name) := by
  induction hsize : unvisited.size using Nat.strongRecOn generalizing unvisited name with
  | _ size ih =>
    intro st r st' h
    obtain ⟨hbuilt, rfl⟩ | ⟨doc, s, mid, hbuilt, hdoc, hs, rfl, rfl⟩ := lookUp_ok_cases h
    · exact ⟨.refl st', fun later hlater => (Lowered.reference_of_get? (hlater name r hbuilt)).symm⟩
    · have inside := yields_statement (fun n => ih _ (hsize ▸ KeyMap.size_erase_lt hdoc)
        (unvisited.erase name) n rfl) db doc.statement
      refine ⟨fun n reference hn => ?_, fun later hlater => ?_⟩
      · have kept := (inside st s mid hs).1 n reference hn
        rw [KeyMap.get?_insert, if_neg]
        · exact kept
        · intro same
          rw [same, hbuilt] at hn
          cases hn
      · have own := hlater name _ (by rw [KeyMap.get?_insert, if_pos rfl])
        exact (Lowered.reference_of_get? own).symm

/-- A name that was looked up has the reference that was found. -/
theorem lookUp_found (h : (LowerM.lookUp db docs unvisited name).run st = .ok (r, st')) :
    st'.built.get? name = some r := by
  obtain ⟨hbuilt, rfl⟩ | ⟨doc, s, mid, -, -, -, -, rfl⟩ := lookUp_ok_cases h
  · exact hbuilt
  · rw [KeyMap.get?_insert, if_pos rfl]

/-- The names in a statement that was lowered have references. -/
theorem mentions_found {doc : StatementDoc} {s : Selector}
    (hs : (statement (LowerM.lookUp db docs unvisited) db doc).run st = .ok (s, st')) :
    ∀ n, .subquery n ∈ doc.mentions → ∃ reference, st'.built.get? n = some reference := by
  have followed := run_ok_of_follows (follows_statement db doc) hs
  clear hs
  generalize doc.mentions = ms at followed
  induction ms generalizing st with
  | nil => exact fun n hn => absurd hn List.not_mem_nil
  | cons m ms ih =>
    rw [List.forM_cons, run_bind] at followed
    cases hm : (follow (LowerM.lookUp db docs unvisited) m).run st with
    | error e =>
      rw [hm] at followed
      cases followed
    | ok result =>
      rw [hm] at followed
      intro n hn
      rcases List.mem_cons.1 hn with rfl | hn
      · obtain ⟨-, other⟩ | ⟨n', r, same, hlook⟩ := follow_ok_cases hm
        · exact absurd rfl (other n)
        · cases same
          -- a name that has been found keeps its reference while the others are followed
          have kept := follow_extends (fun n => yields_lookUp db docs unvisited n) followed
          exact ⟨r, kept n r (lookUp_found hlook)⟩
      · exact ih followed n hn

end Names

end LowerM

/-! ## 5. The layout of what has been lowered -/

namespace Lowered

/-- A reference that a name has: it is laid out as the name's entry says, its number is that of a
statement that was lowered from the entry, and the names in there have smaller numbers. -/
structure Stands (docs : KeyMap SubqueryDoc) (db : Db) (st : Lowered) (name : String)
    (reference : Subquery) (doc : SubqueryDoc) : Prop where
  defined : docs.get? name = some doc
  columns : reference.columns = doc.columns
  aliasName : reference.aliasName = nonEmpty doc.aliasName
  statement : ∀ later, st.Extends later →
    st.nested[reference.node]? = some (doc.statement.lowered later.reference db)
  names : ∀ n, .subquery n ∈ doc.statement.mentions →
    ∃ inner, st.built.get? n = some inner ∧ inner.node < reference.node

/-- Every reference stands for a statement. -/
def Laid (docs : KeyMap SubqueryDoc) (db : Db) (st : Lowered) : Prop :=
  ∀ name reference, st.built.get? name = some reference →
    ∃ doc, st.Stands docs db name reference doc

variable {docs : KeyMap SubqueryDoc} {db : Db} {st st' : Lowered}

theorem Stands.mono {name : String} {reference : Subquery} {doc : SubqueryDoc}
    (h : st.Stands docs db name reference doc) (names : st.Extends st')
    (nested : st.nested <+: st'.nested) : st'.Stands docs db name reference doc where
  defined := h.defined
  columns := h.columns
  aliasName := h.aliasName
  statement later hlater := by
    obtain ⟨more, grown⟩ := nested
    have before := h.statement later (names.trans hlater)
    rw [← grown, List.getElem?_append_left (List.getElem?_eq_some_iff.1 before).1, before]
  names n hn := by
    obtain ⟨inner, hinner, below⟩ := h.names n hn
    exact ⟨inner, names n inner hinner, below⟩

end Lowered

namespace LowerM

variable {db : Db} {docs unvisited : KeyMap SubqueryDoc} {st st' : Lowered}

/-- **Looking up a name keeps to the layout**, and only adds statements behind the others. -/
theorem lookUp_laid {name : String} {r : Subquery}
    (part : ∀ n doc, unvisited.get? n = some doc → docs.get? n = some doc)
    (hst : st.Laid docs db)
    (h : (LowerM.lookUp db docs unvisited name).run st = .ok (r, st')) :
    st'.Laid docs db ∧ st.nested <+: st'.nested := by
  induction hsize : unvisited.size using Nat.strongRecOn generalizing unvisited name st st' r with
  | _ size ih =>
    obtain ⟨-, rfl⟩ | ⟨doc, s, mid, hbuilt, hdoc, hs, hr, rfl⟩ := lookUp_ok_cases h
    · exact ⟨hst, List.prefix_rfl⟩
    · have inside : ∀ n doc, (unvisited.erase name).get? n = some doc → docs.get? n = some doc := by
        intro n doc' hn
        rw [KeyMap.get?_erase] at hn
        split at hn
        · cases hn
        · exact part n doc' hn
      obtain ⟨laid, grown⟩ := statement_keeps
        (I := fun now => now.Laid docs db ∧ st.nested <+: now.nested)
        (fun n now r next hnow h => by
          obtain ⟨laid, grown⟩ := ih _ (hsize ▸ KeyMap.size_erase_lt hdoc) inside hnow.1 h rfl
          exact ⟨laid, hnow.2.trans grown⟩) ⟨hst, List.prefix_rfl⟩ hs
      have fresh : mid.built.get? name = none := statement_fresh hbuilt hs
      have extended : mid.Extends { built := mid.built.insert name r, nested := mid.nested ++ [s] } := by
        intro n reference hn
        rw [KeyMap.get?_insert, if_neg]
        · exact hn
        · intro same
          rw [same, fresh] at hn
          cases hn
      have behind : mid.nested <+: mid.nested ++ [s] := List.prefix_append _ _
      refine ⟨fun n reference hn => ?_, grown.trans behind⟩
      rw [KeyMap.get?_insert] at hn
      split at hn
      · next same =>
        cases hn
        subst same hr
        refine ⟨doc, part n doc hdoc, rfl, rfl, fun later hlater => ?_, fun m hm => ?_⟩
        · have result := (yields_statement (yields_lookUp db docs (unvisited.erase n)) db
            doc.statement st s mid hs).2 later (extended.trans hlater)
          exact List.getElem?_concat_length.trans (congrArg some result)
        · obtain ⟨inner, hinner⟩ := mentions_found hs m hm
          obtain ⟨innerDoc, stands⟩ := laid m inner hinner
          have there := stands.statement mid (.refl mid)
          exact ⟨inner, extended m inner hinner, (List.getElem?_eq_some_iff.1 there).1⟩
      · obtain ⟨doc', stands⟩ := laid n reference hn
        exact ⟨doc', stands.mono extended behind⟩

end LowerM

/-! ## 6. Documents -/

/-- What `ref` says of a name of a document: the statement of the name is in the list, lowered, and
the names in it have smaller numbers. -/
structure QueryDocument.Places (q : QueryDocument) (db : Db) (nested : List Selector)
    (ref : String → Subquery) (name : String) (doc : SubqueryDoc) : Prop where
  defined : q.subqueries.get? name = some doc
  columns : (ref name).columns = doc.columns
  aliasName : (ref name).aliasName = nonEmpty doc.aliasName
  statement : nested[(ref name).node]? = some (doc.statement.lowered ref db)
  below : ∀ n, .subquery n ∈ doc.statement.mentions → (ref n).node < (ref name).node

/-- The list has a place for every name of a document that is met. -/
def QueryDocument.PlacesAll (q : QueryDocument) (db : Db) (nested : List Selector)
    (ref : String → Subquery) : Prop :=
  ∀ name, q.Meets (.subquery name) → ∃ doc, q.Places db nested ref name doc

namespace QueryDocument

section Run

variable {q : QueryDocument} {db : Db} {s : Selector} {st : Lowered}
  (hs : (LowerM.statement (LowerM.lookUp db q.subqueries q.subqueries) db q.statement).run {}
    = .ok (s, st))

include hs

theorem laid_of_run : st.Laid q.subqueries db :=
  LowerM.statement_keeps (fun _ _ _ _ hnow h => (LowerM.lookUp_laid (fun _ _ h => h) hnow h).1)
    (fun _ _ hn => by cases hn) hs

/-- A name that is met has a reference in the end. -/
theorem found_of_meets {name : String} (met : q.Meets (.subquery name)) :
    ∃ reference, st.built.get? name = some reference := by
  refine Meets.name_induction (LowerM.mentions_found hs) ?inside met
  case inside =>
    rintro outer doc name ⟨reference, hbuilt⟩ defined hm
    obtain ⟨doc', stands⟩ := laid_of_run hs outer reference hbuilt
    obtain rfl : doc' = doc := Option.some.inj (stands.defined.symm.trans defined)
    obtain ⟨inner, hinner, -⟩ := stands.names name hm
    exact ⟨inner, hinner⟩

/-- The references in the end have a place for every name that is met. -/
theorem places_of_run : q.PlacesAll db st.nested st.reference := by
  intro name met
  obtain ⟨reference, hbuilt⟩ := found_of_meets hs met
  obtain ⟨doc, stands⟩ := laid_of_run hs name reference hbuilt
  have same : st.reference name = reference := Lowered.reference_of_get? hbuilt
  refine ⟨doc, stands.defined, same ▸ stands.columns, same ▸ stands.aliasName,
    same ▸ stands.statement st (.refl st), fun n hn => ?_⟩
  obtain ⟨inner, hinner, below⟩ := stands.names n hn
  rw [same, Lowered.reference_of_get? hinner]
  exact below

theorem lowered_of_run : s = q.statement.lowered st.reference db :=
  (LowerM.yields_statement (LowerM.yields_lookUp db q.subqueries q.subqueries) db
    q.statement {} s st hs).2 st (.refl st)

end Run

/-- A document that is lowered was lowered by a run of its own statement. -/
theorem run_of_lower {q : QueryDocument} {db : Db} {s : Selector} {nested : List Selector}
    (h : q.lower db = .ok (s, nested)) :
    ∃ st, (LowerM.statement (LowerM.lookUp db q.subqueries q.subqueries) db q.statement).run {}
      = .ok (s, st) ∧ st.nested = nested := by
  rw [lower_eq_map] at h
  cases hs : (LowerM.statement (LowerM.lookUp db q.subqueries q.subqueries) db q.statement).run {} with
  | error e =>
    rw [hs] at h
    cases h
  | ok result =>
    rw [hs] at h
    cases h
    exact ⟨result.2, rfl, rfl⟩

/-- **What a document is lowered to**: its statement with a reference for each name, and a list that
has a place for each name that is met. -/
theorem lower_ok {q : QueryDocument} {db : Db} {s : Selector} {nested : List Selector}
    (h : q.lower db = .ok (s, nested)) :
    ∃ ref, s = q.statement.lowered ref db ∧ q.PlacesAll db nested ref := by
  obtain ⟨st, hs, rfl⟩ := run_of_lower h
  exact ⟨st.reference, lowered_of_run hs, places_of_run hs⟩

end QueryDocument

/-! ## 7. Rendering -/

namespace QueryDocument

variable {q : QueryDocument} {dialect : Dialect}

theorem render_of_lower_error {e : DocumentError}
    (h : q.lower { registry := 0, dialect } = .error e) (registry : Registry) :
    q.render registry dialect = .error e := by
  rw [render, h]
  rfl

/-- A document that was lowered renders to what its statement is built to. -/
theorem render_of_lower_ok {s : Selector} {nested : List Selector}
    (h : q.lower { registry := 0, dialect } = .ok (s, nested)) (registry : Registry) :
    q.render registry dialect
      = ((s.build (.ofList .inCells resolve nested)).run.run (.ofRegistry registry)).1.mapError
          DocumentError.build := by
  rw [render, h]
  simp only [bind, Except.bind]
  rcases (s.build (.ofList .inCells resolve nested)).run.run (.ofRegistry registry) with ⟨e | query, _⟩
  · rfl
  · rfl

end QueryDocument

end SqlSelect
