import Mathlib.Data.List.Nodup
import SqlSelect.Proofs.Builder
import SqlSelect.Proofs.Growth
import SqlSelect.Proofs.References
/-!
# Statements of the builder as documents

A statement that the builder makes can be written down as a document, node by node, if every nested
statement has a name of its own. Two things are to be seen. Lowering understands every text in the
document and every name is there and does not lead back to itself, because a nested statement refers
only to those made before it. And what the document is lowered to is the statement again, although
its nested statements may be laid out in another order.

* `Selector.transcribe`, `transcription` -- a statement as a document, given the names;
* `Selector.Made.lowered_transcribe` -- lowering takes back what was written down;
* `Selector.Made.mentions_transcribe` -- all that lowering has to understand in it;
* `places_transcription` -- the nested statements in the builder's order have a place for each name;
* `render_transcription` -- the document renders to what the statement is built to.
-/

namespace SqlSelect

/-! ## 1. Writing a statement down -/

/-- The text for a direction in documents. -/
def SortDir.text : SortDir → String
  | asc => "ASC"
  | desc => "DESC"

section Transcribe

variable (name : Nat → String)

/-- A source of columns; a nested statement is referred to by its name. -/
def TableRef.transcribe : TableRef → TableDoc
  | table t => .entity t.entity.name t.aliasName
  | subquery s => .subquery (name s.node)

/-- A column. -/
def Column.transcribe (c : Column) : ColumnDoc :=
  { name := c.name, table := c.table.map (TableRef.transcribe name), aliasName := c.aliasName }

/-- An aggregate. -/
def Aggregate.transcribe (a : Aggregate) : AggregateDoc :=
  { function := a.function, field := a.field, table := a.table.map (TableRef.transcribe name),
    aliasName := a.aliasName }

/-- An expression. A document names operators by their keys, and it leaves out the kinds of nodes and
the blank behind a keyword. -/
def Expr.transcribe : Expr → ExprDoc
  | column c => .column (c.transcribe name)
  | value v => .value v
  | raw r => .raw r
  | aggregate a => .aggregate (a.transcribe name)
  | subquery s => .subquery (name s.node)
  | keyword k => .keyword (Text.trim k.keyword) (name k.subquery.node)
  | unary _ op x => .unary op.key (transcribe x)
  | binary _ op x y => .binary op.key (transcribe x) (transcribe y)

/-- An item of a `SELECT` list. -/
def Selectable.transcribe : Selectable → SelectDoc
  | column c => .column (c.transcribe name)
  | aggregate a => .aggregate (a.transcribe name)
  | raw r => .raw r

/-- The source of the rows, which is left out if it is the entity's own table. -/
def Source.transcribe : Source → Option SourceDoc
  | entity => none
  | verbatim text => some (.verbatim text)
  | reference t => some (.table (t.transcribe name))

/-- A column to order by. -/
def OrderBy.transcribe (o : OrderBy) : OrderDoc :=
  { column := o.column.transcribe name, dir := o.dir.text }

/-- A statement, clause by clause. -/
def Selector.transcribe (s : Selector) : StatementDoc where
  entity := s.entity.map EntityKey.name
  select := s.columns.map (Selectable.transcribe name)
  source := s.source.transcribe name
  filters := s.filters.map (Expr.transcribe name)
  groupBy := s.groupBy.map (Column.transcribe name)
  having := s.having.map (Expr.transcribe name)
  orderBy := s.orderBy.map (OrderBy.transcribe name)
  limit := s.limit
  offset := s.offset

/-- A nested statement with what its references share. -/
def Draft.transcribe (d : Draft) : SubqueryDoc :=
  { statement := d.selector.transcribe name, aliasName := d.aliasName, columns := d.columns }

/-- **The document of a statement**, with the nested statements under their names. -/
def transcription (drafts : List Draft) (s : Selector) : QueryDocument where
  statement := s.transcribe name
  subqueries := .ofList (drafts.map fun d => (name d.number, d.transcribe name))

end Transcribe

/-! ## 2. Lowering takes back what was written down -/

theorem Operator.ofText?_key (op : Operator) : ofText? op.key = some op := by
  cases op <;> decide +kernel

theorem SortDir.ofText?_text (dir : SortDir) : ofText? dir.text = some dir := by
  cases dir <;> rfl

theorem Table.Made.eq_named {t : Table} (h : t.Made) :
    ∃ entity aliasName, t = { entity := .named entity, aliasName := nonEmpty aliasName } := by
  induction h with
  | named entity => exact ⟨entity, none, rfl⟩
  | withAlias h aliasName ih =>
    obtain ⟨entity, _, rfl⟩ := ih
    exact ⟨entity, some aliasName, rfl⟩

/-- The functions there are, as they are written. -/
def Aggregate.functions : List String := ["AVG", "SUM", "COUNT", "MIN", "MAX"]

/-- The keywords there are, as they are written. -/
def KeywordSubquery.keywords : List String := ["EXISTS ", "NOT EXISTS ", "ANY ", "ALL ", "SOME "]

theorem uppercase_of_mem_functions : ∀ f ∈ Aggregate.functions, Text.uppercase f = f := by
  decide +kernel

theorem keyword_trim_of_mem_keywords :
    ∀ k ∈ KeywordSubquery.keywords, LowerM.keyword (Text.trim k) = k := by
  decide +kernel

section TakeBack

variable {available : Subquery → Prop} {name : Nat → String} {ref : String → Subquery}
  (back : ∀ r, available r → ref (name r.node) = r)

include back

theorem TableRef.Made.lowered_transcribe {t : TableRef} (h : t.Made available) :
    (t.transcribe name).lowered ref = t := by
  cases h with
  | table h =>
    obtain ⟨entity, aliasName, rfl⟩ := h.eq_named
    simp only [TableRef.transcribe, TableDoc.lowered, EntityKey.name, nonEmpty_nonEmpty]
  | subquery h => simp only [TableRef.transcribe, TableDoc.lowered, back _ h]

theorem Column.Made.lowered_transcribe {c : Column} (h : c.Made available) :
    (c.transcribe name).lowered ref = c := by
  induction h with
  | named name => rfl
  | of h ht ih =>
    simp only [Column.transcribe, ColumnDoc.lowered, Column.of, Option.map_some,
      ht.lowered_transcribe back]
  | withAlias h aliasName ih =>
    simpa only [Column.transcribe, ColumnDoc.lowered, Column.withAlias, Column.mk.injEq, true_and,
      and_true] using congrArg Column.table ih

theorem Aggregate.Made.lowered_transcribe {a : Aggregate} (h : a.Made available) :
    (a.transcribe name).lowered ref = a := by
  have function : a.function ∈ functions := by
    induction h with
    | avg field | sum field | count field | min field | max field =>
      simp [functions, Aggregate.avg, Aggregate.sum, Aggregate.count, Aggregate.min, Aggregate.max]
    | of h ht ih => exact ih
    | withAlias h aliasName ih => exact ih
  have table : (a.table.map (TableRef.transcribe name)).map (TableDoc.lowered ref) = a.table := by
    clear function
    induction h with
    | avg field | sum field | count field | min field | max field => rfl
    | of h ht ih => simp only [Aggregate.of, Option.map_some, ht.lowered_transcribe back]
    | withAlias h aliasName ih => exact ih
  simp only [Aggregate.transcribe, AggregateDoc.lowered, uppercase_of_mem_functions _ function, table]

theorem KeywordSubquery.Made.lowered_transcribe {k : KeywordSubquery} (h : k.Made available) :
    ((Expr.keyword k).transcribe name).lowered ref = .keyword k := by
  have spelled : k.keyword ∈ KeywordSubquery.keywords := by
    cases h <;> simp [keywords, KeywordSubquery.exist, KeywordSubquery.notExist,
      KeywordSubquery.any, KeywordSubquery.all, KeywordSubquery.some]
  have found : ref (name k.subquery.node) = k.subquery := by
    cases h <;> exact back _ ‹_›
  simp only [Expr.transcribe, ExprDoc.lowered, keyword_trim_of_mem_keywords _ spelled, found]

/-- The kind of a node is the one that fits its operator, so it need not be written down. -/
theorem Expr.Made.lowered_transcribe {x : Expr} (h : x.Made available) :
    (x.transcribe name).lowered ref = x := by
  induction h with
  | column h => simp only [Expr.transcribe, ExprDoc.lowered, h.lowered_transcribe back]
  | value v => rfl
  | raw r => rfl
  | aggregate h => simp only [Expr.transcribe, ExprDoc.lowered, h.lowered_transcribe back]
  | subquery h => simp only [Expr.transcribe, ExprDoc.lowered, back _ h]
  | keyword h => exact h.lowered_transcribe back
  | apply op h ih =>
    simp only [Expr.apply, Expr.transcribe, ExprDoc.lowered, Operator.ofText?_key,
      Option.getD_some, ih]
  | combine op hx hy ihx ihy =>
    simp only [Expr.combine, Expr.transcribe, ExprDoc.lowered, Operator.ofText?_key,
      Option.getD_some, ihx, ihy]

theorem Selectable.Made.lowered_transcribe {i : Selectable} (h : i.Made available) :
    (i.transcribe name).lowered ref = i := by
  cases h with
  | column h => simp only [Selectable.transcribe, SelectDoc.lowered, h.lowered_transcribe back]
  | aggregate h => simp only [Selectable.transcribe, SelectDoc.lowered, h.lowered_transcribe back]
  | raw r => rfl

theorem Source.Made.lowered_transcribe {source : Source} (h : source.Made available) :
    (source.transcribe name).elim .entity (SourceDoc.lowered ref) = source := by
  cases h with
  | entity => rfl
  | verbatim ne => simp only [Source.transcribe, Option.elim_some, SourceDoc.lowered, if_neg ne]
  | reference h =>
    simp only [Source.transcribe, Option.elim_some, SourceDoc.lowered, h.lowered_transcribe back]

theorem OrderBy.lowered_transcribe {o : OrderBy} (h : o.column.Made available) :
    (o.transcribe name).lowered ref = o := by
  simp only [OrderBy.transcribe, OrderDoc.lowered, h.lowered_transcribe back, SortDir.ofText?_text,
    Option.getD_some]

omit back in
theorem map_map_eq_self {α β : Type} {f : α → β} {g : β → α} {as : List α}
    (h : ∀ a ∈ as, g (f a) = a) : (as.map f).map g = as := by
  rw [List.map_map]
  exact (List.map_congr_left h).trans (List.map_id as)

/-- **Lowering a statement that was written down gives it back.** -/
theorem Selector.Made.lowered_transcribe {db : Db} {s : Selector} (h : s.Made available db) :
    (s.transcribe name).lowered ref db = s := by
  obtain ⟨own, ⟨entity, named⟩, columns, source, filters, groupBy, having, orderBy⟩ := h.parts
  have entities : (s.entity.map EntityKey.name).map EntityKey.named = s.entity := by
    rw [named]
    cases entity <;> rfl
  simp only [Selector.transcribe, StatementDoc.lowered, entities, source.lowered_transcribe back,
    map_map_eq_self fun i hi => (columns i hi).lowered_transcribe back,
    map_map_eq_self fun x hx => (filters x hx).lowered_transcribe back,
    map_map_eq_self fun c hc => (groupBy c hc).lowered_transcribe back,
    map_map_eq_self fun x hx => (having x hx).lowered_transcribe back,
    map_map_eq_self fun o ho => OrderBy.lowered_transcribe back (orderBy o ho), ← own]

end TakeBack

/-! ## 3. What lowering has to understand -/

/-- The mentions of a statement that was written down. -/
inductive Mention.Written (available : Subquery → Prop) (name : Nat → String) : Mention → Prop
  | operator (op : Operator) : Written available name (.operator op.key)
  | direction (dir : SortDir) : Written available name (.direction dir.text)
  | subquery {r : Subquery} (h : available r) : Written available name (.subquery (name r.node))

section Written

variable {available : Subquery → Prop} {name : Nat → String}

theorem Mention.Written.of_subquery {key : String}
    (h : Mention.Written available name (.subquery key)) : ∃ r, available r ∧ key = name r.node := by
  cases h with
  | subquery h => exact ⟨_, h, rfl⟩

theorem TableRef.Made.mentions_transcribe {t : TableRef} (h : t.Made available) :
    ∀ m ∈ (t.transcribe name).mentions, m.Written available name := by
  cases h with
  | table h => exact fun m hm => absurd hm List.not_mem_nil
  | subquery h => exact List.forall_mem_singleton.2 (.subquery h)

theorem Column.Made.mentions_transcribe {c : Column} (h : c.Made available) :
    ∀ m ∈ (c.transcribe name).mentions, m.Written available name := by
  induction h with
  | named name => exact fun m hm => absurd hm List.not_mem_nil
  | of h ht ih => exact ht.mentions_transcribe
  | withAlias h aliasName ih => exact ih

theorem Aggregate.Made.mentions_transcribe {a : Aggregate} (h : a.Made available) :
    ∀ m ∈ (a.transcribe name).mentions, m.Written available name := by
  induction h with
  | avg field | sum field | count field | min field | max field =>
    exact fun m hm => absurd hm List.not_mem_nil
  | of h ht ih => exact ht.mentions_transcribe
  | withAlias h aliasName ih => exact ih

theorem Expr.Made.mentions_transcribe {x : Expr} (h : x.Made available) :
    ∀ m ∈ (x.transcribe name).mentions, m.Written available name := by
  induction h with
  | column h => exact h.mentions_transcribe
  | value v => exact fun m hm => absurd hm List.not_mem_nil
  | raw r => exact fun m hm => absurd hm List.not_mem_nil
  | aggregate h => exact h.mentions_transcribe
  | subquery h => exact List.forall_mem_singleton.2 (.subquery h)
  | keyword h => cases h <;> exact List.forall_mem_singleton.2 (.subquery ‹_›)
  | apply op h ih => exact List.forall_mem_cons.2 ⟨.operator op, ih⟩
  | combine op hx hy ihx ihy =>
    exact List.forall_mem_cons.2 ⟨.operator op, List.forall_mem_append.2 ⟨ihx, ihy⟩⟩

theorem Selectable.Made.mentions_transcribe {i : Selectable} (h : i.Made available) :
    ∀ m ∈ (i.transcribe name).mentions, m.Written available name := by
  cases h with
  | column h => exact h.mentions_transcribe
  | aggregate h => exact h.mentions_transcribe
  | raw r => exact fun m hm => absurd hm List.not_mem_nil

theorem Source.Made.mentions_transcribe {source : Source} (h : source.Made available) :
    ∀ m ∈ (source.transcribe name).elim [] SourceDoc.mentions, m.Written available name := by
  cases h with
  | entity => exact fun m hm => absurd hm List.not_mem_nil
  | verbatim ne => exact fun m hm => absurd hm List.not_mem_nil
  | reference h => exact h.mentions_transcribe

theorem OrderBy.mentions_transcribe {o : OrderBy} (h : o.column.Made available) :
    ∀ m ∈ (o.transcribe name).mentions, m.Written available name :=
  List.forall_mem_cons.2 ⟨.direction o.dir, h.mentions_transcribe⟩

theorem forall_mem_flatMap_map {α β γ : Type} {p : γ → Prop} {f : α → β} {g : β → List γ}
    {as : List α} (h : ∀ a ∈ as, ∀ c ∈ g (f a), p c) : ∀ c ∈ (as.map f).flatMap g, p c := by
  intro c hc
  rw [List.flatMap_map] at hc
  obtain ⟨a, ha, hc⟩ := List.mem_flatMap.1 hc
  exact h a ha c hc

/-- **What a statement that was written down mentions**: keys of operators, texts for directions, and
the names of available nested statements. -/
theorem Selector.Made.mentions_transcribe {db : Db} {s : Selector} (h : s.Made available db) :
    ∀ m ∈ (s.transcribe name).mentions, m.Written available name := by
  have parts := h.parts
  simp only [StatementDoc.mentions, List.forall_mem_append]
  refine ⟨⟨⟨⟨⟨?_, parts.source.mentions_transcribe⟩, ?_⟩, ?_⟩, ?_⟩, ?_⟩
  · exact forall_mem_flatMap_map fun i hi => (parts.columns i hi).mentions_transcribe
  · exact forall_mem_flatMap_map fun x hx => (parts.filters x hx).mentions_transcribe
  · exact forall_mem_flatMap_map fun c hc => (parts.groupBy c hc).mentions_transcribe
  · exact forall_mem_flatMap_map fun x hx => (parts.having x hx).mentions_transcribe
  · exact forall_mem_flatMap_map fun o ho => OrderBy.mentions_transcribe (parts.orderBy o ho)

end Written

/-! ## 4. Nested statements by their names -/

section Names

variable {drafts : List Draft} {db : Db}

/-- Each nested statement was made with references to some of smaller numbers. -/
theorem Drafts.Made.selector (h : Drafts.Made db drafts) {d : Draft} (hd : d ∈ drafts) :
    ∃ before : List Draft, (∀ e ∈ before, e ∈ drafts ∧ e.number < d.number) ∧
      d.selector.Made (Available before) db := by
  induction h with
  | nil => cases hd
  | @nest drafts _ last made later ih =>
    rcases List.mem_append.1 hd with hd | hd
    · obtain ⟨before, smaller, inner⟩ := ih hd
      exact ⟨before, fun e he => ⟨List.mem_append_left _ (smaller e he).1, (smaller e he).2⟩, inner⟩
    · obtain rfl := List.mem_singleton.1 hd
      exact ⟨drafts, fun e he => ⟨List.mem_append_left _ he, later e he⟩, made⟩

variable {name : Nat → String} (distinct : (drafts.map fun d => name d.number).Nodup)

include distinct

theorem get?_ofList_names {α : Type} (f : Draft → α) {key : String} {a : α} :
    (KeyMap.ofList (drafts.map fun d => (name d.number, f d))).get? key = some a
      ↔ ∃ d ∈ drafts, key = name d.number ∧ a = f d := by
  have keys : ((drafts.map fun d => (name d.number, f d)).map (·.1)).Nodup := by
    rw [List.map_map]
    exact distinct
  rw [KeyMap.get?_ofList_eq_some_iff keys, List.mem_map]
  constructor
  · rintro ⟨d, hd, same⟩
    cases same
    exact ⟨d, hd, rfl, rfl⟩
  · rintro ⟨d, hd, rfl, rfl⟩
    exact ⟨d, hd, rfl⟩

/-- The document has each nested statement under its name, and nothing else. -/
theorem get?_transcription (s : Selector) {key : String} {doc : SubqueryDoc} :
    (transcription name drafts s).subqueries.get? key = some doc
      ↔ ∃ d ∈ drafts, key = name d.number ∧ doc = d.transcribe name :=
  get?_ofList_names distinct (Draft.transcribe name)

/-- Every name can stand for the reference that it was given to. -/
theorem exists_reference :
    ∃ ref : String → Subquery, ∀ r, Available drafts r → ref (name r.node) = r := by
  let references := KeyMap.ofList (drafts.map fun d => (name d.number, d.reference))
  refine ⟨fun key => (references.get? key).getD default, ?_⟩
  rintro r ⟨d, hd, rfl⟩
  have own : references.get? (name d.number) = some d.reference :=
    (get?_ofList_names distinct Draft.reference).2 ⟨d, hd, rfl, rfl⟩
  exact congrArg (Option.getD · default) own

variable {s : Selector} (made : Drafts.Made db drafts) (hs : s.Made (Available drafts) db)

include made

/-- A name leads to names of smaller numbers only. -/
theorem refers_transcription {d : Draft} {key : String} (hd : d ∈ drafts)
    (h : Relation.TransGen (transcription name drafts s).Refers (name d.number) key) :
    ∃ e ∈ drafts, e.number < d.number ∧ key = name e.number := by
  have step : ∀ {d : Draft} {key : String}, d ∈ drafts →
      (transcription name drafts s).Refers (name d.number) key →
        ∃ e ∈ drafts, e.number < d.number ∧ key = name e.number := by
    rintro d key hd ⟨doc, defined, hm⟩
    obtain ⟨d', hd', same, rfl⟩ := (get?_transcription distinct s).1 defined
    obtain rfl : d = d' := List.inj_on_of_nodup_map distinct hd hd' same
    obtain ⟨before, smaller, inner⟩ := made.selector hd
    obtain ⟨_, ⟨e, he, rfl⟩, rfl⟩ := (inner.mentions_transcribe _ hm).of_subquery
    exact ⟨e, (smaller e he).1, (smaller e he).2, rfl⟩
  induction h with
  | single h => exact step hd h
  | tail _ h ih =>
    obtain ⟨e, he, below, rfl⟩ := ih
    obtain ⟨e', he', below', rfl⟩ := step he h
    exact ⟨e', he', Nat.lt_trans below' below, rfl⟩

include hs

/-- Only what was written down is met in the document. -/
theorem meets_transcription {m : Mention} (met : (transcription name drafts s).Meets m) :
    m.Written (Available drafts) name := by
  induction met with
  | here hm => exact hs.mentions_transcribe _ hm
  | inside met defined hm ih =>
    obtain ⟨d, hd, rfl, rfl⟩ := (get?_transcription distinct s).1 defined
    obtain ⟨before, smaller, inner⟩ := made.selector hd
    have written : Mention.Written (Available before) name _ := inner.mentions_transcribe _ hm
    cases written with
    | operator op => exact .operator op
    | direction dir => exact .direction dir
    | subquery h =>
      obtain ⟨e, he, rfl⟩ := h
      exact .subquery ⟨e, (smaller e he).1, rfl⟩

/-- A name that is met in the document is that of a nested statement. -/
theorem meets_subquery_transcription {key : String}
    (met : (transcription name drafts s).Meets (.subquery key)) :
    ∃ d ∈ drafts, key = name d.number := by
  obtain ⟨_, ⟨d, hd, rfl⟩, rfl⟩ := (meets_transcription distinct made hs met).of_subquery
  exact ⟨d, hd, rfl⟩

/-- **Nothing is wrong with the document.** -/
theorem not_defect_transcription (e : DocumentError) : ¬ (transcription name drafts s).Defect e := by
  intro defect
  cases defect with
  | operator met unknown =>
    cases meets_transcription distinct made hs met with
    | operator op =>
      rw [Operator.ofText?_key] at unknown
      cases unknown
  | direction met unknown =>
    cases meets_transcription distinct made hs met with
    | direction dir =>
      rw [← SortDir.ofText?_eq_none_iff, SortDir.ofText?_text] at unknown
      cases unknown
  | undefined met undefined =>
    obtain ⟨d, hd, rfl⟩ := meets_subquery_transcription distinct made hs met
    cases undefined.symm.trans ((get?_transcription distinct s).2 ⟨d, hd, rfl, rfl⟩)
  | cycle met back =>
    obtain ⟨d, hd, rfl⟩ := meets_subquery_transcription distinct made hs met
    obtain ⟨e, he, below, same⟩ := refers_transcription distinct made hd back
    obtain rfl : d = e := List.inj_on_of_nodup_map distinct hd he same
    exact Nat.lt_irrefl _ below

/-- **The builder's own list has a place for each name.** -/
theorem places_transcription {nested : List Selector}
    (placed : ∀ d ∈ drafts, nested[d.number]? = some d.selector) {ref : String → Subquery}
    (back : ∀ r, Available drafts r → ref (name r.node) = r) :
    (transcription name drafts s).PlacesAll db nested ref := by
  intro key met
  obtain ⟨d, hd, rfl⟩ := meets_subquery_transcription distinct made hs met
  have own : ref (name d.number) = d.reference := back _ ⟨d, hd, rfl⟩
  obtain ⟨before, smaller, inner⟩ := made.selector hd
  have inside : ∀ r, Available before r → ref (name r.node) = r := by
    rintro r ⟨e, he, rfl⟩
    exact back _ ⟨e, (smaller e he).1, rfl⟩
  refine ⟨d.transcribe name, (get?_transcription distinct s).2 ⟨d, hd, rfl, rfl⟩, ?_, ?_, ?_, ?_⟩
  · exact congrArg Subquery.columns own
  · exact congrArg Subquery.aliasName own
  · rw [own]
    exact (placed d hd).trans (congrArg some (inner.lowered_transcribe inside).symm)
  · intro key hm
    obtain ⟨r, available, rfl⟩ := (inner.mentions_transcribe _ hm).of_subquery
    rw [own, inside r available]
    obtain ⟨e, he, rfl⟩ := available
    exact (smaller e he).2

end Names

/-! ## 5. Rendering -/

/-- **A statement and its document render alike.** Take any statement of the builder in a session that
has come about in any way, with its nested statements in the places that the session gave them, and
none of these built yet. If every nested statement has a name of its own, then the document renders to
exactly what the statement is built to, its SQL and its arguments or its error, in the dialect of the
statement and whatever is registered. -/
theorem render_transcription (run : List Step) {db : Db} {drafts : List Draft} {s : Selector}
    {name : Nat → String} (made : Drafts.Made db drafts) (hs : s.Made (Available drafts) db)
    (placed : ∀ d ∈ drafts, (Session.start.steps run).2.nested[d.number]? = some d.selector)
    (unbuilt : ∀ d ∈ drafts, (Session.start.steps run).2.store.cells d.number = none)
    (distinct : (drafts.map fun d => name d.number).Nodup) :
    (transcription name drafts s).render ((Session.start.steps run).2.registry db.registry) db.dialect
      = ((s.build (Session.start.steps run).2.inner).run.run
          (Session.start.steps run).2.store).1.mapError DocumentError.build := by
  have consistent := Session.consistent_steps run
  generalize (Session.start.steps run).2 = session at consistent placed unbuilt
  obtain ⟨ref, back⟩ := exists_reference distinct
  have places := places_transcription distinct made hs placed back
  have written : (s.transcribe name).lowered ref db = s := hs.lowered_transcribe back
  have anew : ∀ key, (transcription name drafts s).Meets (.subquery key) →
      session.store.cells (ref key).node = none := by
    intro key met
    obtain ⟨d, hd, rfl⟩ := meets_subquery_transcription distinct made hs met
    have own : ref (name d.number) = d.reference := back _ ⟨d, hd, rfl⟩
    rw [own]
    exact unbuilt d hd
  cases lowered : (transcription name drafts s).lower { registry := 0, dialect := db.dialect } with
  | error e =>
    exact absurd (QueryDocument.defect_of_lower lowered)
      (not_defect_transcription distinct made hs e)
  | ok result =>
    obtain ⟨ref', same, places'⟩ := QueryDocument.lower_ok lowered
    have fresh : (Store.ofRegistry (session.registry db.registry)).Sound (fun _ => none) _
        result.2 := .of_empty fun _ => rfl
    have alike : ((s.transcribe name).lowered ref' { registry := 0, dialect := db.dialect }).build
        (frozen (fun _ => none) (Store.ofRegistry (session.registry db.registry)).answer result.2)
          = ((s.transcribe name).lowered ref db).build
              (frozen session.store.cells session.store.answer session.nested) :=
      QueryDocument.build_congr (by rfl) (fun _ => by rfl) places' places (fun _ _ => by rfl) anew
    have built : ((s.build session.inner).run.run session.store).1
        = s.build (frozen session.store.cells session.store.answer session.nested) :=
      (build_inCells consistent s).1
    rw [written] at alike
    rw [QueryDocument.render_of_lower_ok lowered, same, (build_inCells fresh _).1, built]
    exact congrArg (Except.mapError DocumentError.build) alike

/-- A statement about users, as the builder begins it. -/
def fromUsers : Selector :=
  { db := { registry := 0, dialect := BaseDialect.sqlite.toDialect }, entity := some (.named "user") }

/-- The users of one name. -/
def anns : Draft where
  number := 1
  selector := fromUsers.filter (.eq (.column { name := "Name" }) (.value (.text "Ann")))
  columns := ["Id"]
  aliasName := some "a"

/-- A statement that refers to these users. -/
def lonely : Draft where
  number := 2
  selector := fromUsers.addColumn (.aggregate (.max "Id")) |>.filter
    (.not (.keyword (.exist anns.reference)))
  aliasName := some ""

/-- A statement that refers to both. -/
def annsPage : Selector :=
  fromUsers.addColumn (.column (.of { name := "Id" } (.subquery anns.reference)))
    |>.fromTable (.subquery anns.reference)
    |>.filter (.inQuery (.column { name := "Id" }) lonely.reference)
    |>.addOrderBy [{ column := { name := "Name" }, dir := .desc }]
    |>.withLimit 5

/-- A session in which a statement is built, before the two are nested. -/
def annsRun : List Step :=
  [.register 0 "user" { tableName := "users", fields := [("Id", "id"), ("Name", "name")] },
    .nest fromUsers [] none, .compiled { node := 0 },
    .nest anns.selector anns.columns anns.aliasName,
    .nest lonely.selector lonely.columns lonely.aliasName]

/-- The names that the two get. -/
def annsName (n : Nat) : String := if n = 1 then "anns" else "lonely"

theorem render_transcription_annsPage :
    (transcription annsName [anns, lonely] annsPage).render
        ((Session.start.steps annsRun).2.registry fromUsers.db.registry) fromUsers.db.dialect
      = ((annsPage.build (Session.start.steps annsRun).2.inner).run.run
          (Session.start.steps annsRun).2.store).1.mapError DocumentError.build ∧
      ((transcription annsName [anns, lonely] annsPage).render
        ((Session.start.steps annsRun).2.registry fromUsers.db.registry)
          fromUsers.db.dialect).map Query.sql
        = .ok ("SELECT \"a\".\"id\" FROM (SELECT * FROM \"users\" WHERE \"name\" = ?) AS \"a\" "
          ++ "WHERE \"id\" IN (SELECT MAX(\"id\") FROM \"users\" WHERE NOT EXISTS "
          ++ "(SELECT * FROM \"users\" WHERE \"name\" = ?)) ORDER BY \"name\" DESC LIMIT ?;") := by
  have users : ∀ {available : Subquery → Prop}, fromUsers.Made available fromUsers.db :=
    .new (some "user")
  have annsMade : anns.selector.Made (Available []) fromUsers.db :=
    .filter users (.combine .eq (.column (.named "Name")) (.value _))
  have annsThere : ∀ {more : List Draft}, Available (anns :: more) anns.reference :=
    ⟨anns, List.mem_cons_self, rfl⟩
  have lonelyMade : lonely.selector.Made (Available [anns]) fromUsers.db :=
    .filter (.addColumn users (.aggregate (.max "Id"))) (.apply .not (.keyword (.exist annsThere)))
  have lonelyThere : Available [anns, lonely] lonely.reference := ⟨lonely, by simp, rfl⟩
  have made : Drafts.Made fromUsers.db [anns, lonely] :=
    .nest (.nest .nil annsMade (by simp)) lonelyMade (by decide)
  have pageMade : annsPage.Made (Available [anns, lonely]) fromUsers.db :=
    .withLimit (.addOrderBy (.filter (.fromTable (.addColumn users
      (.column (.of (.named "Id") (.subquery annsThere)))) (.subquery annsThere))
      (.combine .isIn (.column (.named "Id")) (.subquery lonelyThere)))
      (List.forall_mem_singleton.2 (.named "Name"))) 5
  have placed : ∀ d ∈ [anns, lonely],
      (Session.start.steps annsRun).2.nested[d.number]? = some d.selector :=
    List.forall_mem_cons.2 ⟨by rfl, List.forall_mem_singleton.2 (by rfl)⟩
  have unbuilt : ∀ d ∈ [anns, lonely],
      (Session.start.steps annsRun).2.store.cells d.number = none := by
    decide +kernel
  exact ⟨render_transcription annsRun made pageMade placed unbuilt (by decide +kernel),
    by decide +kernel⟩

end SqlSelect
