import SqlSelect.Proofs.Likeness
import SqlSelect.Proofs.Results
import SqlSelect.Proofs.Walk
/-!
# What a reference stands for

A statement is built to what the references in it stand for, and not to their numbers. So a document
may be laid out in any order: where two lists of statements both have a place for every name that is
met, and entities are described alike, the document is built to the same from the one and from the
other.

* `Subquery.Alike` -- two references that stand for the same;
* `Scope.match_lowered` -- a statement asks for the same where names stand for the same;
* `QueryDocument.query_congr` -- names that have a place in two lists stand for the same in both;
* `QueryDocument.build_congr` -- so a document is built to the same from both.
-/

namespace SqlSelect

/-! ## 1. References and names -/

/-- Two references are laid out alike and stand for the same. -/
structure Subquery.Alike (inner inner' : Inner (Except BuildError)) (r r' : Subquery) : Prop where
  columns : r.columns = r'.columns
  aliasName : r.aliasName = r'.aliasName
  query : inner.query r.node = inner'.query r'.node
  metadata : inner.metadata r.node = inner'.metadata r'.node

/-- References that stand for the same have the like result. -/
theorem Subquery.Alike.matches {sc sc' : Scope (Except BuildError)} {r r' : Subquery}
    (h : r.Alike sc.inner sc'.inner r') : sameResult.MatchSubquery {} sc sc' r r' :=
  (id_map _).trans h.query

namespace Scope

variable {sc sc' : Scope (Except BuildError)} {ref ref' : String → Subquery}

/-- The names among some mentions stand for the same in two scopes. -/
def SameNames (sc sc' : Scope (Except BuildError)) (ref ref' : String → Subquery) (ms : List Mention) :
    Prop :=
  ∀ n, .subquery n ∈ ms → Subquery.Alike sc.inner sc'.inner (ref n) (ref' n)

theorem SameNames.mono {ms more : List Mention} (h : SameNames sc sc' ref ref' more)
    (sub : ∀ m ∈ ms, m ∈ more) : SameNames sc sc' ref ref' ms :=
  fun n hn => h n (sub _ hn)

/-- The names in one thing of many. -/
theorem SameNames.of_mem {α : Type} {mentions : α → List Mention} {as : List α}
    (h : SameNames sc sc' ref ref' (as.flatMap mentions)) {a : α} (ha : a ∈ as) :
    SameNames sc sc' ref ref' (mentions a) :=
  h.mono fun _ hm => List.mem_flatMap.2 ⟨a, ha, hm⟩

theorem qualifier?_lowered (t : Option TableDoc)
    (names : SameNames sc sc' ref ref' (t.elim [] TableDoc.mentions)) :
    (t.map (TableDoc.lowered ref')).bind TableRef.qualifier?
      = (t.map (TableDoc.lowered ref)).bind TableRef.qualifier? := by
  match t with
  | none => rfl
  | some (.entity name aliasName) => rfl
  | some (.subquery name) =>
    have alike := names name List.mem_cons_self
    simp only [Option.map_some, Option.bind_some, TableDoc.lowered, TableRef.qualifier?,
      alike.aliasName]

/-! ## 2. Statements -/

section Places

variable (described : ∀ key, sc.inner.describe sc.registry key = sc'.inner.describe sc'.registry key)
  (primary : sc.primary = sc'.primary)

include described primary

theorem columnName_lowered (field : String) (t : Option TableDoc)
    (names : SameNames sc sc' ref ref' (t.elim [] TableDoc.mentions)) :
    sc.columnName field (t.map (TableDoc.lowered ref))
      = sc'.columnName field (t.map (TableDoc.lowered ref')) := by
  match t with
  | none => simp only [columnName, Option.map_none, primary]
  | some (.entity name aliasName) =>
    simp only [columnName, Option.map_some, TableDoc.lowered, described]
  | some (.subquery name) =>
    have alike := names name List.mem_cons_self
    have shows : (ref name).shows field = (ref' name).shows field := by
      rw [Subquery.shows, Subquery.shows, alike.columns]
    simp only [columnName, Option.map_some, TableDoc.lowered, shows, alike.metadata]

theorem matchField_lowered (name : String) (t : Option TableDoc)
    (names : SameNames sc sc' ref ref' (t.elim [] TableDoc.mentions)) :
    sameResult.MatchField sc sc' (t.map (TableDoc.lowered ref)) name (t.map (TableDoc.lowered ref'))
      name :=
  ⟨(id_map _).trans (columnName_lowered described primary name t names), qualifier?_lowered t names⟩

theorem matchColumn_lowered (c : ColumnDoc) (names : SameNames sc sc' ref ref' c.mentions) :
    sameResult.MatchColumn sc sc' (c.lowered ref) (c.lowered ref') :=
  matchField_lowered described primary c.name c.table names

theorem matchAggregate_lowered (a : AggregateDoc) (names : SameNames sc sc' ref ref' a.mentions) :
    sameResult.MatchAggregate sc sc' (a.lowered ref) (a.lowered ref') :=
  ⟨rfl, matchField_lowered described primary a.field a.table names⟩

theorem matchExpr_lowered (x : ExprDoc) (names : SameNames sc sc' ref ref' x.mentions) :
    sameResult.MatchExpr {} sc sc' (x.lowered ref) (x.lowered ref') := by
  induction x with
  | column c => exact .column (matchColumn_lowered described primary c names)
  | value v => exact .value v
  | raw r => exact .raw rfl
  | aggregate a => exact .aggregate (matchAggregate_lowered described primary a names)
  | subquery name => exact .subquery (names name List.mem_cons_self).matches
  | keyword text name => exact .keyword rfl (names name List.mem_cons_self).matches
  | unary text x ih => exact .unary (ih (names.mono fun m hm => List.mem_cons_of_mem _ hm))
  | binary text x y ihx ihy =>
    have left := ihx (names.mono fun m hm => List.mem_cons_of_mem _ (List.mem_append_left _ hm))
    have right := ihy (names.mono fun m hm => List.mem_cons_of_mem _ (List.mem_append_right _ hm))
    exact .binary left right

theorem matchSelectable_lowered (i : SelectDoc) (names : SameNames sc sc' ref ref' i.mentions) :
    sameResult.MatchSelectable {} sc sc' (i.lowered ref) (i.lowered ref') := by
  cases i with
  | column c => exact .column (matchColumn_lowered described primary c names) rfl
  | aggregate a => exact .aggregate (matchAggregate_lowered described primary a names) rfl
  | raw r => exact .raw rfl

theorem matchSource_lowered (source : Option SourceDoc)
    (names : SameNames sc sc' ref ref' (source.elim [] SourceDoc.mentions)) :
    sameResult.MatchSource {} sc sc' (source.elim .entity (SourceDoc.lowered ref))
      (source.elim .entity (SourceDoc.lowered ref')) := by
  have own : sc'.primary.tableName = sc.primary.tableName := by rw [primary]
  match source with
  | none => exact .entity own
  | some (.verbatim text) =>
    simp only [Option.elim_some, SourceDoc.lowered]
    split
    · exact .entity own
    · exact .verbatim text
  | some (.table (.entity name aliasName)) =>
    exact .table id ((id_map _).trans (described _)) (fun _ => rfl) rfl
  | some (.table (.subquery name)) =>
    have alike := names name List.mem_cons_self
    exact .subquery alike.matches (congrArg nonEmpty alike.aliasName.symm)

/-- **A statement asks for the same where its names stand for the same.** -/
theorem match_lowered (db db' : Db) (doc : StatementDoc)
    (names : SameNames sc sc' ref ref' doc.mentions) :
    sameResult.Match {} sc sc' (doc.lowered ref db) (doc.lowered ref' db') := by
  simp only [SameNames, StatementDoc.mentions, List.mem_append, or_imp, forall_and] at names
  obtain ⟨⟨⟨⟨⟨inSelect, inSource⟩, inFilters⟩, inGroupBy⟩, inHaving⟩, inOrderBy⟩ := names
  exact {
    columns := Likeness.forall₂_maps fun i hi =>
      matchSelectable_lowered described primary i (SameNames.of_mem inSelect hi)
    source := matchSource_lowered described primary doc.source inSource
    filters := Likeness.forall₂_maps fun x hx =>
      matchExpr_lowered described primary x (SameNames.of_mem inFilters hx)
    groupBy := Likeness.forall₂_maps fun c hc =>
      matchColumn_lowered described primary c (SameNames.of_mem inGroupBy hc)
    having := Likeness.forall₂_maps fun x hx =>
      matchExpr_lowered described primary x (SameNames.of_mem inHaving hx)
    orderBy := Likeness.forall₂_maps fun o ho => ⟨matchColumn_lowered described primary o.column
      ((SameNames.of_mem inOrderBy ho).mono fun m hm => List.mem_cons_of_mem _ hm), rfl⟩
    limit := congrFun Retouch.tokens_eq_id _
    offset := congrFun Retouch.tokens_eq_id _ }

end Places

end Scope

section Builds

variable {inner inner' : Inner (Except BuildError)} {ref ref' : String → Subquery} {db db' : Db}

theorem metadata_lowered_congr {describe describe' : Nat → EntityKey → Except BuildError EntityMetadata}
    (described : ∀ key, describe db.registry key = describe' db'.registry key) (doc : StatementDoc) :
    (doc.lowered ref db).metadata describe = (doc.lowered ref' db').metadata describe' := by
  unfold Selector.metadata StatementDoc.lowered
  cases doc.entity with
  | none => rfl
  | some name => exact described _

/-- **A statement is built alike where its names stand for the same.** -/
theorem build_lowered_congr (dialect : db.dialect = db'.dialect)
    (described : ∀ key, inner.describe db.registry key = inner'.describe db'.registry key)
    (doc : StatementDoc)
    (names : ∀ n, .subquery n ∈ doc.mentions → (ref n).Alike inner inner' (ref' n)) :
    (doc.lowered ref db).build inner = (doc.lowered ref' db').build inner' := by
  have entity : sameResult.Holds id ((doc.lowered ref db).metadata inner.describe)
      ((doc.lowered ref' db').metadata inner'.describe) :=
    (id_map _).trans (metadata_lowered_congr described doc)
  have clauses (primary : EntityMetadata) : sameResult.Match {} ⟨db.registry, primary, inner⟩
      ⟨db'.registry, primary, inner'⟩ (doc.lowered ref db) (doc.lowered ref' db') := by
    refine Scope.match_lowered ?described ?primary db db' doc names
    case described => exact described
    case primary => rfl
  have alike := Likeness.compile entity clauses
  rw [Retouch.tokens_eq_id] at alike
  have compiled : (doc.lowered ref db).compile inner = (doc.lowered ref' db').compile inner' :=
    (id_map _).symm.trans alike
  have own : (doc.lowered ref db).db.dialect = (doc.lowered ref' db').db.dialect := dialect
  rw [Selector.build, Selector.build, compiled, own]

end Builds

/-! ## 3. Documents -/

section Frozen

variable {describe describe' : Nat → EntityKey → Except BuildError EntityMetadata}
  {kept kept' : Nat → Option Query} {nested nested' : List Selector} {db db' : Db}
  {ref ref' : String → Subquery}

/-- A statement sees a nested one before it as all others do. -/
theorem metadata_take {keeping : Keeping (Except BuildError)} {n k : Nat} (hk : k < n)
    (hn : n ≤ nested.length) :
    (Inner.ofList keeping describe (nested.take n)).metadata k
      = (Inner.ofList keeping describe nested).metadata k := by
  have there : nested[k]? = some nested[k] := List.getElem?_eq_getElem (Nat.lt_of_lt_of_le hk hn)
  have taken : (nested.take n)[k]? = some nested[k] := (List.getElem?_take_of_lt hk).trans there
  rw [metadata_of_getElem? there, metadata_of_getElem? taken]

theorem Subquery.Alike.take {r r' : Subquery} {n n' : Nat}
    (h : r.Alike (frozen kept describe nested) (frozen kept' describe' nested') r')
    (below : r.node < n) (within : n ≤ nested.length) (below' : r'.node < n')
    (within' : n' ≤ nested'.length) :
    r.Alike (frozen kept describe (nested.take n))
      (frozen kept' describe' (nested'.take n')) r' where
  columns := h.columns
  aliasName := h.aliasName
  query := by
    rw [query_take below within, query_take below' within']
    exact h.query
  metadata := by
    rw [metadata_take below within, metadata_take below' within']
    exact h.metadata

namespace QueryDocument

variable {q : QueryDocument} (dialect : db.dialect = db'.dialect)
  (described : ∀ key, describe db.registry key = describe' db'.registry key)
  (places : q.PlacesAll db nested ref) (places' : q.PlacesAll db' nested' ref')
  (anew : ∀ name, q.Meets (.subquery name) → kept (ref name).node = none)
  (anew' : ∀ name, q.Meets (.subquery name) → kept' (ref' name).node = none)

include dialect described places places' anew anew'

/-- **A name that has a place in two lists stands for the same in both**, unless it was built before. -/
theorem query_congr {name : String} (met : q.Meets (.subquery name)) :
    (ref name).Alike (frozen kept describe nested)
      (frozen kept' describe' nested') (ref' name) := by
  induction hnode : (ref name).node using Nat.strongRecOn generalizing name with
  | _ node ih =>
    obtain ⟨doc, place⟩ := places name met
    obtain ⟨doc', place'⟩ := places' name met
    obtain rfl : doc = doc' := Option.some.inj (place.defined.symm.trans place'.defined)
    have within : (ref name).node ≤ nested.length :=
      Nat.le_of_lt (List.getElem?_eq_some_iff.1 place.statement).1
    have within' : (ref' name).node ≤ nested'.length :=
      Nat.le_of_lt (List.getElem?_eq_some_iff.1 place'.statement).1
    have names : ∀ n, .subquery n ∈ doc.statement.mentions →
        (ref n).Alike (frozen kept describe (nested.take (ref name).node))
          (frozen kept' describe' (nested'.take (ref' name).node)) (ref' n) := by
      intro n hn
      have inside := ih _ (hnode ▸ place.below n hn) (met.inside place.defined hn) rfl
      exact inside.take (place.below n hn) within (place'.below n hn) within'
    have described' : ∀ key,
        (frozen kept describe (nested.take (ref name).node)).describe db.registry key
          = (frozen kept' describe' (nested'.take (ref' name).node)).describe db'.registry
              key := by
      intro key
      rw [describe_ofList, describe_ofList]
      exact described key
    have built := build_lowered_congr dialect described' doc.statement names
    refine ⟨place.columns.trans place'.columns.symm, place.aliasName.trans place'.aliasName.symm, ?_, ?_⟩
    · rw [query_of_getElem? place.statement, query_of_getElem? place'.statement, Keeping.given,
        Keeping.given, anew name met, anew' name met]
      show (doc.statement.lowered ref db).buildNested _ = (doc.statement.lowered ref' db').buildNested _
      rw [Selector.buildNested, Selector.buildNested, built]
    · rw [metadata_of_getElem? place.statement, metadata_of_getElem? place'.statement]
      exact metadata_lowered_congr described doc.statement

/-- **A document is built to the same from any two lists that have places for its names.** -/
theorem build_congr :
    (q.statement.lowered ref db).build (frozen kept describe nested)
      = (q.statement.lowered ref' db').build (frozen kept' describe' nested') := by
  have described' : ∀ key, (frozen kept describe nested).describe db.registry key
      = (frozen kept' describe' nested').describe db'.registry key := by
    intro key
    rw [describe_ofList, describe_ofList]
    exact described key
  exact build_lowered_congr dialect described' q.statement fun n hn =>
    query_congr dialect described places places' anew anew' (.here hn)

end QueryDocument

end Frozen

end SqlSelect
