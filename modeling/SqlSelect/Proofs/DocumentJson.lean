import SqlSelect.Document.Json
import SqlSelect.Proofs.Compact
/-!
# Documents are read back

A document that was written as JSON is read again as it was. What a record is read from is found by
name, so the members of a statement are found among those of the record it is laid into; the kinds of
an expression, of an item and of a source are told apart by what was written; null stands for what is
missing only where nothing else is written as null.

* `ReadsBack` -- a reader undoes a writer, with a rule for lists and for what may be missing;
* `fields?_of_mem` -- fields are found by name;
* `ExprDoc.readsBack`, `StatementDoc.ofData?_toMembers`, `QueryDocument.readsBack` -- each form of a
  document;
* `QueryDocument.literals` -- the values of a document;
* `QueryDocument.ofJson?_toJson` -- the JSON text of a document is read as the document.
-/

namespace SqlSelect

open Data

/-! ## 1. Readers and writers -/

/-- The reader undoes the writer. -/
def ReadsBack {α : Type} (write : α → Data) (read : Data → Option α) : Prop :=
  ∀ a, read (write a) = some a

section ReadsBack

variable {α : Type} {write : α → Data} {read : Data → Option α}

theorem mapM_map_of_leftInverse {β : Type} {f : α → β} {g : β → Option α}
    (h : ∀ a, g (f a) = some a) (l : List α) : (l.map f).mapM g = some l := by
  induction l with
  | nil => rfl
  | cons a l ih => simp [List.mapM_cons, h, ih]

theorem ReadsBack.list (h : ReadsBack write read) (l : List α) :
    list? read (.array (l.map write)) = some l :=
  mapM_map_of_leftInverse h l

/-- What may be missing is read back if nothing is written as null. -/
theorem ReadsBack.nullable (h : ReadsBack write read) (notNull : ∀ a, write a ≠ .scalar .null)
    (o : Option α) : Data.nullable read (orNull write o) = some o := by
  cases o with
  | none => rfl
  | some a =>
    rw [orNull, Data.nullable, h a]
    · rfl
    · exact notNull a

/-- A map is read back entry by entry. -/
theorem ReadsBack.map (h : ReadsBack write read) (m : KeyMap α) :
    map? read (.object (m.entries.map fun (key, a) => (key, write a))) = some m := by
  have entries : (m.entries.map fun e => (e.1, write e.2)).mapM
      (fun e => (read e.2).bind fun a => some (e.1, a)) = some m.entries :=
    mapM_map_of_leftInverse (fun e => by rw [h e.2]; rfl) m.entries
  calc map? read (.object (m.entries.map fun (key, a) => (key, write a)))
    _ = (some m.entries).bind fun entries => some (.ofList entries) :=
        congrArg (Option.bind · fun entries => some (KeyMap.ofList entries)) entries
    _ = some m := congrArg some m.ofList_entries

end ReadsBack

theorem readsBack_text : ReadsBack ofText text? := fun _ => rfl

@[simp] theorem text?_ofText (s : String) : (ofText s).text? = some s := rfl

theorem ofText?_eq (o : Option String) : ofText? o = orNull ofText o := by
  cases o <;> rfl

/-- A text that may be missing is read back. -/
@[simp] theorem nullable_ofText? (o : Option String) : nullable text? (ofText? o) = some o := by
  rw [ofText?_eq]
  exact readsBack_text.nullable (fun _ h => by cases h) o

/-! ## 2. Fields -/

namespace Data

@[simp] theorem required_some {α : Type} (read : Data → Option α) (d : Data) :
    required read (some d) = read d := rfl

@[simp] theorem optional_some {α : Type} (absent : α) (read : Data → Option α) (d : Data) :
    Data.optional absent read (some d) = read d := rfl

theorem member?_of_mem {name : String} {d : Data} {members : List (String × Data)}
    (distinct : (members.map (·.1)).Nodup) (mem : (name, d) ∈ members) :
    member? name members = some (some d) := by
  have found : members.filter (·.1 = name) = [(name, d)] := by
    induction members with
    | nil => cases mem
    | cons head rest ih =>
      obtain ⟨fresh, distinct⟩ := List.nodup_cons.1 distinct
      rcases List.mem_cons.1 mem with rfl | mem
      · have others : rest.filter (·.1 = name) = [] := by
          refine List.filter_eq_nil_iff.2 fun m hm e => fresh ?_
          exact List.mem_map.2 ⟨m, hm, of_decide_eq_true e⟩
        rw [List.filter_cons_of_pos (by simp), others]
      · have other : head.1 ≠ name := fun e => fresh (List.mem_map.2 ⟨_, mem, e.symm⟩)
        rw [List.filter_cons_of_neg (by simpa using other), ih distinct mem]
  rw [member?, found]

/-- **Fields are found by name**, whatever other members stand among them. -/
theorem fields?_of_mem (fields : List (String × Data)) {members : List (String × Data)}
    (distinct : (members.map (·.1)).Nodup) (mem : ∀ f ∈ fields, f ∈ members) :
    fields? (fields.map (·.1)) (.object members) = some (fields.map (some ·.2)) := by
  rw [fields?]
  induction fields with
  | nil => rfl
  | cons f fields ih =>
    have first := member?_of_mem distinct (mem f List.mem_cons_self)
    have others := ih fun g hg => mem g (List.mem_cons_of_mem f hg)
    simp only [List.map_cons, List.mapM_cons, first, others, bind, Option.bind_some, pure]

/-- A record that has just its fields. -/
theorem fields?_object {names : List String} {members : List (String × Data)}
    (h : members.map (·.1) = names) (distinct : names.Nodup) :
    fields? names (.object members) = some (members.map (some ·.2)) := by
  subst h
  exact fields?_of_mem members distinct fun _ mem => mem

end Data

/-! ## 3. Leaves -/

namespace TableDoc

theorem toData_ne_null (t : TableDoc) : t.toData ≠ .scalar .null := by
  cases t <;> exact fun h => by cases h

theorem readsBack : ReadsBack toData ofData? := by
  intro t
  cases t with
  | subquery name => rfl
  | entity name aliasName =>
    have noSubquery : subqueryOfData? (toData (.entity name aliasName)) = none := rfl
    have fields : fields? ["entity", "alias"] (toData (.entity name aliasName))
        = some [some (ofText name), some (ofText? aliasName)] := fields?_object rfl (by decide)
    have entity : entityOfData? (toData (.entity name aliasName))
        = some (.entity name aliasName) := by
      rw [entityOfData?, fields]
      simp
    rw [ofData?, noSubquery, entity]
    rfl

/-- A source that may be missing is read back. -/
@[simp] theorem nullable_toData (o : Option TableDoc) :
    nullable ofData? (orNull toData o) = some o :=
  readsBack.nullable toData_ne_null o

end TableDoc

namespace SourceDoc

theorem toData_ne_null (s : SourceDoc) : s.toData ≠ .scalar .null := by
  cases s with
  | verbatim text => exact fun h => by cases h
  | table t => exact t.toData_ne_null

/-- A text and a source of columns are told apart: the latter is written as an object. -/
theorem readsBack : ReadsBack toData ofData? := by
  intro s
  cases s with
  | verbatim text => rfl
  | table t =>
    have noText : (toData (.table t)).text? = none := by
      cases t <;> rfl
    rw [ofData?, noText, toData, TableDoc.readsBack t]
    rfl

end SourceDoc

theorem ColumnDoc.readsBack : ReadsBack toData ofData? := by
  intro c
  have fields : record? ["name", "table", "alias"] c.toData
      = some [some (ofText c.name), some (orNull TableDoc.toData c.table),
        some (ofText? c.aliasName)] := fields?_object rfl (by decide)
  rw [ofData?, fields]
  simp

theorem AggregateDoc.readsBack : ReadsBack toData ofData? := by
  intro a
  have fields : record? ["function", "field", "table", "alias"] a.toData
      = some [some (ofText a.function), some (ofText a.field),
        some (orNull TableDoc.toData a.table), some (ofText? a.aliasName)] :=
    fields?_object rfl (by decide)
  rw [ofData?, fields]
  simp

theorem RawSql.readsBack : ReadsBack toData ofData? := by
  intro r
  have scalars : ReadsBack Data.scalar scalar? := fun _ => rfl
  have fields : record? ["sql", "args"] r.toData
      = some [some (ofText r.sql), some (.array (r.args.map .scalar))] :=
    fields?_object rfl (by decide)
  rw [ofData?, fields]
  simp [scalars.list]

theorem OrderDoc.readsBack : ReadsBack toData ofData? := by
  intro o
  have fields : record? ["column", "dir"] o.toData
      = some [some o.column.toData, some (ofText o.dir)] := fields?_object rfl (by decide)
  rw [ofData?, fields]
  simp [ColumnDoc.readsBack o.column]

theorem SelectDoc.readsBack : ReadsBack toData ofData? := by
  intro i
  cases i with
  | column c => exact congrArg (Option.map column) (ColumnDoc.readsBack c)
  | aggregate a => exact congrArg (Option.map aggregate) (AggregateDoc.readsBack a)
  | raw r => exact congrArg (Option.map raw) (RawSql.readsBack r)

/-! ## 4. Expressions -/

namespace ExprDoc

/-- No expression is written as null, so a second operand is told from its absence. -/
theorem toData_ne_null (x : ExprDoc) : x.toData ≠ .scalar .null := by
  cases x <;> exact fun h => by cases h

theorem ofData?_leaf {kind : String} (h : kind ≠ "binary") (d : Data) :
    ofData? (.object [(kind, d)]) = leafOfData? kind d := by
  rw [ofData?]
  exact h

theorem ofData?_unary {d op left : Data}
    (h : record? ["op", "left", "right"] d = some [some op, some left, some (.scalar .null)]) :
    ofData? (.object [("binary", d)])
      = op.text?.bind fun op => (ofData? left).bind fun x => some (unary op x) := by
  rw [ofData?]
  split
  · next e => cases h.symm.trans e
  · next e =>
    cases h.symm.trans e
    rfl
  · next notNull e =>
    cases h.symm.trans e
    exact absurd rfl notNull
  · next noFields =>
    exact absurd h (noFields _ _ _)

theorem ofData?_binary {d op left right : Data} (notNull : right ≠ .scalar .null)
    (h : record? ["op", "left", "right"] d = some [some op, some left, some right]) :
    ofData? (.object [("binary", d)])
      = op.text?.bind fun op => (ofData? left).bind fun x =>
        (ofData? right).bind fun y => some (binary op x y) := by
  rw [ofData?]
  split
  · next e => cases h.symm.trans e
  · next e =>
    cases h.symm.trans e
    exact absurd rfl notNull
  · next e =>
    cases h.symm.trans e
    rfl
  · next noFields =>
    exact absurd h (noFields _ _ _)

theorem readsBack : ReadsBack toData ofData? := by
  intro x
  induction x with
  | column c =>
    rw [toData, ofData?_leaf (by decide)]
    exact congrArg (Option.map column) (ColumnDoc.readsBack c)
  | value v =>
    rw [toData, ofData?_leaf (by decide)]
    rfl
  | raw r =>
    rw [toData, ofData?_leaf (by decide)]
    exact congrArg (Option.map raw) (RawSql.readsBack r)
  | aggregate a =>
    rw [toData, ofData?_leaf (by decide)]
    exact congrArg (Option.map aggregate) (AggregateDoc.readsBack a)
  | unary op x operand =>
    have fields : record? ["op", "left", "right"]
        (.object [("op", ofText op), ("left", x.toData), ("right", .scalar .null)])
        = some [some (ofText op), some x.toData, some (.scalar .null)] :=
      fields?_object rfl (by decide)
    rw [toData, ofData?_unary fields, operand]
    rfl
  | binary op x y left right =>
    have fields : record? ["op", "left", "right"]
        (.object [("op", ofText op), ("left", x.toData), ("right", y.toData)])
        = some [some (ofText op), some x.toData, some y.toData] :=
      fields?_object rfl (by decide)
    rw [toData, ofData?_binary y.toData_ne_null fields, left, right]
    rfl
  | subquery name =>
    rw [toData, ofData?_leaf (by decide)]
    rfl
  | keyword k name =>
    have fields : record? ["keyword", "subquery"]
        (.object [("keyword", ofText k), ("subquery", ofText name)])
        = some [some (ofText k), some (ofText name)] := fields?_object rfl (by decide)
    rw [toData, ofData?_leaf (by decide), leafOfData?, keywordOfData?, fields]
    simp

end ExprDoc

/-! ## 5. Statements -/

/-- **A statement is read back from any record that its members are laid into.** -/
theorem StatementDoc.ofData?_toMembers (s : StatementDoc) (others : List (String × Data))
    (distinct : ((s.toMembers ++ others).map (·.1)).Nodup) :
    ofData? (.object (s.toMembers ++ others)) = some s := by
  have fields : fields? fieldNames (.object (s.toMembers ++ others))
      = some (s.toMembers.map (some ·.2)) :=
    fields?_of_mem s.toMembers distinct fun _ h => List.mem_append_left others h
  rw [ofData?, fields, toMembers]
  simp [SelectDoc.readsBack.list, SourceDoc.readsBack.nullable SourceDoc.toData_ne_null,
    ExprDoc.readsBack.list, ColumnDoc.readsBack.list, OrderDoc.readsBack.list, int?]

theorem SubqueryDoc.readsBack : ReadsBack toData ofData? := by
  intro s
  have distinct : ((s.statement.toMembers ++
      [("alias", ofText? s.aliasName), ("columns", .array (s.columns.map ofText))]).map
        (·.1)).Nodup := by
    show (StatementDoc.fieldNames ++ ["alias", "columns"]).Nodup
    decide
  have fields : fields? ["alias", "columns"] s.toData
      = some [some (ofText? s.aliasName), some (.array (s.columns.map ofText))] :=
    fields?_of_mem [("alias", _), ("columns", _)] distinct
      fun _ h => List.mem_append_right _ h
  rw [ofData?, fields]
  simp [toData, StatementDoc.ofData?_toMembers _ _ distinct, readsBack_text.list]

theorem QueryDocument.readsBack : ReadsBack toData ofData? := by
  intro q
  have distinct : ((q.statement.toMembers ++ [("subqueries",
      Data.object (q.subqueries.entries.map fun e => (e.1, e.2.toData)))]).map (·.1)).Nodup := by
    show (StatementDoc.fieldNames ++ ["subqueries"]).Nodup
    decide
  have fields : fields? ["subqueries"] q.toData
      = some [some (.object (q.subqueries.entries.map fun e => (e.1, e.2.toData)))] :=
    fields?_of_mem [("subqueries", _)] distinct
      fun _ h => List.mem_append_right _ h
  have statement : StatementDoc.ofData? q.toData = some q.statement :=
    StatementDoc.ofData?_toMembers _ _ distinct
  have subqueries : map? SubqueryDoc.ofData?
      (.object (q.subqueries.entries.map fun e => (e.1, e.2.toData))) = some q.subqueries :=
    SubqueryDoc.readsBack.map q.subqueries
  rw [ofData?, fields]
  simp [statement, subqueries]

/-! ## 6. Values -/

/-- The values of an expression, from left to right. -/
def ExprDoc.literals : ExprDoc → List Value
  | value v => [v]
  | raw r => r.args
  | unary _ x => x.literals
  | binary _ x y => x.literals ++ y.literals
  | column _ => []
  | aggregate _ => []
  | subquery _ => []
  | keyword _ _ => []

/-- The values of an item. -/
def SelectDoc.literals : SelectDoc → List Value
  | raw r => r.args
  | column _ => []
  | aggregate _ => []

/-- The values of a statement. -/
def StatementDoc.literals (s : StatementDoc) : List Value :=
  s.select.flatMap SelectDoc.literals ++ s.filters.flatMap ExprDoc.literals
    ++ s.having.flatMap ExprDoc.literals

/-- The values of a document, those of its named statements among them. -/
def QueryDocument.literals (q : QueryDocument) : List Value :=
  q.statement.literals ++ q.subqueries.entries.flatMap (·.2.statement.literals)

namespace Data

@[simp] theorem isExact_scalar (v : Value) : (scalar v).IsExact ↔ v.isFloat = false := by
  simp [IsExact, scalars]

theorem forall_mem_itemScalars {p : Value → Prop} {items : List Data} :
    (∀ v ∈ itemScalars items, p v) ↔ ∀ d ∈ items, ∀ v ∈ d.scalars, p v := by
  induction items with
  | nil => simp [itemScalars]
  | cons d items ih => simp [itemScalars, or_imp, forall_and, ih]

theorem forall_mem_memberScalars {p : Value → Prop} {members : List (String × Data)} :
    (∀ v ∈ memberScalars members, p v) ↔ ∀ m ∈ members, ∀ v ∈ m.2.scalars, p v := by
  induction members with
  | nil => simp [memberScalars]
  | cons m members ih => simp [memberScalars, or_imp, forall_and, ih]

@[simp] theorem isExact_array (items : List Data) :
    (array items).IsExact ↔ ∀ d ∈ items, d.IsExact := by
  rw [IsExact, scalars]
  exact forall_mem_itemScalars

@[simp] theorem isExact_object (members : List (String × Data)) :
    (object members).IsExact ↔ ∀ m ∈ members, m.2.IsExact := by
  rw [IsExact, scalars]
  exact forall_mem_memberScalars

@[simp] theorem isExact_ofText (s : String) : (ofText s).IsExact := by
  simp [ofText]

@[simp] theorem isExact_ofText? (o : Option String) : (ofText? o).IsExact := by
  cases o <;> simp [ofText?]

theorem isExact_orNull {α : Type} {write : α → Data} (h : ∀ a, (write a).IsExact)
    (o : Option α) : (orNull write o).IsExact := by
  cases o with
  | none => simp [orNull]
  | some a => exact h a

end Data

theorem TableDoc.isExact_toData (t : TableDoc) : t.toData.IsExact := by
  cases t <;> simp [toData]

theorem SourceDoc.isExact_toData (s : SourceDoc) : s.toData.IsExact := by
  cases s with
  | verbatim text => exact isExact_ofText text
  | table t => exact t.isExact_toData

@[simp] theorem ColumnDoc.isExact_toData (c : ColumnDoc) : c.toData.IsExact := by
  simp [toData, isExact_orNull TableDoc.isExact_toData]

@[simp] theorem AggregateDoc.isExact_toData (a : AggregateDoc) : a.toData.IsExact := by
  simp [toData, isExact_orNull TableDoc.isExact_toData]

@[simp] theorem RawSql.isExact_toData (r : RawSql) :
    r.toData.IsExact ↔ ∀ v ∈ r.args, v.isFloat = false := by
  simp [toData]

@[simp] theorem OrderDoc.isExact_toData (o : OrderDoc) : o.toData.IsExact := by
  simp [toData]

theorem SelectDoc.isExact_toData (i : SelectDoc) :
    i.toData.IsExact ↔ ∀ v ∈ i.literals, v.isFloat = false := by
  cases i <;> simp [toData, literals]

theorem ExprDoc.isExact_toData (x : ExprDoc) :
    x.toData.IsExact ↔ ∀ v ∈ x.literals, v.isFloat = false := by
  induction x with
  | unary op x operand => simp [toData, literals, operand]
  | binary op x y left right => simp [toData, literals, left, right, or_imp, forall_and]
  | _ => simp [toData, literals]

theorem StatementDoc.isExact_toMembers (s : StatementDoc) :
    (∀ m ∈ s.toMembers, m.2.IsExact) ↔ ∀ v ∈ s.literals, v.isFloat = false := by
  simp [toMembers, literals, isExact_orNull SourceDoc.isExact_toData, SelectDoc.isExact_toData,
    ExprDoc.isExact_toData, List.forall_mem_append, List.forall_mem_flatMap, -List.mem_append,
    -List.mem_flatMap]

theorem SubqueryDoc.isExact_toData (s : SubqueryDoc) :
    s.toData.IsExact ↔ ∀ v ∈ s.statement.literals, v.isFloat = false := by
  rw [toData, isExact_object, List.forall_mem_append, StatementDoc.isExact_toMembers]
  simp

/-- A document without floating-point literals is written without floating-point numbers. -/
theorem QueryDocument.isExact_toData (q : QueryDocument) :
    q.toData.IsExact ↔ ∀ v ∈ q.literals, v.isFloat = false := by
  simp only [toData, isExact_object, literals, List.forall_mem_append, List.forall_mem_flatMap,
    StatementDoc.isExact_toMembers, List.forall_mem_singleton, List.forall_mem_map,
    SubqueryDoc.isExact_toData]

/-! ## 7. The round trip -/

/-- **A document is read back from its JSON text**: a document without floating-point literals, and
nested no deeper than the reader allows, is what `QueryDocument.ofJson?` makes of its text. -/
theorem QueryDocument.ofJson?_toJson (q : QueryDocument)
    (exact : ∀ v ∈ q.literals, v.isFloat = false) (room : q.toData.depth ≤ Json.nestingLimit) :
    ofJson? q.toJson = some q := by
  have tree : Json.read? q.toJson = some q.toData :=
    Json.readWithin_compact (q.isExact_toData.2 exact) room
  rw [ofJson?, tree]
  exact q.readsBack

/-- A document with each kind of value but one, each kind of expression and each kind of source. -/
def everyShape : QueryDocument where
  statement :=
    { entity := some "users"
      select := [.column { name := "id", table := some (.entity "users" none), aliasName := some "" },
        .aggregate { function := "COUNT", field := "*" },
        .raw { sql := "? + ?", args := [.int (-9223372036854775808), .text "a\"\\\n\x00"] }]
      source := some (.table (.entity "users" (some "u")))
      filters := [.binary "eq" (.column { name := "name" }) (.value (.text "null")),
        .unary "is_null" (.value .null),
        .keyword "EXISTS " "inner",
        .binary "in" (.aggregate { function := "max", field := "age" }) (.subquery "outer")]
      groupBy := [{ name := "id" }]
      having := [.binary "gt" (.raw { sql := "1", args := [] }) (.value (.bool true))]
      orderBy := [{ column := { name := "id" }, dir := "sideways" }]
      limit := 10
      offset := -1 }
  subqueries := .ofList
    [("outer", { statement := { source := some (.table (.subquery "inner")) },
                 aliasName := some "o", columns := ["a", "b"] }),
      ("inner", { statement := { source := some (.verbatim "dual") } })]

theorem QueryDocument.ofJson?_toJson_everyShape :
    (∀ v ∈ everyShape.literals, v.isFloat = false) ∧
      everyShape.toData.depth ≤ Json.nestingLimit ∧
      ofJson? everyShape.toJson = some everyShape :=
  have exact : ∀ v ∈ everyShape.literals, v.isFloat = false := by decide +kernel
  have room : everyShape.toData.depth ≤ Json.nestingLimit := by decide +kernel
  ⟨exact, room, ofJson?_toJson everyShape exact room⟩

end SqlSelect
