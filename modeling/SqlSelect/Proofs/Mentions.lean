import SqlSelect.Document.Lowering
import SqlSelect.Proofs.Following
/-!
# What lowering follows

A statement of a document mentions texts that lowering has to understand: names of other statements,
operators and directions. Everything else is taken over as it stands. So what lowering does to its
state, and where it fails, is settled by the mentions and their order alone.

* `Mention`, `StatementDoc.mentions` -- the mentions of a statement, in the order in which lowering
  comes to them;
* `LowerM.follow` -- following one mention;
* `LowerM.follows_statement` -- lowering a statement follows its mentions; from here on no clause has
  to be looked at again;
* `LowerM.statement_error`, `LowerM.follow_ok` -- following mentions, failing and successful;
* `LowerM.run_lookUp_built`, `run_lookUp_visited`, `run_lookUp_unvisited` -- the three things that
  looking up a name can come to.
-/

namespace SqlSelect

/-! ## 1. Mentions -/

/-- A text in a document that lowering has to understand. -/
inductive Mention
  | operator (text : String)
  | direction (text : String)
  | subquery (name : String)

/-- The mentions of a source of columns. -/
def TableDoc.mentions : TableDoc → List Mention
  | .subquery name => [.subquery name]
  | .entity .. => []

/-- The mentions of a column. -/
def ColumnDoc.mentions (c : ColumnDoc) : List Mention := c.table.elim [] TableDoc.mentions

/-- The mentions of an aggregate. -/
def AggregateDoc.mentions (a : AggregateDoc) : List Mention := a.table.elim [] TableDoc.mentions

/-- The mentions of an item of a `SELECT` list. -/
def SelectDoc.mentions : SelectDoc → List Mention
  | .column c => c.mentions
  | .aggregate a => a.mentions
  | .raw _ => []

/-- The mentions of the source of the rows. -/
def SourceDoc.mentions : SourceDoc → List Mention
  | .verbatim _ => []
  | .table t => t.mentions

/-- The mentions of an expression. -/
def ExprDoc.mentions : ExprDoc → List Mention
  | .column c => c.mentions
  | .value _ => []
  | .raw _ => []
  | .aggregate a => a.mentions
  | .unary op x => .operator op :: x.mentions
  | .binary op x y => .operator op :: (x.mentions ++ y.mentions)
  | .subquery name => [.subquery name]
  | .keyword _ name => [.subquery name]

/-- The mentions of a column to order by. -/
def OrderDoc.mentions (o : OrderDoc) : List Mention := .direction o.dir :: o.column.mentions

/-- The mentions of a statement, clause by clause. -/
def StatementDoc.mentions (s : StatementDoc) : List Mention :=
  s.select.flatMap SelectDoc.mentions ++ s.source.elim [] SourceDoc.mentions
    ++ s.filters.flatMap ExprDoc.mentions ++ s.groupBy.flatMap ColumnDoc.mentions
    ++ s.having.flatMap ExprDoc.mentions ++ s.orderBy.flatMap OrderDoc.mentions

/-! ## 2. Following mentions -/

namespace LowerM

variable {α β : Type} (lookUp : String → LowerM Subquery)

/-- Following a mention: a name is looked up, and any other text is read. -/
def follow : Mention → LowerM Unit
  | .operator text => voidly (operator text)
  | .direction text =>
    match SortDir.ofText? text with
    | some _ => pure ()
    | none => throw (.unknownSortDirection text)
  | .subquery name => voidly (lookUp name)

variable {lookUp}

theorem follows_lookUp (name : String) : Following (follow lookUp) (lookUp name) [.subquery name] :=
  .ofStep rfl

theorem follows_operator (text : String) : Following (follow lookUp) (operator text) [.operator text] :=
  .ofStep rfl

theorem follows_table (t : TableDoc) : Following (follow lookUp) (table lookUp t) t.mentions := by
  cases t with
  | subquery name => exact (follows_lookUp name).thenPure _
  | entity entity aliasName => exact .ofPure _

theorem follows_table? (t : Option TableDoc) :
    Following (follow lookUp) (table? lookUp t) (t.elim [] TableDoc.mentions) := by
  cases t with
  | none => exact .ofPure _
  | some t => exact (follows_table t).thenPure _

theorem follows_column (c : ColumnDoc) : Following (follow lookUp) (column lookUp c) c.mentions :=
  (follows_table? c.table).thenPure _

theorem follows_aggregate (a : AggregateDoc) : Following (follow lookUp) (aggregate lookUp a) a.mentions :=
  (follows_table? a.table).thenPure _

theorem follows_expr (x : ExprDoc) : Following (follow lookUp) (expr lookUp x) x.mentions := by
  induction x with
  | column c => exact (follows_column c).thenPure _
  | value v => exact .ofPure _
  | raw r => exact .ofPure _
  | aggregate a => exact (follows_aggregate a).thenPure _
  | unary text x ih => exact (follows_operator text).bind fun _ => ih.thenPure _
  | binary text x y ihx ihy =>
    exact (follows_operator text).bind fun _ => ihx.bind fun _ => ihy.thenPure _
  | subquery name => exact (follows_lookUp name).thenPure _
  | keyword text name => exact (follows_lookUp name).thenPure _

theorem follows_selectable (item : SelectDoc) :
    Following (follow lookUp) (selectable lookUp item) item.mentions := by
  cases item with
  | column c => exact (follows_column c).thenPure _
  | aggregate a => exact (follows_aggregate a).thenPure _
  | raw r => exact .ofPure _

theorem follows_source (source : Option SourceDoc) :
    Following (follow lookUp) (LowerM.source lookUp source) (source.elim [] SourceDoc.mentions) := by
  match source with
  | none => exact .ofPure _
  | some (.verbatim text) => exact .ofPure _
  | some (.table t) => exact (follows_table t).thenPure _

theorem follows_ordering (o : OrderDoc) : Following (follow lookUp) (ordering lookUp o) o.mentions := by
  unfold ordering
  cases h : SortDir.ofText? o.dir with
  | some dir =>
    have read : Following (follow lookUp) (pure ()) [.direction o.dir] :=
      .ofStep (by simp only [follow, h, voidly_pure])
    have both := read.bind fun _ => (follows_column o.column).thenPure fun c => OrderBy.mk c dir
    rwa [pure_bind] at both
  | none =>
    simp only [Following, OrderDoc.mentions, List.forM_cons, follow, h]
    rfl

/-- **Lowering a statement follows its mentions.** -/
theorem follows_statement (db : Db) (doc : StatementDoc) :
    Following (follow lookUp) (statement lookUp db doc) doc.mentions := by
  unfold statement StatementDoc.mentions
  simp only [List.append_assoc]
  exact (Following.mapM follows_selectable doc.select).bind fun _ =>
    (follows_source doc.source).bind fun _ =>
    (Following.mapM follows_expr doc.filters).bind fun _ =>
    (Following.mapM follows_column doc.groupBy).bind fun _ =>
    (Following.mapM follows_expr doc.having).bind fun _ =>
    (Following.mapM follows_ordering doc.orderBy).thenPure _

/-! ## 3. Runs -/

theorem run_bind {x : LowerM α} {f : α → LowerM β} (st : Lowered) :
    (x >>= f).run st = x.run st >>= fun r => (f r.1).run r.2 :=
  StateT.run_bind x f st

/-- A computation that first looks at the state. -/
theorem run_get_bind {f : Lowered → LowerM α} (st : Lowered) :
    (get >>= f).run st = (f st).run st := rfl

/-- A computation fails where following its mentions does. -/
theorem run_error_of_follows {x : LowerM α} {ms : List Mention} (h : Following (follow lookUp) x ms)
    {st : Lowered} {e : DocumentError} (hx : x.run st = .error e) :
    (forM ms (follow lookUp)).run st = .error e := by
  rw [← show _ = _ from h, voidly, StateT.run_map, hx]
  rfl

/-- A computation leaves the state that following its mentions leaves. -/
theorem run_ok_of_follows {x : LowerM α} {ms : List Mention} (h : Following (follow lookUp) x ms)
    {st st' : Lowered} {a : α} (hx : x.run st = .ok (a, st')) :
    (forM ms (follow lookUp)).run st = .ok ((), st') := by
  rw [← show _ = _ from h, voidly, StateT.run_map, hx]
  rfl

/-- One of the mentions is followed when following them fails. -/
theorem follow_error {ms : List Mention} {st : Lowered} {e : DocumentError}
    (h : (forM ms (follow lookUp)).run st = .error e) :
    ∃ m ∈ ms, ∃ st', (follow lookUp m).run st' = .error e := by
  induction ms generalizing st with
  | nil => cases h
  | cons m ms ih =>
    rw [List.forM_cons, run_bind] at h
    cases hm : (follow lookUp m).run st with
    | error e' =>
      rw [hm] at h
      cases h
      exact ⟨m, List.mem_cons_self, st, hm⟩
    | ok r =>
      rw [hm] at h
      obtain ⟨m', hm', st', hst'⟩ := ih h
      exact ⟨m', List.mem_cons_of_mem m hm', st', hst'⟩

/-- One of the mentions of a statement is followed when lowering the statement fails. -/
theorem statement_error {db : Db} {doc : StatementDoc} {st : Lowered} {e : DocumentError}
    (h : (statement lookUp db doc).run st = .error e) :
    ∃ m ∈ doc.mentions, ∃ st', (follow lookUp m).run st' = .error e :=
  follow_error (run_error_of_follows (follows_statement db doc) h)

/-- What holds of each mention that is followed, and what each step keeps. -/
theorem follow_ok {I : Lowered → Prop} {Q : Mention → Prop} {ms : List Mention}
    (hstep : ∀ m ∈ ms, ∀ st st', I st → (follow lookUp m).run st = .ok ((), st') → I st' ∧ Q m)
    {st st' : Lowered} (hst : I st) (h : (forM ms (follow lookUp)).run st = .ok ((), st')) :
    I st' ∧ ∀ m ∈ ms, Q m := by
  induction ms generalizing st with
  | nil =>
    cases h
    exact ⟨hst, fun _ hm => nomatch hm⟩
  | cons m ms ih =>
    rw [List.forM_cons, run_bind] at h
    cases hm : (follow lookUp m).run st with
    | error e =>
      rw [hm] at h
      cases h
    | ok r =>
      rw [hm] at h
      obtain ⟨hr, hQ⟩ := hstep m List.mem_cons_self st r.2 hst hm
      have hrest := fun m' hm' => hstep m' (List.mem_cons_of_mem m hm')
      obtain ⟨hst', hall⟩ := ih hrest hr h
      refine ⟨hst', fun m' hm' => ?_⟩
      rcases List.mem_cons.1 hm' with rfl | hm'
      · exact hQ
      · exact hall m' hm'

section LookUp

variable {db : Db} {docs unvisited : KeyMap SubqueryDoc} {name : String} {st : Lowered}

/-- What was lowered before is found. -/
theorem run_lookUp_built {reference : Subquery} (h : st.built.get? name = some reference) :
    (LowerM.lookUp db docs unvisited name).run st = .ok (reference, st) := by
  rw [LowerM.lookUp, run_get_bind, h]
  rfl

/-- A name on the way leads back to itself, and any other has no statement. -/
theorem run_lookUp_visited (h : st.built.get? name = none) (hv : unvisited.get? name = none) :
    (LowerM.lookUp db docs unvisited name).run st
      = .error (if docs.contains name then .subqueryCycle name else .unknownSubquery name) := by
  rw [LowerM.lookUp, run_get_bind, h]
  dsimp only
  split
  · next doc hdoc => cases hdoc.symm.trans hv
  · rfl

/-- Any other statement is lowered now. -/
theorem run_lookUp_unvisited {doc : SubqueryDoc} (h : st.built.get? name = none)
    (hv : unvisited.get? name = some doc) :
    (LowerM.lookUp db docs unvisited name).run st
      = (statement (LowerM.lookUp db docs (unvisited.erase name)) db doc.statement).run st
        >>= fun r => (share name doc r.1).run r.2 := by
  rw [LowerM.lookUp, run_get_bind, h]
  dsimp only
  split
  · next doc' hdoc =>
    obtain rfl : doc' = doc := Option.some.inj (hdoc.symm.trans hv)
    exact run_bind st
  · next hdoc => cases hdoc.symm.trans hv

theorem run_lookUp_error {doc : SubqueryDoc} {e : DocumentError}
    (h : st.built.get? name = none) (hv : unvisited.get? name = some doc)
    (hs : (statement (LowerM.lookUp db docs (unvisited.erase name)) db doc.statement).run st
      = .error e) : (LowerM.lookUp db docs unvisited name).run st = .error e := by
  rw [run_lookUp_unvisited h hv, hs]
  rfl

/-- A statement that was lowered for a name joins those that are lowered. -/
theorem run_lookUp_ok {doc : SubqueryDoc} {r : Selector × Lowered}
    (h : st.built.get? name = none) (hv : unvisited.get? name = some doc)
    (hs : (statement (LowerM.lookUp db docs (unvisited.erase name)) db doc.statement).run st
      = .ok r) :
    ∃ reference, (LowerM.lookUp db docs unvisited name).run st
      = .ok (reference, { built := r.2.built.insert name reference,
                          nested := r.2.nested ++ [r.1] }) := by
  rw [run_lookUp_unvisited h hv, hs]
  exact ⟨_, rfl⟩

end LookUp

end LowerM

end SqlSelect
