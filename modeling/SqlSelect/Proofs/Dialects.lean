import SqlSelect.Proofs.Flaws
import SqlSelect.Proofs.Results
/-!
# Dialects only spell

A dialect has no part in what a document comes to, only in how it is spelled. What a document comes
to can be said before any dialect is chosen: an error, or a sequence of tokens in which every nested
statement stands in its place (`QueryDocument.tokens`).

* `Selector.inDialect` -- a statement written in another dialect; lowering is the same for it
  (`LowerM.lookUp_inDialect`, `QueryDocument.lower_inDialect`);
* `wordingOf_inDialect`, `firstFlaw?_inDialect` -- it has the same wording in other pieces, and the same
  first flaw;
* `run_of_empty` -- with empty cells a build fails with the first flaw or else renders the wording;
* `QueryDocument.render_eq_serialize` -- what a document renders to in a dialect is its tokens,
  serialized in this dialect.
-/

namespace SqlSelect

/-! ## 1. Statements in another dialect -/

/-- The same statement for another dialect. -/
def Selector.inDialect (d : Dialect) (s : Selector) : Selector :=
  { s with db := { s.db with dialect := d } }

/-- What has been lowered, for another dialect. -/
def Lowered.inDialect (d : Dialect) (st : Lowered) : Lowered :=
  { st with nested := st.nested.map (Selector.inDialect d) }

namespace LowerM

section InDialect

variable {d : Dialect} {lookUp lookUp' : String → LowerM Subquery}
  (names : ∀ name st, (lookUp' name).run (st.inDialect d)
    = ((lookUp name).run st).map fun r => (r.1, r.2.inDialect d))

include names

theorem follow_inDialect (m : Mention) (st : Lowered) :
    (follow lookUp' m).run (st.inDialect d)
      = ((follow lookUp m).run st).map fun r => (r.1, r.2.inDialect d) := by
  cases m with
  | operator text =>
    simp only [follow, operator]
    cases Operator.ofText? text <;> rfl
  | direction text =>
    simp only [follow]
    cases SortDir.ofText? text <;> rfl
  | subquery name =>
    rw [follow, follow, run_void, run_void, names name st]
    cases (lookUp name).run st <;> rfl

theorem forM_follow_inDialect (ms : List Mention) (st : Lowered) :
    (forM ms (follow lookUp')).run (st.inDialect d)
      = ((forM ms (follow lookUp)).run st).map fun r => (r.1, r.2.inDialect d) := by
  induction ms generalizing st with
  | nil => rfl
  | cons m ms ih =>
    rw [List.forM_cons, List.forM_cons, run_bind, run_bind, follow_inDialect names m st]
    cases (follow lookUp m).run st with
    | error e => rfl
    | ok r => exact ih r.2

/-- Lowering a statement is the same in another dialect, if looking up names is. -/
theorem statement_inDialect (yields : ∀ name, Yields (lookUp name) (· name))
    (yields' : ∀ name, Yields (lookUp' name) (· name)) (db : Db) (doc : StatementDoc)
    (st : Lowered) :
    (statement lookUp' { db with dialect := d } doc).run (st.inDialect d)
      = ((statement lookUp db doc).run st).map fun r => (r.1.inDialect d, r.2.inDialect d) := by
  have followed := forM_follow_inDialect names doc.mentions st
  rw [← follows_statement { db with dialect := d } doc, ← follows_statement db doc, run_void,
    run_void] at followed
  cases hs : (statement lookUp db doc).run st with
  | error e =>
    rw [hs] at followed
    cases hs' : (statement lookUp' { db with dialect := d } doc).run (st.inDialect d) with
    | error e' =>
      rw [hs'] at followed
      cases followed
      rfl
    | ok r' =>
      rw [hs'] at followed
      cases followed
  | ok r =>
    rw [hs] at followed
    cases hs' : (statement lookUp' { db with dialect := d } doc).run (st.inDialect d) with
    | error e' =>
      rw [hs'] at followed
      cases followed
    | ok r' =>
      rw [hs'] at followed
      have state : r'.2 = r.2.inDialect d := congrArg Prod.snd (Except.ok.inj followed)
      have result := (yields_statement yields db doc st r.1 r.2 hs).2 r.2 (.refl _)
      have result' := (yields_statement yields' _ doc _ r'.1 r'.2 hs').2 r'.2 (.refl _)
      have selector : r'.1 = r.1.inDialect d := by
        rw [result', result, state]
        rfl
      exact congrArg Except.ok (Prod.ext selector state)

end InDialect

theorem run_share (name : String) (doc : SubqueryDoc) (s : Selector) (st : Lowered) :
    (share name doc s).run st
      = .ok (⟨st.nested.length, doc.columns, nonEmpty doc.aliasName⟩,
          { built := st.built.insert name ⟨st.nested.length, doc.columns, nonEmpty doc.aliasName⟩,
            nested := st.nested ++ [s] }) := rfl

/-- A statement gets the same number in another dialect. -/
theorem share_inDialect (d : Dialect) (name : String) (doc : SubqueryDoc) (s : Selector)
    (st : Lowered) :
    (share name doc (s.inDialect d)).run (st.inDialect d)
      = ((share name doc s).run st).map fun r => (r.1, r.2.inDialect d) := by
  rw [run_share, run_share]
  simp [Except.map, Lowered.inDialect]

/-- **A name is lowered in another dialect as in the first.** -/
theorem lookUp_inDialect (d : Dialect) (db : Db) (docs unvisited : KeyMap SubqueryDoc)
    (name : String) (st : Lowered) :
    (LowerM.lookUp { db with dialect := d } docs unvisited name).run (st.inDialect d)
      = ((LowerM.lookUp db docs unvisited name).run st).map fun r => (r.1, r.2.inDialect d) := by
  induction hsize : unvisited.size using Nat.strongRecOn generalizing unvisited name st with
  | _ size ih =>
    cases hbuilt : st.built.get? name with
    | some reference =>
      have hbuilt' : (st.inDialect d).built.get? name = some reference := hbuilt
      rw [run_lookUp_built hbuilt, run_lookUp_built hbuilt']
      rfl
    | none =>
      have hbuilt' : (st.inDialect d).built.get? name = none := hbuilt
      cases hdoc : unvisited.get? name with
      | none =>
        rw [run_lookUp_visited hbuilt hdoc, run_lookUp_visited hbuilt' hdoc]
        rfl
      | some doc =>
        have inside := statement_inDialect (fun n st =>
          ih _ (hsize ▸ KeyMap.size_erase_lt hdoc) (unvisited.erase name) n st rfl)
          (fun n => yields_lookUp db docs (unvisited.erase name) n)
          (fun n => yields_lookUp _ docs (unvisited.erase name) n) db doc.statement st
        rw [run_lookUp_unvisited hbuilt hdoc, run_lookUp_unvisited hbuilt' hdoc, inside]
        cases (statement (LowerM.lookUp db docs (unvisited.erase name)) db doc.statement).run st with
        | error e => rfl
        | ok r => exact share_inDialect d name doc r.1 r.2

end LowerM

/-- **A document is lowered in another dialect as in the first.** -/
theorem QueryDocument.lower_inDialect (q : QueryDocument) (db : Db) (d : Dialect) :
    q.lower { db with dialect := d }
      = (q.lower db).map fun r => (r.1.inDialect d, r.2.map (Selector.inDialect d)) := by
  have lowered := LowerM.statement_inDialect
    (fun name st => LowerM.lookUp_inDialect d db q.subqueries q.subqueries name st)
    (fun name => LowerM.yields_lookUp db q.subqueries q.subqueries name)
    (fun name => LowerM.yields_lookUp _ q.subqueries q.subqueries name) db q.statement {}
  have empty : ({} : Lowered).inDialect d = {} := rfl
  rw [empty] at lowered
  rw [lower_eq_map, lower_eq_map, lowered]
  cases (LowerM.statement (LowerM.lookUp db q.subqueries q.subqueries) db q.statement).run {} with
  | error e => rfl
  | ok r => rfl

/-! ## 2. Wordings in another dialect -/

namespace Piece

/-- The same token in another dialect. -/
def inDialect (d : Dialect) (p : Piece) : Piece := { p with dialect := d }

theorem map_inDialect_own (d d' : Dialect) (ts : List Token) :
    (own d ts).map (inDialect d') = own d' ts := by
  rw [own, List.map_map]
  rfl

/-- Pieces of one dialect are its tokens. -/
theorem render_map_inDialect (d : Dialect) (ps : List Piece) :
    render (ps.map (inDialect d)) = Token.render d (ps.map Piece.token) := by
  rw [← render_own, own, List.map_map]
  rfl

end Piece

namespace Wording

open Piece (inDialect map_inDialect_own)

section InDialect

variable (d d' : Dialect) (lk : Lookup) (said : Nat → List Piece)

theorem subquery_inDialect (s : Subquery) :
    (subquery d said s).map (inDialect d')
      = subquery d' (fun n => (said n).map (inDialect d')) s := by
  simp only [subquery, List.map_append, map_inDialect_own]

theorem operand_inDialect (x : Expr) (ps : List Piece) :
    (operand d x ps).map (inDialect d') = operand d' x (ps.map (inDialect d')) := by
  unfold operand
  split
  · simp only [List.map_append, map_inDialect_own]
  · rfl

theorem expr_inDialect (x : Expr) :
    (expr d lk said x).map (inDialect d')
      = expr d' lk (fun n => (said n).map (inDialect d')) x := by
  induction x with
  | subquery s => exact subquery_inDialect d d' said s
  | keyword k =>
    simp only [expr, List.map_append, map_inDialect_own, subquery_inDialect d d']
  | unary kind op x ih =>
    simp only [expr, ← ih]
    split <;> simp only [List.map_append, map_inDialect_own, operand_inDialect d d']
  | binary kind op x y ihx ihy =>
    simp only [expr, List.map_append, map_inDialect_own, operand_inDialect d d', ihx, ihy]
  | _ => exact map_inDialect_own d d' _

theorem source_inDialect (source : Source) :
    (Wording.source d lk said source).map (inDialect d')
      = Wording.source d' lk (fun n => (said n).map (inDialect d')) source := by
  match source with
  | .entity => exact map_inDialect_own d d' _
  | .verbatim text => exact map_inDialect_own d d' _
  | .reference (.table t) => exact map_inDialect_own d d' _
  | .reference (.subquery s) =>
    simp only [Wording.source, List.map_append, map_inDialect_own, subquery_inDialect d d']

theorem clause_inDialect {α : Type} (keyword : Token) (parts : List α) (body : List Piece) :
    (clause d keyword parts body).map (inDialect d')
      = clause d' keyword parts (body.map (inDialect d')) := by
  unfold clause
  split
  · rfl
  · simp only [List.map_append, map_inDialect_own]

theorem conditions_inDialect (xs : List Expr) :
    (conditions d lk said xs).map (inDialect d')
      = conditions d' lk (fun n => (said n).map (inDialect d')) xs := by
  unfold conditions
  cases Scope.conjunction xs with
  | none => rfl
  | some x => exact expr_inDialect d d' lk said x

/-- **A statement has the same wording in another dialect.** -/
theorem statement_inDialect (s : Selector) :
    (statement d lk said s).map (inDialect d')
      = statement d' lk (fun n => (said n).map (inDialect d')) (s.inDialect d') := by
  simp only [statement, List.map_append, map_inDialect_own, source_inDialect d d',
    clause_inDialect d d', conditions_inDialect d d', Selector.inDialect]

end InDialect

end Wording

section Statements

variable (describe : Nat → EntityKey → Except BuildError EntityMetadata) (d : Dialect)

theorem lookupOf_inDialect (before : List Selector) (s : Selector) :
    lookupOf describe (before.map (Selector.inDialect d)) (s.inDialect d)
      = lookupOf describe before s := by
  have nested : ∀ n : Nat, (before.map (Selector.inDialect d))[n]?.bind (entityOf describe)
      = before[n]?.bind (entityOf describe) := by
    intro n
    rw [List.getElem?_map]
    cases before[n]? <;> rfl
  unfold lookupOf
  rw [funext nested]
  rfl

theorem bodyOf_inDialect {said said' : Nat → List Piece} (before : List Selector) (s : Selector)
    (hsaid : ∀ n, said' n = (said n).map (Piece.inDialect d)) :
    bodyOf describe (before.map (Selector.inDialect d)) said' (s.inDialect d)
      = (bodyOf describe before said s).map (Piece.inDialect d) := by
  rw [bodyOf, bodyOf, lookupOf_inDialect, funext hsaid, Wording.statement_inDialect]
  rfl

theorem wordings_inDialect (nested : List Selector) (n : Nat) :
    wordings (fun _ => none) describe (nested.map (Selector.inDialect d)) n
      = (wordings (fun _ => none) describe nested n).map (Piece.inDialect d) := by
  rw [wordings, wordings, tabulate_map]
  exact tabulate_relation (a := []) (b := [])
    (R := fun (ps qs : List Piece) => ps = qs.map (Piece.inDialect d)) rfl
    (fun before _ _ s hsaid => bodyOf_inDialect describe d before s hsaid) nested n

/-- **A statement behind others has the same wording in another dialect.** -/
theorem wordingOf_inDialect (nested : List Selector) (s : Selector) :
    wordingOf (fun _ => none) describe (nested.map (Selector.inDialect d)) (s.inDialect d)
      = (wordingOf (fun _ => none) describe nested s).map (Piece.inDialect d) := by
  rw [wordingOf, wordingOf, List.map_append, Piece.map_inDialect_own,
    bodyOf_inDialect describe d nested s (wordings_inDialect describe d nested)]
  rfl

theorem nestedEntity_inDialect (before : List Selector) (n : Nat) :
    nestedEntity describe (before.map (Selector.inDialect d)) n = nestedEntity describe before n := by
  unfold nestedEntity
  rw [List.getElem?_map]
  cases before[n]? <;> rfl

theorem flaw?_inDialect (before : List Selector) (inner : Nat → Option BuildError) (s : Selector) :
    (s.inDialect d).flaw? describe (before.map (Selector.inDialect d)) inner
      = s.flaw? describe before inner := by
  have items : ∀ registry primary i,
      Item.flaw? describe registry primary (before.map (Selector.inDialect d)) inner i
        = Item.flaw? describe registry primary before inner i := by
    intro registry primary i
    unfold Item.flaw?
    simp only [nestedEntity_inDialect]
  unfold Selector.flaw?
  simp only [funext (items _ _)]
  rfl

/-- **A statement has the same first flaw in another dialect.** -/
theorem firstFlaw?_inDialect (nested : List Selector) (s : Selector) :
    (s.inDialect d).firstFlaw? describe (nested.map (Selector.inDialect d))
      = s.firstFlaw? describe nested := by
  have same : flaws describe (nested.map (Selector.inDialect d)) = flaws describe nested := by
    unfold flaws
    funext n
    rw [tabulate_map]
    simp only [flaw?_inDialect]
  rw [Selector.firstFlaw?, Selector.firstFlaw?, same, flaw?_inDialect]

end Statements

/-! ## 3. The outcome of a build -/

/-- **With empty cells a build fails with its first flaw, or else renders its wording.** -/
theorem run_of_empty {nested : List Selector} {st : Store} (empty : ∀ n, st.cells n = none)
    (s : Selector) :
    ((s.build (.ofList .inCells resolve nested)).run.run st).1
      = verdict (Piece.render (wordingOf (fun _ => none) st.answer nested s))
          (s.firstFlaw? st.answer nested) := by
  have unflawed : st.Unflawed st.answer nested fun _ => True :=
    ⟨rfl, fun n _ hfilled => absurd (empty n) hfilled⟩
  have served : (answering (Store.Unflawed st.answer nested fun _ => True)).Serves s
      (.ofList .inCells resolve (nested.take nested.length))
      (judged st.answer (nested.take nested.length)) :=
    serves_judged (Nat.le_refl nested.length) fun i _ n _ below =>
      query_judged (fun _ _ _ _ _ _ _ _ _ => trivial) below trivial
  rw [List.take_length] at served
  have outcome := (served.voidly_build st unflawed).1
  rw [run_voidly, voidly_build_judged] at outcome
  cases hflaw : s.firstFlaw? st.answer nested with
  | some e =>
    rw [hflaw] at outcome
    rcases h : (s.build (.ofList .inCells resolve nested)).run.run st with ⟨e' | query, st'⟩
    · rw [h] at outcome
      cases outcome
      rfl
    · rw [h] at outcome
      cases outcome
  | none =>
    rw [hflaw] at outcome
    rcases h : (s.build (.ofList .inCells resolve nested)).run.run st with ⟨e | query, st'⟩
    · rw [h] at outcome
      cases outcome
    · exact congrArg Except.ok (build_writes_of_empty empty h)

/-! ## 4. Documents -/

/-- One pass over a list of tokens writes their serialization and collects their values. -/
theorem Token.render_eq_serialize (d : Dialect) (ts : List Token) :
    render d ts = { sql := serialize d ts, args := ts.flatMap args } := by
  have sql : (render d ts).sql = serialize d ts := by
    rw [← String.toList_inj, toList_render_sql, serialize, String.toList_join, List.flatMap_map]
    rfl
  rw [← sql, ← render_args d ts]

/-- Dialects that quote and spell alike serialize alike. -/
theorem Token.serialize_congr {d d' : Dialect}
    (quoted : ∀ name, d.quoteIdentifier name = d'.quoteIdentifier name)
    (spelled : ∀ op, d.spelling op = d'.spelling op) (ts : List Token) :
    serialize d ts = serialize d' ts := by
  have same : text d = text d' := by
    funext t
    cases t with
    | ident name => exact quoted name
    | op operator => exact spelled operator
    | _ => rfl
  rw [serialize, serialize, same]

namespace QueryDocument

/-- **What a document comes to before a dialect is chosen**: an error, or a sequence of tokens in which
every nested statement stands in its place, as often as it is referred to. The dialect that the
document is lowered with has no part in it. -/
def tokens (q : QueryDocument) (registry : Registry) : Except DocumentError (List Token) := do
  let (selector, nested) ← q.lower { registry := 0, dialect := default }
  let describe := (Store.ofRegistry registry).answer
  let wording := wordingOf (fun _ => none) describe nested selector
  (verdict (wording.map Piece.token) (selector.firstFlaw? describe nested)).mapError
    DocumentError.build

theorem render_eq (q : QueryDocument) (registry : Registry) (d : Dialect) :
    q.render registry d = (q.tokens registry).map (Token.render d) := by
  have lowered := q.lower_inDialect { registry := 0, dialect := default } d
  cases h : q.lower { registry := 0, dialect := default } with
  | error e =>
    rw [h] at lowered
    rw [render_of_lower_error lowered, tokens, h]
    rfl
  | ok r =>
    rw [h] at lowered
    rw [render_of_lower_ok lowered, run_of_empty (fun _ => rfl), firstFlaw?_inDialect,
      wordingOf_inDialect, Piece.render_map_inDialect, tokens, h]
    show Except.mapError DocumentError.build (verdict _ _) = Except.map (Token.render d)
      (Except.mapError DocumentError.build (verdict _ (r.1.firstFlaw? _ r.2)))
    cases r.1.firstFlaw? (Store.ofRegistry registry).answer r.2 <;> rfl

/-- **Dialects only spell.** What a document renders to in any dialect is the serialization in this
dialect of one sequence of tokens, with the values of these tokens, or one error. So under two dialects
it fails with the same error or renders with the same values, and to the same text if they quote
every name alike and spell every operator alike. -/
theorem render_in_every_dialect (q : QueryDocument) (registry : Registry) :
    (∀ d, q.render registry d = (q.tokens registry).map fun ts =>
        { sql := Token.serialize d ts, args := ts.flatMap Token.args }) ∧
      ∀ d d',
        ((∃ e, q.render registry d = .error e ∧ q.render registry d' = .error e) ∨
          ∃ r r', q.render registry d = .ok r ∧ q.render registry d' = .ok r' ∧ r.args = r'.args) ∧
        ((∀ name, d.quoteIdentifier name = d'.quoteIdentifier name) →
          (∀ op, d.spelling op = d'.spelling op) → q.render registry d = q.render registry d') := by
  have serialized : ∀ d, q.render registry d = (q.tokens registry).map fun ts =>
      { sql := Token.serialize d ts, args := ts.flatMap Token.args } := by
    intro d
    rw [render_eq, funext (Token.render_eq_serialize d)]
  refine ⟨serialized, fun d d' => ⟨?_, fun quoted spelled => ?_⟩⟩
  · rw [serialized d, serialized d']
    cases q.tokens registry with
    | error e => exact .inl ⟨e, rfl, rfl⟩
    | ok ts => exact .inr ⟨_, _, rfl, rfl, rfl⟩
  · rw [serialized d, serialized d', funext (Token.serialize_congr quoted spelled)]

/-- Users not of one number, of whom there is a namesake. -/
def strangers : QueryDocument where
  statement :=
    { entity := some "user"
      filters := [.binary "ne" (.column { name := "Id" }) (.value (.int 7)),
        .keyword "exists" "same"] }
  subqueries := .ofList [("same", { statement :=
    { entity := some "user", select := [.column { name := "Name" }] } })]

/-- One dialect with the inequality sign of another. -/
def borrowed : Dialect := BaseDialect.sqlite.toDialect.withSpelling .ne "<>"

theorem render_in_every_dialect_borrowed :
    (∀ name, borrowed.quoteIdentifier name = BaseDialect.postgres.toDialect.quoteIdentifier name) ∧
      (∀ op, borrowed.spelling op = BaseDialect.postgres.toDialect.spelling op) ∧
      strangers.render (usersStore.registries 0) borrowed
        = strangers.render (usersStore.registries 0) BaseDialect.postgres.toDialect ∧
      (strangers.render (usersStore.registries 0) borrowed).toOption.map Query.sql
        = some ("SELECT * FROM \"users\" WHERE (\"id\" <> ?) AND EXISTS "
          ++ "(SELECT \"name\" FROM \"users\");") := by
  have quoted : ∀ name,
      borrowed.quoteIdentifier name = BaseDialect.postgres.toDialect.quoteIdentifier name :=
    fun _ => rfl
  have spelled : ∀ op, borrowed.spelling op = BaseDialect.postgres.toDialect.spelling op := by
    intro op
    cases op <;> rfl
  have alike := ((render_in_every_dialect strangers (usersStore.registries 0)).2 borrowed
    BaseDialect.postgres.toDialect).2 quoted spelled
  exact ⟨quoted, spelled, alike, by decide +kernel⟩

end QueryDocument

end SqlSelect
