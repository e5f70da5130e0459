import Mathlib.Logic.Function.Basic
import SqlSelect.Proofs.Arguments
import SqlSelect.Session
/-!
# Calls of the builder in any order

A call of the builder touches one clause. It replaces what stands there by a function of it, and what
stands in the other clauses is neither looked at nor changed. So what a row of calls leaves in a clause
is decided by the calls to this clause, in their order, and two rows that agree clause by clause leave
the same statement.

* `Clause`, `Selector.content` -- the clauses of a statement, and what stands in each of them;
* `Call`, `Selector.after` -- the calls of the builder, and a statement after a row of them;
* `content_apply` -- what a call does to the contents of all clauses, said once; from here on no call
  has to be looked at again;
* `content_after_filter` -- what a row of calls leaves in a clause is what its calls to this clause
  leave there;
* `Call.SplitInto` -- the calls that take a list, and the same list call by call;
* `build_reordered` -- statements made by such rows are built to the same result from every state.
-/

namespace SqlSelect

/-! ## 1. Clauses and their contents -/

/-- What a call of the builder can touch. -/
inductive Clause
  | columns
  | source
  | filters
  | groupBy
  | having
  | orderBy
  | limit
  | offset
  deriving DecidableEq, Repr

/-- What can stand in a clause. -/
def Clause.Content : Clause → Type
  | columns => List Selectable
  | source => Source
  | filters => List Expr
  | groupBy => List Column
  | having => List Expr
  | orderBy => List OrderBy
  | limit => Int64
  | offset => Int64

namespace Selector

/-- What stands in the clauses of a statement. -/
def content (s : Selector) : (c : Clause) → c.Content
  | .columns => s.columns
  | .source => s.source
  | .filters => s.filters
  | .groupBy => s.groupBy
  | .having => s.having
  | .orderBy => s.orderBy
  | .limit => s.limit
  | .offset => s.offset

/-- The statement about the same entity, with other contents of its clauses. -/
def withContent (s : Selector) (content : (c : Clause) → c.Content) : Selector where
  db := s.db
  entity := s.entity
  columns := content .columns
  source := content .source
  filters := content .filters
  groupBy := content .groupBy
  having := content .having
  orderBy := content .orderBy
  limit := content .limit
  offset := content .offset

@[simp] theorem content_withContent (s : Selector) (content : (c : Clause) → c.Content) :
    (s.withContent content).content = content := by
  funext c
  cases c <;> rfl

theorem withContent_withContent (s : Selector) (first second : (c : Clause) → c.Content) :
    (s.withContent first).withContent second = s.withContent second := rfl

end Selector

/-! ## 2. Calls -/

/-- A call of the builder. -/
inductive Call
  | select (items : List Selectable)
  | addColumn (item : Selectable)
  | fromText (text : String)
  | fromTable (table : TableRef)
  | filter (x : Expr)
  | whereAll (xs : List Expr)
  | addGroupBy (columns : List Column)
  | addHaving (x : Expr)
  | havingAll (xs : List Expr)
  | addOrderBy (items : List OrderBy)
  | withLimit (n : Int64)
  | withOffset (n : Int64)
  deriving Repr

namespace Call

/-- The statement after a call. -/
def apply : Call → Selector → Selector
  | select items, s => s.select items
  | addColumn item, s => s.addColumn item
  | fromText text, s => s.fromText text
  | fromTable table, s => s.fromTable table
  | filter x, s => s.filter x
  | whereAll xs, s => s.whereAll xs
  | addGroupBy columns, s => s.addGroupBy columns
  | addHaving x, s => s.addHaving x
  | havingAll xs, s => s.havingAll xs
  | addOrderBy items, s => s.addOrderBy items
  | withLimit n, s => s.withLimit n
  | withOffset n, s => s.withOffset n

/-- The clause that a call touches. -/
def clause : Call → Clause
  | select _ | addColumn _ => .columns
  | fromText _ | fromTable _ => .source
  | filter _ | whereAll _ => .filters
  | addGroupBy _ => .groupBy
  | addHaving _ | havingAll _ => .having
  | addOrderBy _ => .orderBy
  | withLimit _ => .limit
  | withOffset _ => .offset

/-- What a call makes of the content of its clause: some calls replace it, others put something behind
it. -/
def effect : (call : Call) → call.clause.Content → call.clause.Content
  | select items => fun _ => items
  | addColumn item => fun items => List.append items [item]
  | fromText text => fun _ => if text = "" then Source.entity else Source.verbatim text
  | fromTable table => fun _ => Source.reference table
  | filter x => fun xs => List.append xs [x]
  | whereAll more => fun xs => List.append xs more
  | addGroupBy columns => fun cs => List.append cs columns
  | addHaving x => fun xs => List.append xs [x]
  | havingAll more => fun xs => List.append xs more
  | addOrderBy items => fun os => List.append os items
  | withLimit n => fun _ => n
  | withOffset n => fun _ => n

/-- **A call is its effect on the content of its clause**, and nothing else. -/
theorem apply_eq (call : Call) (s : Selector) :
    call.apply s = s.withContent
      (Function.update s.content call.clause (call.effect (s.content call.clause))) := by
  cases call <;> rfl

/-- What stands in all clauses after a call. -/
theorem content_apply (call : Call) (s : Selector) :
    (call.apply s).content
      = Function.update s.content call.clause (call.effect (s.content call.clause)) := by
  rw [apply_eq, Selector.content_withContent]

/-- A call leaves the other clauses as they are. -/
theorem content_apply_of_ne {call : Call} {c : Clause} (h : call.clause ≠ c) (s : Selector) :
    (call.apply s).content c = s.content c := by
  rw [content_apply, Function.update_of_ne h.symm]

/-- What a call leaves in its clause depends on nothing but what stood there. -/
theorem content_apply_congr {call : Call} {s t : Selector}
    (h : s.content call.clause = t.content call.clause) :
    (call.apply s).content call.clause = (call.apply t).content call.clause := by
  rw [content_apply, content_apply, Function.update_self, Function.update_self, h]

end Call

/-! ## 3. Rows of calls -/

namespace Selector

/-- The statement after a row of calls. -/
def after (s : Selector) (calls : List Call) : Selector := calls.foldl (fun s call => call.apply s) s

@[simp] theorem after_nil (s : Selector) : s.after [] = s := rfl

@[simp] theorem after_cons (s : Selector) (call : Call) (calls : List Call) :
    s.after (call :: calls) = (call.apply s).after calls := rfl

theorem after_append (s : Selector) (first second : List Call) :
    s.after (first ++ second) = (s.after first).after second :=
  List.foldl_append

/-- Calls change nothing but contents. -/
theorem exists_after_eq (s : Selector) (calls : List Call) :
    ∃ content, s.after calls = s.withContent content := by
  induction calls generalizing s with
  | nil => exact ⟨s.content, rfl⟩
  | cons call rest ih =>
    obtain ⟨content, h⟩ := ih (call.apply s)
    refine ⟨content, ?_⟩
    rw [after_cons, h, Call.apply_eq, withContent_withContent]

/-- **What a row of calls leaves in a clause is what its calls to this clause leave there.** -/
theorem content_after_filter {s t : Selector} {c : Clause} (h : s.content c = t.content c)
    (calls : List Call) :
    (s.after calls).content c = (t.after (calls.filter (·.clause = c))).content c := by
  induction calls generalizing s t with
  | nil => exact h
  | cons call rest ih =>
    by_cases hc : call.clause = c
    · subst hc
      rw [List.filter_cons_of_pos (by simp), after_cons, after_cons]
      exact ih (Call.content_apply_congr h)
    · rw [List.filter_cons_of_neg (by simpa using hc), after_cons]
      exact ih ((Call.content_apply_of_ne hc s).trans h)

/-- **Rows of calls that agree clause by clause leave the same statement.** -/
theorem after_eq_of_filter_eq (s : Selector) {calls others : List Call}
    (h : ∀ c, calls.filter (·.clause = c) = others.filter (·.clause = c)) :
    s.after calls = s.after others := by
  obtain ⟨content, hcalls⟩ := s.exists_after_eq calls
  obtain ⟨content', hothers⟩ := s.exists_after_eq others
  have same : content = content' := by
    funext c
    have left := content_after_filter (s := s) (c := c) rfl calls
    have right := content_after_filter (s := s) (c := c) rfl others
    rw [hcalls, content_withContent] at left
    rw [hothers, content_withContent] at right
    rw [left, right, h c]
  rw [hcalls, hothers, same]

end Selector

/-! ## 4. A list in pieces -/

namespace Call

/-- A call that puts a list behind what stands in its clause, and calls that do so piece by piece. -/
inductive SplitInto : Call → List Call → Prop
  | whereAll (pieces : List (List Expr)) :
    SplitInto (whereAll pieces.flatten) (pieces.map whereAll)
  | havingAll (pieces : List (List Expr)) :
    SplitInto (havingAll pieces.flatten) (pieces.map havingAll)
  | addGroupBy (pieces : List (List Column)) :
    SplitInto (addGroupBy pieces.flatten) (pieces.map addGroupBy)
  | addOrderBy (pieces : List (List OrderBy)) :
    SplitInto (addOrderBy pieces.flatten) (pieces.map addOrderBy)

/-- A family of calls that puts lists behind what stands in a clause. -/
structure Adds {α : Type} (call : List α → Call) : Prop where
  nil : ∀ s, (call []).apply s = s
  append : ∀ xs ys s, (call (xs ++ ys)).apply s = (call ys).apply ((call xs).apply s)

theorem adds_whereAll : Adds whereAll where
  nil s := by simp only [apply, Selector.whereAll, List.append_nil]
  append xs ys s := by simp only [apply, Selector.whereAll, List.append_assoc]

theorem adds_havingAll : Adds havingAll where
  nil s := by simp only [apply, Selector.havingAll, List.append_nil]
  append xs ys s := by simp only [apply, Selector.havingAll, List.append_assoc]

theorem adds_addGroupBy : Adds addGroupBy where
  nil s := by simp only [apply, Selector.addGroupBy, List.append_nil]
  append xs ys s := by simp only [apply, Selector.addGroupBy, List.append_assoc]

theorem adds_addOrderBy : Adds addOrderBy where
  nil s := by simp only [apply, Selector.addOrderBy, List.append_nil]
  append xs ys s := by simp only [apply, Selector.addOrderBy, List.append_assoc]

/-- Lists that are put there one after the other stand there like one list. -/
theorem Adds.after_pieces {α : Type} {call : List α → Call} (h : Adds call) (pieces : List (List α))
    (s : Selector) : s.after (pieces.map call) = (call pieces.flatten).apply s := by
  induction pieces generalizing s with
  | nil => exact (h.nil s).symm
  | cons piece rest ih => rw [List.map_cons, Selector.after_cons, ih, List.flatten_cons, h.append]

theorem SplitInto.after_eq {call : Call} {pieces : List Call} (h : call.SplitInto pieces)
    (s : Selector) : s.after pieces = call.apply s := by
  cases h with
  | whereAll pieces => exact adds_whereAll.after_pieces pieces s
  | havingAll pieces => exact adds_havingAll.after_pieces pieces s
  | addGroupBy pieces => exact adds_addGroupBy.after_pieces pieces s
  | addOrderBy pieces => exact adds_addOrderBy.after_pieces pieces s

end Call

/-! ## 5. Builds -/

/-- **The order of calls to different clauses does not count.** Two rows of calls on one statement that
hold the same calls to each clause in the same order are built to the same result, whatever stands in
the registries and cells, and leave the same there; and so is a row in which a call with a list is made
piece by piece. -/
theorem build_reordered (s : Selector) (session : Session) :
    (∀ calls others : List Call,
        (∀ c, calls.filter (·.clause = c) = others.filter (·.clause = c)) →
        session.step (.build (s.after calls)) = session.step (.build (s.after others))) ∧
      ∀ (before : List Call) (call : Call) (pieces behind : List Call), call.SplitInto pieces →
        session.step (.build (s.after (before ++ call :: behind)))
          = session.step (.build (s.after (before ++ pieces ++ behind))) := by
  refine ⟨fun calls others h => ?_, fun before call pieces behind h => ?_⟩
  · rw [s.after_eq_of_filter_eq h]
  · have same : s.after (before ++ call :: behind) = s.after (before ++ pieces ++ behind) := by
      simp only [Selector.after_append, Selector.after_cons, h.after_eq]
    rw [same]

/-- A page of the users of two names, call by call, with two calls to some of the clauses. -/
def pageCalls : List Call :=
  [.withOffset 20, .fromText "archive", .select [.column { name := "Id" }],
    .whereAll [.eq (.column { name := "Name" }) (.value (.text "Ann")),
      .ne (.column { name := "Id" }) (.value (.int 7))],
    .fromText "", .withLimit 10, .addColumn (.column { name := "Name" })]

/-- The same page in the order of its clauses. -/
def pageCallsInOrder : List Call :=
  [.select [.column { name := "Id" }], .addColumn (.column { name := "Name" }), .fromText "archive",
    .fromText "", .whereAll [.eq (.column { name := "Name" }) (.value (.text "Ann")),
      .ne (.column { name := "Id" }) (.value (.int 7))],
    .withLimit 10, .withOffset 20]

theorem build_reordered_page :
    let users : Selector := { db := namesakes.db, entity := namesakes.entity }
    let session : Session := { store := usersStore, nested := [], opened := 1 }
    let ann : Expr := .eq (.column { name := "Name" }) (.value (.text "Ann"))
    let seven : Expr := .ne (.column { name := "Id" }) (.value (.int 7))
    (∀ c, pageCalls.filter (·.clause = c) = pageCallsInOrder.filter (·.clause = c)) ∧
      (∃ q, (session.step (.build (users.after pageCalls))).1 = .query q ∧
        (session.step (.build (users.after pageCallsInOrder))).1 = .query q) ∧
      Call.SplitInto (.whereAll [ann, seven]) [.whereAll [ann], .whereAll [seven]] ∧
      session.step (.build (users.after [.withLimit 3, .whereAll [ann, seven], .withOffset 2]))
        = session.step (.build (users.after
            [.withLimit 3, .whereAll [ann], .whereAll [seven], .withOffset 2])) := by
  intro users session ann seven
  have same : ∀ c, pageCalls.filter (·.clause = c) = pageCallsInOrder.filter (·.clause = c) := by
    intro c
    cases c <;> rfl
  obtain ⟨q, built⟩ : ∃ q, (session.step (.build (users.after pageCallsInOrder))).1 = .query q :=
    ⟨_, rfl⟩
  have split : Call.SplitInto (.whereAll [ann, seven]) [.whereAll [ann], .whereAll [seven]] :=
    .whereAll [[ann], [seven]]
  obtain ⟨reordered, inPieces⟩ := build_reordered users session
  have pieces := inPieces [.withLimit 3] (.whereAll [ann, seven]) [.whereAll [ann], .whereAll [seven]]
    [.withOffset 2] split
  refine ⟨same, ⟨q, ?_, built⟩, split, pieces⟩
  rw [reordered _ _ same]
  exact built

end SqlSelect
