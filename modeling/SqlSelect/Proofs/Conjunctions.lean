import SqlSelect.Proofs.Growth
/-!
# Conditions in a row

The conditions of a `WHERE` or `HAVING` clause are joined by `AND` from the left, so the first two
of them stand deepest, and every further one closes a parenthesis that was opened in front of all.

* `Scope.conditions_cons` -- in any lawful monad the conditions are compiled one after the other,
  and their tokens make up a `chain`; one induction over the conditions behind the first, which may
  be any tree, carries it (`chain_and` is the step);
* `Query.chained` -- the text of a chain, with all its parentheses, and its values;
* `ConditionClause` -- the two clauses of conditions, and what of a statement is compiled before and
  after each of them;
* `build_chained` -- in every session: what a clause adds to the statement without it, given what
  each condition is written as on its own; whose error the statement fails with; and that a row of
  conditions may begin with the conjunction of its first ones.
-/

namespace SqlSelect

/-! ## 1. Chains of tokens -/

/-- `AND` and its second operand. -/
def andOperand (x : Expr) (ts : List Token) : List Token :=
  [.space, .op .and, .space] ++ Scope.operand x ts

/-- The tokens of conditions that are joined by `AND` from the left, given each condition and its
tokens. -/
def chain : List (Expr × List Token) → List Token
  | [] => []
  | [c] => c.2
  | c :: c' :: rest => List.replicate rest.length .openParen ++ Scope.operand c.1 c.2
      ++ andOperand c'.1 c'.2 ++ rest.flatMap fun c => .closeParen :: andOperand c.1 c.2

/-- A chain may begin with the conjunction of its first two conditions. -/
theorem chain_and (x y : Expr) (ts us : List Token) (rest : List (Expr × List Token)) :
    chain ((x.and y, Scope.operand x ts ++ andOperand y us) :: rest)
      = chain ((x, ts) :: (y, us) :: rest) := by
  cases rest with
  | nil => simp [chain]
  | cons c rest =>
    have node : Scope.operand (x.and y) (Scope.operand x ts ++ andOperand y us)
        = [.openParen] ++ (Scope.operand x ts ++ andOperand y us) ++ [.closeParen] := rfl
    simp only [chain, node, List.length_cons, List.replicate_succ', List.flatMap_cons,
      List.append_assoc, List.cons_append, List.nil_append]

section Conditions

variable {m : Type → Type} [Monad m] [MonadExcept BuildError m] [LawfulMonad m] (sc : Scope m)

namespace Scope

theorem expr_and (x y : Expr) : sc.expr (x.and y) = (do
    let ts ← sc.expr x
    let us ← sc.expr y
    pure (operand x ts ++ andOperand y us)) := by
  have admitted : (admitBinary .predicate .and : m Unit) = pure () := rfl
  have node : x.and y = .binary .predicate .and x y := rfl
  simp only [node, expr, admitted, pure_bind, andOperand, List.append_assoc]

theorem expr_foldl_and (x : Expr) (ys : List Expr) : sc.expr (ys.foldl .and x) = (do
    let ts ← sc.expr x
    let uss ← ys.mapM sc.expr
    pure (chain ((x, ts) :: ys.zip uss))) := by
  -- the tree that the fold has built so far is the first condition of what remains
  induction ys generalizing x with
  | nil => simp [chain]
  | cons y ys ih =>
    rw [List.foldl_cons, ih, expr_and]
    simp only [List.mapM_cons, bind_assoc, pure_bind, chain_and, List.zip_cons_cons]

/-- **Conditions are compiled in their order**, and their tokens are chained. -/
theorem conditions_cons (x : Expr) (ys : List Expr) : sc.conditions (x :: ys)
    = (fun tss => chain ((x :: ys).zip tss)) <$> (x :: ys).mapM sc.expr := by
  have one : sc.conditions (x :: ys) = sc.expr (ys.foldl .and x) := rfl
  rw [one, expr_foldl_and]
  simp only [List.mapM_cons, map_bind, map_pure, List.zip_cons_cons]

end Scope

end Conditions

/-! ## 2. The text of a chain -/

namespace Query

/-- What is written as an operand: in parentheses if it is a node, as it is otherwise. -/
def operand (x : Expr) (q : Query) : String :=
  if Scope.isNode x then "(" ++ q.sql ++ ")" else q.sql

/-- `AND` in a dialect, with a blank on each side. -/
def conjunct (d : Dialect) : String := " " ++ d.spelling .and ++ " "

/-- The text of conditions that are joined by `AND` from the left, given what each is written as. A
single one stays as it is. Of several the first two are operands of the innermost `AND`, and each of
the others closes one of the parentheses that stand in front. -/
def chainText (d : Dialect) : List (Expr × Query) → String
  | [] => ""
  | [c] => c.2.sql
  | c :: c' :: rest =>
    String.join (List.replicate rest.length "(") ++ operand c.1 c.2 ++ conjunct d
      ++ operand c'.1 c'.2 ++ String.join (rest.map fun c => ")" ++ conjunct d ++ operand c.1 c.2)

/-- What conditions in a row are written as. -/
def chained (d : Dialect) (cs : List (Expr × Query)) : Query :=
  { sql := chainText d cs, args := cs.flatMap fun c => c.2.args }

end Query

namespace Token

variable (d : Dialect)

theorem render_operand (x : Expr) (ts : List Token) : render d (Scope.operand x ts)
    = { sql := (render d ts).operand x, args := (render d ts).args } := by
  unfold Scope.operand Query.operand
  split
  · simp [render_append, render_cons, Query.append, Query.empty, Token.text, Token.args,
      String.append_assoc]
  · rfl

theorem render_andOperand (x : Expr) (ts : List Token) : render d (andOperand x ts)
    = { sql := Query.conjunct d ++ (render d ts).operand x, args := (render d ts).args } := by
  rw [andOperand, render_append, render_operand]
  simp [render_cons, Query.append, Query.empty, Query.conjunct, Token.text, Token.args,
    String.append_assoc]

theorem render_openParens (n : Nat) : render d (List.replicate n .openParen)
    = { sql := String.join (List.replicate n "("), args := [] } := by
  induction n with
  | zero => rfl
  | succ n ih => simp [List.replicate_succ, render_cons, ih, Query.append, Token.text, Token.args]

theorem render_closing (cs : List (Expr × List Token)) :
    render d (cs.flatMap fun c => .closeParen :: andOperand c.1 c.2)
      = { sql := String.join
            (cs.map fun c => ")" ++ Query.conjunct d ++ (render d c.2).operand c.1),
          args := cs.flatMap fun c => (render d c.2).args } := by
  induction cs with
  | nil => rfl
  | cons c cs ih =>
    rw [List.flatMap_cons, render_append, render_cons, render_andOperand, ih]
    simp [Query.append, Token.text, Token.args, String.append_assoc]

/-- **The text of chained tokens.** -/
theorem render_chain (cs : List (Expr × List Token)) :
    render d (chain cs) = .chained d (cs.map fun c => (c.1, render d c.2)) := by
  match cs with
  | [] => rfl
  | [c] => simp [chain, Query.chained, Query.chainText]
  | c :: c' :: rest =>
    simp only [chain, render_append, render_openParens, render_operand, render_andOperand,
      render_closing]
    simp [Query.chained, Query.chainText, Query.append, String.append_assoc, Function.comp_def,
      List.flatMap_map]

end Token

/-! ## 3. The two clauses of conditions -/

/-- The clauses that are made up of conditions. -/
inductive ConditionClause
  | filters
  | having
  deriving DecidableEq, Repr

namespace ConditionClause

/-- The token before the conditions. -/
def keyword : ConditionClause → Token
  | filters => .where
  | having => .having

/-- The statement with other conditions in the clause. -/
def set (c : ConditionClause) (s : Selector) (xs : List Expr) : Selector :=
  match c with
  | filters => { s with filters := xs }
  | having => { s with having := xs }

/-- The statement as it is before the clause. -/
def head (c : ConditionClause) (s : Selector) : Selector :=
  match c with
  | filters =>
    { s with filters := [], groupBy := [], having := [], orderBy := [], limit := 0, offset := 0 }
  | having => { s with having := [], orderBy := [], limit := 0, offset := 0 }

end ConditionClause

section Statements

variable {m : Type → Type} [Monad m] [MonadExcept BuildError m]

namespace Scope

variable (sc : Scope m) (s : Selector)

/-- The tokens of a statement before a clause. -/
def upTo : ConditionClause → m (List Token)
  | .filters => do
    let columns ← sc.selectList s.columns
    let source ← sc.source s.source
    pure ([.select, .space] ++ columns ++ [.space, .from, .space] ++ source)
  | .having => do
    let columns ← sc.selectList s.columns
    let source ← sc.source s.source
    let filters ← clause .where s.filters sc.conditions
    let groupBy ← clause .groupBy s.groupBy (separated sc.column)
    pure ([.select, .space] ++ columns ++ [.space, .from, .space] ++ source ++ filters ++ groupBy)

/-- The tokens of a statement behind a clause. -/
def behind : ConditionClause → m (List Token)
  | .filters => do
    let groupBy ← clause .groupBy s.groupBy (separated sc.column)
    let having ← clause .having s.having sc.conditions
    let orderBy ← clause .orderBy s.orderBy (separated sc.ordering)
    pure (groupBy ++ having ++ orderBy ++ paging .limit s.limit ++ paging .offset s.offset
      ++ [.semicolon])
  | .having => do
    let orderBy ← clause .orderBy s.orderBy (separated sc.ordering)
    pure (orderBy ++ paging .limit s.limit ++ paging .offset s.offset ++ [.semicolon])

variable [LawfulMonad m]

/-- A statement is compiled up to a clause, then the clause is, then what is behind it. -/
theorem statement_set (c : ConditionClause) (xs : List Expr) : sc.statement (c.set s xs) = (do
    let head ← sc.upTo s c
    let ts ← clause c.keyword xs sc.conditions
    let rest ← sc.behind s c
    pure (head ++ ts ++ rest)) := by
  cases c with
  | filters =>
    simp only [statement, ConditionClause.set, ConditionClause.keyword, upTo, behind, bind_assoc,
      pure_bind, List.append_assoc]
  | having =>
    simp only [statement, ConditionClause.set, ConditionClause.keyword, upTo, behind, bind_assoc,
      pure_bind, List.append_assoc]

theorem statement_head (c : ConditionClause) :
    sc.statement (c.head s) = (· ++ [.semicolon]) <$> sc.upTo s c := by
  have none {α : Type} (keyword : Token) (body : List α → m (List Token)) :
      clause keyword [] body = pure [] := rfl
  have unpaged (keyword : Token) : paging keyword 0 = [] := rfl
  cases c with
  | filters =>
    simp only [statement, ConditionClause.head, upTo, none, unpaged, pure_bind, map_bind, map_pure,
      List.append_nil]
  | having =>
    simp only [statement, ConditionClause.head, upTo, none, unpaged, pure_bind, map_bind, map_pure,
      List.append_nil]

end Scope

namespace Selector

/-- What an expression is written as in a statement, if it is compiled on its own. -/
def write (s : Selector) (inner : Inner m) (x : Expr) : m Query := do
  let primary ← s.metadata inner.describe
  pure (Token.render s.db.dialect
    (← Scope.expr { registry := s.db.registry, primary, inner } x))

variable [LawfulMonad m] (s : Selector) (inner : Inner m) (c : ConditionClause)

theorem build_set (xs : List Expr) : (c.set s xs).build inner = (do
    let primary ← s.metadata inner.describe
    let sc : Scope m := { registry := s.db.registry, primary, inner }
    let head ← sc.upTo s c
    let ts ← Scope.clause c.keyword xs sc.conditions
    let rest ← sc.behind s c
    pure (Token.render s.db.dialect (head ++ ts ++ rest))) := by
  have db : (c.set s xs).db = s.db := by cases c <;> rfl
  have entity : (c.set s xs).metadata inner.describe = s.metadata inner.describe := by
    cases c <;> rfl
  simp only [build, compile, db, entity, Scope.statement_set, bind_assoc, pure_bind]

theorem build_head : (c.head s).build inner = (do
    let primary ← s.metadata inner.describe
    let head ← Scope.upTo { registry := s.db.registry, primary, inner } s c
    pure (Token.render s.db.dialect (head ++ [.semicolon]))) := by
  have db : (c.head s).db = s.db := by cases c <;> rfl
  have entity : (c.head s).metadata inner.describe = s.metadata inner.describe := by
    cases c <;> rfl
  simp only [build, compile, db, entity, Scope.statement_head, map_eq_pure_bind, bind_assoc,
    pure_bind]

/-- **A row of conditions may begin with the conjunction of its first ones.** -/
theorem build_set_foldl_and (p : Expr) (ps rest : List Expr) :
    (c.set s (ps.foldl .and p :: rest)).build inner = (c.set s (p :: ps ++ rest)).build inner := by
  have same (sc : Scope m) :
      sc.conditions (ps.foldl .and p :: rest) = sc.conditions (p :: ps ++ rest) := by
    simp only [Scope.conditions, Scope.conjunction, List.cons_append, List.foldl_append]
  simp only [build_set, Scope.clause, same, List.isEmpty_cons, List.cons_append]

end Selector

end Statements

/-! ## 4. What a clause is written as -/

section Frozen

theorem ok_bind {α β : Type} (a : α) (f : α → Except BuildError β) : (.ok a >>= f) = f a := rfl

theorem error_bind {α β : Type} (e : BuildError) (f : α → Except BuildError β) :
    (.error e >>= f) = .error e := rfl

theorem mapM_eq_ok {α β : Type} {f : α → Except BuildError β} {as : List α} {bs : List β}
    (h : List.Forall₂ (fun a b => f a = .ok b) as bs) : as.mapM f = .ok bs := by
  induction h with
  | nil => rfl
  | cons ha _ ih =>
    rw [List.mapM_cons, ha, ih, ok_bind, ok_bind]
    rfl

/-- The first failure counts. -/
theorem mapM_eq_error {α β : Type} {f : α → Except BuildError β} {before after : List α} {a : α}
    {e : BuildError} (h : ∀ b ∈ before, ∃ c, f b = .ok c) (ha : f a = .error e) :
    (before ++ a :: after).mapM f = .error e := by
  induction before with
  | nil =>
    rw [List.nil_append, List.mapM_cons, ha, error_bind]
  | cons b before ih =>
    obtain ⟨c, hc⟩ := h b (.head _)
    rw [List.cons_append, List.mapM_cons, hc, ih fun b' hb' => h b' (.tail _ hb'), ok_bind,
      error_bind]

variable {d : Dialect} {sc : Scope (Except BuildError)}

/-- What is written is known as soon as the tokens are. -/
theorem forall₂_tokens {xs : List Expr} {qs : List Query}
    (h : List.Forall₂ (fun x q => Token.render d <$> sc.expr x = .ok q) xs qs) :
    ∃ tss, List.Forall₂ (fun x ts => sc.expr x = .ok ts) xs tss ∧
      qs = tss.map (Token.render d) := by
  induction h with
  | nil => exact ⟨[], .nil, rfl⟩
  | @cons x q xs qs hx _ ih =>
    obtain ⟨tss, htss, rfl⟩ := ih
    cases hts : sc.expr x with
    | error e =>
      rw [hts] at hx
      cases hx
    | ok ts =>
      rw [hts] at hx
      cases hx
      exact ⟨ts :: tss, .cons hts htss, rfl⟩

/-- **The text of a row of conditions**, if all of them are written. -/
theorem conditions_chained {p : Expr} {ps : List Expr} {qs : List Query}
    (h : List.Forall₂ (fun x q => Token.render d <$> sc.expr x = .ok q) (p :: ps) qs) :
    ∃ ts, sc.conditions (p :: ps) = .ok ts ∧ Token.render d ts = .chained d ((p :: ps).zip qs) := by
  obtain ⟨tss, htss, rfl⟩ := forall₂_tokens h
  refine ⟨chain ((p :: ps).zip tss), ?_, ?_⟩
  · rw [Scope.conditions_cons, mapM_eq_ok htss]
    rfl
  · rw [Token.render_chain, List.zip_map_right]
    rfl

/-- **The error of a row of conditions** is the first one. -/
theorem conditions_error {p x : Expr} {ps before after : List Expr} {e : BuildError}
    (split : p :: ps = before ++ x :: after)
    (h : ∀ y ∈ before, ∃ q, Token.render d <$> sc.expr y = .ok q)
    (hx : Token.render d <$> sc.expr x = .error e) : sc.conditions (p :: ps) = .error e := by
  have compiled : ∀ y ∈ before, ∃ ts, sc.expr y = .ok ts := fun y hy => by
    obtain ⟨q, hq⟩ := h y hy
    cases hts : sc.expr y with
    | error e =>
      rw [hts] at hq
      cases hq
    | ok ts => exact ⟨ts, rfl⟩
  have failed : sc.expr x = .error e := by
    cases hts : sc.expr x with
    | error e =>
      rw [hts] at hx
      cases hx
      rfl
    | ok ts =>
      rw [hts] at hx
      cases hx
  rw [Scope.conditions_cons, split, mapM_eq_error compiled failed]
  rfl

variable {s : Selector} {inner : Inner (Except BuildError)} {c : ConditionClause} {p : Expr}
  {ps : List Expr}

/-- In a statement whose entity is described an expression is written as in its scope. -/
theorem write_of_metadata {primary : EntityMetadata} (h : s.metadata inner.describe = .ok primary)
    (x : Expr) : s.write inner x = Token.render s.db.dialect <$>
      Scope.expr { registry := s.db.registry, primary, inner } x := by
  rw [Selector.write, h, map_eq_pure_bind]
  rfl

/-- The text that a clause adds to a statement: its keyword between blanks, and its conditions. -/
def ConditionClause.written (c : ConditionClause) (d : Dialect) (cs : List (Expr × Query)) :
    Query :=
  Query.append { sql := " " ++ c.keyword.text d ++ " ", args := [] } (.chained d cs)

theorem build_set_ok {qs : List Query} {q₀ : Query}
    (alone : List.Forall₂ (fun x q => s.write inner x = .ok q) (p :: ps) qs)
    (without : (c.set s []).build inner = .ok q₀) :
    ∃ head rest : Query, (c.head s).build inner = .ok (head.append { sql := ";", args := [] }) ∧
      q₀ = head.append rest ∧ (c.set s (p :: ps)).build inner
        = .ok ((head.append (c.written s.db.dialect ((p :: ps).zip qs))).append rest) := by
  rw [Selector.build_set] at without
  obtain ⟨primary, hm, without⟩ := bind_eq_ok without
  obtain ⟨head, hhead, without⟩ := bind_eq_ok without
  obtain ⟨none, hnone, without⟩ := bind_eq_ok without
  obtain ⟨rest, hrest, without⟩ := bind_eq_ok without
  cases hnone
  cases without
  simp only [write_of_metadata hm] at alone
  obtain ⟨ts, hts, written⟩ := conditions_chained alone
  have keyword : Token.render s.db.dialect [.space, c.keyword, .space]
      = { sql := " " ++ c.keyword.text s.db.dialect ++ " ", args := [] } := by
    cases c <;> rfl
  have clause : Token.render s.db.dialect ([.space, c.keyword, .space] ++ ts)
      = c.written s.db.dialect ((p :: ps).zip qs) := by
    rw [Token.render_append, keyword, written, ConditionClause.written]
  refine ⟨Token.render s.db.dialect head, Token.render s.db.dialect rest, ?_, ?_, ?_⟩
  · simp only [Selector.build_head, hm, ok_bind, hhead]
    rw [Token.render_append]
    rfl
  · rw [List.append_nil, Token.render_append]
  · simp only [Selector.build_set, hm, ok_bind, hhead, hrest, Scope.clause, List.isEmpty_cons, hts]
    rw [← clause, ← Token.render_append, ← Token.render_append]
    rfl

theorem build_set_error {x : Expr} {before after : List Expr} {e : BuildError} {q₀ : Query}
    (split : p :: ps = before ++ x :: after) (alone : ∀ y ∈ before, ∃ q, s.write inner y = .ok q)
    (failed : s.write inner x = .error e) (head : (c.head s).build inner = .ok q₀) :
    (c.set s (p :: ps)).build inner = .error e := by
  rw [Selector.build_head] at head
  obtain ⟨primary, hm, head⟩ := bind_eq_ok head
  obtain ⟨ts, hhead, -⟩ := bind_eq_ok head
  simp only [write_of_metadata hm] at alone failed
  simp only [Selector.build_set, hm, ok_bind, hhead, Scope.clause, List.isEmpty_cons,
    conditions_error split alone failed]
  rfl

end Frozen

/-! ## 5. Clauses in a session -/

namespace Session

/-- What an expression is written as in a statement on its own, or the error with which it fails. -/
def write (s : Session) (t : Selector) (x : Expr) : Answer := (s.run (t.write s.inner x) .query).1

/-- A query, or the error that stands in its place, as an answer. -/
def answerOf : Except BuildError Query → Answer
  | .ok q => .query q
  | .error e => .failed e

theorem answerOf_eq_query {r : Except BuildError Query} {q : Query} :
    answerOf r = .query q ↔ r = .ok q := by
  cases r with
  | error e => exact ⟨fun h => Answer.noConfusion h, fun h => by cases h⟩
  | ok p => exact ⟨fun h => by cases h; rfl, fun h => by cases h; rfl⟩

theorem answerOf_eq_failed {r : Except BuildError Query} {e : BuildError} :
    answerOf r = .failed e ↔ r = .error e := by
  cases r with
  | error f => exact ⟨fun h => by cases h; rfl, fun h => by cases h; rfl⟩
  | ok p => exact ⟨fun h => Answer.noConfusion h, fun h => by cases h⟩

section Consistent

variable {s : Session} (h : s.Consistent)

include h

theorem run_query_fst {b : BuildM Query} {r : Except BuildError Query}
    (hb : (answering (Store.Sound s.store.cells s.store.answer s.nested)).Holds b r) :
    (s.run b .query).1 = answerOf r := by
  rw [← (hb s.store h).1, run]
  rcases b.run.run s.store with ⟨e | q, st⟩ <;> rfl

theorem write_eq (t : Selector) (x : Expr) : s.write t x
    = answerOf (t.write (frozen s.store.cells s.store.answer s.nested) x) := by
  have inners : (answering (Store.Sound s.store.cells s.store.answer s.nested)).Inners s.inner
      (frozen s.store.cells s.store.answer s.nested) := inCells_inners s.nested
  refine run_query_fst h ((answering _).ofBind (Correspondence.ofEntity inners.describe t)
    fun primary => ?_)
  have scopes : (answering (Store.Sound s.store.cells s.store.answer s.nested)).Scopes
      ⟨t.db.registry, primary, s.inner⟩
      ⟨t.db.registry, primary, frozen s.store.cells s.store.answer s.nested⟩ := ⟨rfl, rfl, inners⟩
  exact (answering _).ofBind (Correspondence.expr scopes x) fun _ => (answering _).ofPure _

theorem build_eq (t : Selector) : (s.step (.build t)).1
    = answerOf (t.build (frozen s.store.cells s.store.answer s.nested)) :=
  run_query_fst h (Correspondence.build (inCells_inners s.nested) t)

end Consistent

/-- **Conditions in a row.** -/
theorem build_chained (run : List Step) (c : ConditionClause) (t : Selector) (p : Expr)
    (ps : List Expr) :
    let s := (start.steps run).2
    (∀ qs q₀, List.Forall₂ (fun x q => s.write t x = .query q) (p :: ps) qs →
      (s.step (.build (c.set t []))).1 = .query q₀ →
      ∃ head rest : Query,
        (s.step (.build (c.head t))).1 = .query (head.append { sql := ";", args := [] }) ∧
        q₀ = head.append rest ∧ (s.step (.build (c.set t (p :: ps)))).1
          = .query ((head.append (c.written t.db.dialect ((p :: ps).zip qs))).append rest)) ∧
    (∀ before x after e q₀, p :: ps = before ++ x :: after →
      (∀ y ∈ before, ∃ q, s.write t y = .query q) → s.write t x = .failed e →
      (s.step (.build (c.head t))).1 = .query q₀ →
      (s.step (.build (c.set t (p :: ps)))).1 = .failed e) ∧
    ∀ rest, s.step (.build (c.set t (ps.foldl .and p :: rest)))
      = s.step (.build (c.set t (p :: ps ++ rest))) := by
  intro s
  have consistent : s.Consistent := consistent_steps run
  refine ⟨fun qs q₀ alone without => ?_, fun before x after e q₀ split alone failed head => ?_,
    fun rest => ?_⟩
  · simp only [write_eq consistent, build_eq consistent, answerOf_eq_query] at alone without ⊢
    exact build_set_ok alone without
  · simp only [write_eq consistent, build_eq consistent, answerOf_eq_query, answerOf_eq_failed]
      at alone failed head ⊢
    exact build_set_error split alone failed head
  · simp only [step, Selector.build_set_foldl_and]

/-- A table and a nested statement over it. -/
def accountsRun : List Step :=
  let db : Db := { registry := 0, dialect := BaseDialect.mysql.toDialect }
  [.register 0 "account" { tableName := "account", fields := [("Age", "age")] },
    .nest { db, entity := some (.named "account") } [] none]

/-- A statement over the same table. -/
def accounts : Selector where
  db := { registry := 0, dialect := BaseDialect.mysql.toDialect }
  entity := some (.named "account")
  limit := 10

theorem build_chained_accounts :
    let s := (start.steps accountsRun).2
    let adult : Expr := .gte (.column { name := "Age" }) (.value (.int 18))
    let more : List Expr := [.raw { sql := "flag" }, .keyword (.notExist { node := 0 }),
      .column { name := "Age" }]
    let qs : List Query := [{ sql := "`age` >= ?", args := [.int 18] },
      { sql := "(flag)", args := [] },
      { sql := "NOT EXISTS (SELECT * FROM `account`)", args := [] }, { sql := "`age`", args := [] }]
    let clause : Query :=
      ConditionClause.filters.written accounts.db.dialect ((adult :: more).zip qs)
    List.Forall₂ (fun x q => s.write accounts x = .query q) (adult :: more) qs ∧
      clause.sql
        = " WHERE (((`age` >= ?) AND (flag)) AND NOT EXISTS (SELECT * FROM `account`)) AND `age`" ∧
      (∃ head rest : Query,
        (s.step (.build (ConditionClause.filters.set accounts (adult :: more)))).1
          = .query ((head.append clause).append rest)) ∧
      (s.step (.build (ConditionClause.having.set accounts
        [adult, .isNull (.column { name := "Ghost" }), .not (.column { name := "Fog" })]))).1
          = .failed (.unknownField "Ghost") := by
  intro s adult more qs clause
  have alone : List.Forall₂ (fun x q => s.write accounts x = .query q) (adult :: more) qs :=
    .cons rfl (.cons rfl (.cons rfl (.cons rfl .nil)))
  obtain ⟨q₀, without⟩ : ∃ q₀,
      (s.step (.build (ConditionClause.filters.set accounts []))).1 = .query q₀ := ⟨_, rfl⟩
  obtain ⟨head, rest, -, -, built⟩ :=
    (build_chained accountsRun .filters accounts adult more).1 qs q₀ alone without
  refine ⟨alone, rfl, ⟨head, rest, built⟩, ?_⟩
  have compiled : ∀ y ∈ [adult], ∃ q, s.write accounts y = .query q :=
    List.forall_mem_singleton.2 ⟨_, rfl⟩
  exact (build_chained accountsRun .having accounts adult _).2.1 [adult]
    (.isNull (.column { name := "Ghost" })) [.not (.column { name := "Fog" })] _ _ rfl compiled rfl
    rfl

end Session

end SqlSelect
