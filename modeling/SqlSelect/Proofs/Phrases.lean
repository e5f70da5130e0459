import SqlSelect.Proofs.Frozen
/-!
# Phrases

Compiling an expression looks up columns and nested statements on the way. A phrase is an expression
in which all of this has been found: a tree as the expression is, with texts at its leaves. What is
said of the tokens of an expression can then be said of a tree, without stores and without failures.

* `Phrase.tokens`, `Phrase.operand` -- what is written of a phrase by itself and as an operand;
* `Phrase.Of` -- a phrase has the shape of its expression;
* `phrase_of_expr` -- an expression that compiles is written in the tokens of a phrase of it, which
  is found in the same run.
-/

namespace SqlSelect

/-! ## 1. Phrases -/

/-- An expression whose fields and nested statements have been looked up. -/
inductive Phrase
  | field (qualifier : Option String) (column : String)
  | value (value : Value)
  /-- Raw SQL or a nested statement, in parentheses. -/
  | enclosed (query : Query)
  | aggregate (function : String) (qualifier : Option String) (column : String)
  /-- A keyword and a nested statement. -/
  | keyword (word : String) (query : Query)
  | unary (op : Operator) (x : Phrase)
  | binary (op : Operator) (x y : Phrase)

/-- The tokens of a column behind its qualifier. -/
def fieldTokens (column : String) : Option String → List Token
  | some qualifier => [.ident qualifier, .dot, .ident column]
  | none => [.ident column]

namespace Phrase

/-- The phrase is a node with an operator. -/
def isNode : Phrase → Bool
  | unary .. | binary .. => true
  | _ => false

/-- Tokens of an operand: those of its phrase, in parentheses if it is a node. -/
def wrap (p : Phrase) (ts : List Token) : List Token :=
  if p.isNode then [.openParen] ++ ts ++ [.closeParen] else ts

/-- The tokens of a phrase. -/
def tokens : Phrase → List Token
  | field qualifier column => fieldTokens column qualifier
  | value v => [.param v]
  | enclosed q => [.openParen, .fragment q, .closeParen]
  | aggregate f qualifier column =>
    [.function f, .openParen] ++ fieldTokens column qualifier ++ [.closeParen]
  | keyword word q => [.raw word, .openParen, .fragment q, .closeParen]
  | unary op x =>
    if op.isLeading then [.op op, .space] ++ x.wrap x.tokens
    else x.wrap x.tokens ++ [.space, .op op]
  | binary op x y => x.wrap x.tokens ++ [.space, .op op, .space] ++ y.wrap y.tokens

/-- What is written of a phrase as an operand. -/
def operand (p : Phrase) : List Token := p.wrap p.tokens

end Phrase

/-! ## 2. The phrase of an expression -/

/-- The phrase of an expression, as the expression is compiled. -/
inductive Phrase.Of : Expr → Phrase → Prop
  | column (c : Column) (qualifier : Option String) (column : String) :
    Of (.column c) (.field qualifier column)
  | value (v : Value) : Of (.value v) (.value v)
  | raw (r : RawSql) : Of (.raw r) (.enclosed r.query)
  | aggregate (a : Aggregate) (qualifier : Option String) (column : String) :
    Of (.aggregate a) (.aggregate a.function qualifier column)
  | subquery (s : Subquery) (q : Query) : Of (.subquery s) (.enclosed q)
  | keyword (k : KeywordSubquery) (q : Query) : Of (.keyword k) (.keyword k.keyword q)
  | unary {x : Expr} {p : Phrase} (kind : NodeKind) {op : Operator} (h : op.isUnary = true)
    (hx : Of x p) : Of (.unary kind op x) (.unary op p)
  | binary {x y : Expr} {p q : Phrase} (kind : NodeKind) {op : Operator} (h : op.isUnary = false)
    (hx : Of x p) (hy : Of y q) : Of (.binary kind op x y) (.binary op p q)

section Compile

variable {m : Type → Type} [Monad m] [MonadExcept BuildError m]

namespace Scope

variable (sc : Scope m)

/-- The phrase of an expression: everything is looked up that compiling it looks up. -/
def phrase : Expr → m Phrase
  | .column c => do
    pure (.field (c.table.bind TableRef.qualifier?) (← sc.columnName c.name c.table))
  | .value v => pure (.value v)
  | .raw r => pure (.enclosed r.query)
  | .aggregate a => do
    pure (.aggregate a.function (a.table.bind TableRef.qualifier?)
      (← sc.columnName a.field a.table))
  | .subquery s => do pure (.enclosed (← sc.inner.query s.node))
  | .keyword k => do pure (.keyword k.keyword (← sc.inner.query k.subquery.node))
  | .unary kind op x => do
    admitUnary kind op
    pure (.unary op (← phrase x))
  | .binary kind op x y => do
    admitBinary kind op
    let p ← phrase x
    pure (.binary op p (← phrase y))

end Scope

end Compile

/-! ## 3. Phrases in a run -/

section Run

variable {α β : Type}

theorem run_bind_of_ok {x : BuildM α} {f : α → BuildM β} {st st' : Store} {a : α}
    (h : x.run.run st = (.ok a, st')) : (x >>= f).run.run st = (f a).run.run st' := by
  rw [run_bind, h]

theorem ok_of_run_bind {x : BuildM α} {f : α → BuildM β} {st st' : Store} {b : β}
    (h : (x >>= f).run.run st = (.ok b, st')) :
    ∃ a mid, x.run.run st = (.ok a, mid) ∧ (f a).run.run mid = (.ok b, st') := by
  rw [run_bind] at h
  rcases hx : x.run.run st with ⟨e | a, mid⟩
  · rw [hx] at h
    cases h
  · rw [hx] at h
    exact ⟨a, mid, rfl, h⟩

variable {sc : Scope BuildM} {st st' : Store}

theorem field_run {table : Option TableRef} {name : String} {ts : List Token}
    (h : (sc.field table name).run.run st = (.ok ts, st')) :
    ∃ column, (sc.columnName name table).run.run st = (.ok column, st') ∧
      ts = fieldTokens column (table.bind TableRef.qualifier?) := by
  obtain ⟨column, mid, hcolumn, h⟩ := ok_of_run_bind h
  refine ⟨column, ?_⟩
  cases hq : table.bind TableRef.qualifier? with
  | none =>
    rw [hq] at h
    cases h
    exact ⟨hcolumn, rfl⟩
  | some qualifier =>
    rw [hq] at h
    cases h
    exact ⟨hcolumn, rfl⟩

theorem subquery_run {s : Subquery} {ts : List Token}
    (h : (sc.subquery s).run.run st = (.ok ts, st')) :
    ∃ q, (sc.inner.query s.node).run.run st = (.ok q, st') ∧
      ts = [.openParen, .fragment q, .closeParen] := by
  obtain ⟨q, mid, hq, h⟩ := ok_of_run_bind h
  cases h
  exact ⟨q, hq, rfl⟩

theorem admitUnary_run {kind : NodeKind} {op : Operator} {u : Unit}
    (h : (Scope.admitUnary kind op : BuildM Unit).run.run st = (.ok u, st')) :
    op.isUnary = true := by
  unfold Scope.admitUnary at h
  split at h
  · cases h
  · split at h
    · next unary => exact unary
    · cases h

theorem admitBinary_run {kind : NodeKind} {op : Operator} {u : Unit}
    (h : (Scope.admitBinary kind op : BuildM Unit).run.run st = (.ok u, st')) :
    op.isUnary = false := by
  unfold Scope.admitBinary at h
  split at h
  · cases h
  · split at h
    · cases h
    · next binary => exact Bool.not_eq_true _ ▸ binary

theorem Phrase.Of.isNode {x : Expr} {p : Phrase} (h : Of x p) : Scope.isNode x = p.isNode := by
  cases h <;> rfl

theorem Phrase.Of.operand {x : Expr} {p : Phrase} (h : Of x p) :
    Scope.operand x p.tokens = p.operand := by
  rw [Scope.operand, h.isNode]
  rfl

/-- **An expression that compiles has a phrase**, which is found in the same run, and its tokens are
those of the phrase. -/
theorem phrase_of_expr {x : Expr} {ts : List Token}
    (h : (sc.expr x).run.run st = (.ok ts, st')) :
    ∃ p, (sc.phrase x).run.run st = (.ok p, st') ∧ ts = p.tokens ∧ Phrase.Of x p := by
  induction x generalizing st st' ts with
  | column c =>
    obtain ⟨column, hcolumn, rfl⟩ := field_run h
    exact ⟨_, run_bind_of_ok hcolumn, rfl, .column c _ column⟩
  | value v =>
    cases h
    exact ⟨_, rfl, rfl, .value v⟩
  | raw r =>
    cases h
    exact ⟨_, rfl, rfl, .raw r⟩
  | aggregate a =>
    obtain ⟨us, mid, hfield, h⟩ := ok_of_run_bind h
    obtain ⟨column, hcolumn, rfl⟩ := field_run hfield
    cases h
    exact ⟨_, run_bind_of_ok hcolumn, rfl, .aggregate a _ column⟩
  | subquery s =>
    obtain ⟨q, hq, rfl⟩ := subquery_run h
    exact ⟨_, run_bind_of_ok hq, rfl, .subquery s q⟩
  | keyword k =>
    obtain ⟨us, mid, hsubquery, h⟩ := ok_of_run_bind h
    obtain ⟨q, hq, rfl⟩ := subquery_run hsubquery
    cases h
    exact ⟨_, run_bind_of_ok hq, rfl, .keyword k q⟩
  | unary kind op x ih =>
    obtain ⟨u, mid, hadmit, h⟩ := ok_of_run_bind h
    obtain ⟨us, mid', hx, h⟩ := ok_of_run_bind h
    obtain ⟨p, hp, rfl, hof⟩ := ih hx
    cases h
    refine ⟨.unary op p, ?_, ?_, .unary kind (admitUnary_run hadmit) hof⟩
    · rw [Scope.phrase, run_bind_of_ok hadmit, run_bind_of_ok hp]
      rfl
    · rw [hof.operand]
      rfl
  | binary kind op x y ihx ihy =>
    obtain ⟨u, mid, hadmit, h⟩ := ok_of_run_bind h
    obtain ⟨us, mid', hx, h⟩ := ok_of_run_bind h
    obtain ⟨vs, mid'', hy, h⟩ := ok_of_run_bind h
    obtain ⟨p, hp, rfl, hof⟩ := ihx hx
    obtain ⟨q, hq, rfl, hof'⟩ := ihy hy
    cases h
    refine ⟨.binary op p q, ?_, ?_, .binary kind (admitBinary_run hadmit) hof hof'⟩
    · rw [Scope.phrase, run_bind_of_ok hadmit, run_bind_of_ok hp, run_bind_of_ok hq]
      rfl
    · rw [hof.operand, hof'.operand]
      rfl

end Run

end SqlSelect
