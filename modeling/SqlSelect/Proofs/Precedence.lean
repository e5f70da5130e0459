import SqlSelect.Proofs.Reading
import SqlSelect.Proofs.Transcription
/-!
# Precedence

Nodes are put into parentheses where they are operands, and leaves are not. This is enough for a
reader who knows how tightly operators bind, but for one leaf: a nested statement behind the keyword
`NOT EXISTS` is written like a prefix operator with its operand.

* `Expr.Constructed` -- the expressions that the builder makes, over any tables;
* `Phrase.Of.begins_iff` -- which of them begin with the word `NOT` where they are operands;
* `read_as_built_iff` -- when an expression is read with its own operands.
-/

namespace SqlSelect

/-! ## 1. Expressions of the builder -/

/-- The expressions that the builder's functions and methods make. -/
inductive Expr.Constructed : Expr → Prop
  | column (c : Column) : Constructed (.column c)
  | value (v : Value) : Constructed (.value v)
  | raw (r : RawSql) : Constructed (.raw r)
  | aggregate {a : Aggregate} (h : a.function ∈ Aggregate.functions) : Constructed (.aggregate a)
  | subquery (s : Subquery) : Constructed (.subquery s)
  | keyword {k : KeywordSubquery} (h : k.keyword ∈ KeywordSubquery.keywords) :
    Constructed (.keyword k)
  | apply (op : Operator) {x : Expr} (h : Constructed x) : Constructed (.apply op x)
  | combine (op : Operator) {x y : Expr} (hx : Constructed x) (hy : Constructed y) :
    Constructed (.combine op x y)

/-- The operands of operators that bind more tightly than `NOT`. -/
def Expr.tightOperands : Expr → List Expr
  | .unary _ op x => (if op.isTight then [x] else []) ++ x.tightOperands
  | .binary _ op x y =>
    (if op.isTight then [x, y] else []) ++ x.tightOperands ++ y.tightOperands
  | _ => []

theorem Expr.Constructed.tightOperands {x : Expr} (h : x.Constructed) :
    ∀ y ∈ x.tightOperands, y.Constructed := by
  induction h with
  | apply op h ih =>
    refine List.forall_mem_append.2 ⟨fun y hy => ?_, ih⟩
    split at hy
    · exact List.mem_singleton.1 hy ▸ h
    · cases hy
  | combine op hx hy ihx ihy =>
    refine List.forall_mem_append.2 ⟨List.forall_mem_append.2 ⟨fun z hz => ?_, ihx⟩, ihy⟩
    split at hz
    · rcases List.mem_cons.1 hz with rfl | hz
      · exact hx
      · exact List.mem_singleton.1 hz ▸ hy
    · cases hz
  | column c => exact fun y hy => by cases hy
  | value v => exact fun y hy => by cases hy
  | raw r => exact fun y hy => by cases hy
  | aggregate h => exact fun y hy => by cases hy
  | subquery s => exact fun y hy => by cases hy
  | keyword h => exact fun y hy => by cases hy

namespace Phrase.Of

/-- The operands of an expression have the operands of its phrase as their phrases. -/
theorem tightOperands {x : Expr} {p : Phrase} (h : Of x p) :
    List.Forall₂ Of x.tightOperands p.tightOperands := by
  induction h with
  | @unary x p kind op hop hx ih =>
    refine List.rel_append ?_ ih
    split
    · exact .cons hx .nil
    · exact .nil
  | @binary x y p q kind op hop hx hy ihx ihy =>
    refine List.rel_append (List.rel_append ?_ ihx) ihy
    split
    · exact .cons hx (.cons hy .nil)
    · exact .nil
  | column c qualifier column => exact .nil
  | value v => exact .nil
  | raw r => exact .nil
  | aggregate a qualifier column => exact .nil
  | subquery s q => exact .nil
  | keyword k q => exact .nil

/-- A text does not begin with `NOT` if its first token begins with another letter. -/
theorem not_prefix_of_headD {d : Dialect} {t : Token} (h : (t.text d).toList.headD 'N' ≠ 'N')
    (ts : List Token) : ¬ "NOT ".toList <+: Token.chars d (t :: ts) := by
  rw [Token.chars_cons]
  cases ht : (t.text d).toList with
  | nil =>
    rw [ht] at h
    exact absurd rfl h
  | cons c cs =>
    rw [ht] at h
    rintro ⟨rest, hrest⟩
    exact h (List.cons.inj hrest).1.symm

theorem not_prefix_fieldTokens {d : Dialect} (hd : d.quoteChar ≠ 'N') (column : String)
    (qualifier : Option String) :
    ¬ "NOT ".toList <+: Token.chars d (fieldTokens column qualifier) := by
  have quoted (name : String) : (Token.text d (.ident name)).toList.headD 'N' ≠ 'N' := by
    simpa [Token.text_ident, quoteWith] using hd
  cases qualifier with
  | none => exact not_prefix_of_headD (quoted column) []
  | some qualifier => exact not_prefix_of_headD (quoted qualifier) [.dot, .ident column]

theorem not_prefix_openParen (d : Dialect) (ts : List Token) :
    ¬ "NOT ".toList <+: Token.chars d (.openParen :: ts) :=
  not_prefix_of_headD (by simp [Token.text]) ts

theorem not_prefix_function {f : String} (hf : f ∈ Aggregate.functions) (d : Dialect)
    (ts : List Token) : ¬ "NOT ".toList <+: Token.chars d (.function f :: ts) := by
  have first : ∀ f ∈ Aggregate.functions, f.toList.headD 'N' ≠ 'N' := by
    simp [Aggregate.functions]
  exact not_prefix_of_headD (t := .function f) (first f hf) ts

theorem prefix_keyword_iff {k : KeywordSubquery} (hk : k.keyword ∈ KeywordSubquery.keywords)
    (d : Dialect) (ts : List Token) :
    "NOT ".toList <+: Token.chars d (.raw k.keyword :: ts) ↔ ∃ s, k = .notExist s := by
  have first : ∀ word ∈ KeywordSubquery.keywords, word ≠ "NOT EXISTS " →
      word.toList.headD 'N' ≠ 'N' := by
    simp [KeywordSubquery.keywords]
  by_cases h : k.keyword = "NOT EXISTS "
  · refine iff_of_true ?_ ⟨k.subquery, ?_⟩
    · rw [Token.chars_cons, Token.text, h]
      exact ⟨"EXISTS ".toList ++ Token.chars d ts, rfl⟩
    · rw [KeywordSubquery.notExist, ← h]
  · refine iff_of_false (not_prefix_of_headD (t := .raw k.keyword) (first k.keyword hk h) ts) ?_
    rintro ⟨s, rfl⟩
    exact h rfl

/-- **Only a nested statement behind `NOT EXISTS` begins with the word `NOT` as an operand.** -/
theorem begins_iff {d : Dialect} (hd : d.quoteChar ≠ 'N') {x : Expr} {p : Phrase} (h : Of x p)
    (hx : x.Constructed) :
    "NOT ".toList <+: Token.chars d p.operand ↔ ∃ s, x = .keyword (.notExist s) := by
  cases h with
  | column c qualifier column =>
    exact iff_of_false (not_prefix_fieldTokens hd column qualifier) (by simp)
  | value v => exact iff_of_false (not_prefix_of_headD (by simp [Token.text]) []) (by simp)
  | raw r => exact iff_of_false (not_prefix_openParen d _) (by simp)
  | subquery s q => exact iff_of_false (not_prefix_openParen d _) (by simp)
  | aggregate a qualifier column =>
    cases hx with
    | aggregate ha => exact iff_of_false (not_prefix_function ha d _) (by simp)
  | keyword k q =>
    cases hx with
    | keyword hk =>
      refine (prefix_keyword_iff hk d _).trans ?_
      simp only [Expr.keyword.injEq]
  | unary kind hop hx => exact iff_of_false (not_prefix_openParen d _) (by simp)
  | binary kind hop hx hy => exact iff_of_false (not_prefix_openParen d _) (by simp)

theorem negated?_eq_none_iff {x : Expr} {p : Phrase} (h : Of x p) :
    p.negated? = none ↔ ∀ s, x ≠ .keyword (.notExist s) := by
  cases h with
  | keyword k q =>
    obtain ⟨word, s⟩ := k
    by_cases hword : word = "NOT EXISTS "
    · subst hword
      exact iff_of_false (Option.some_ne_none _) fun h => h s rfl
    · refine iff_of_true (if_neg hword) fun t ht => hword ?_
      exact congrArg KeywordSubquery.keyword (Expr.keyword.inj ht)
  | column c qualifier column => exact iff_of_true rfl fun s => Expr.noConfusion
  | value v => exact iff_of_true rfl fun s => Expr.noConfusion
  | raw r => exact iff_of_true rfl fun s => Expr.noConfusion
  | aggregate a qualifier column => exact iff_of_true rfl fun s => Expr.noConfusion
  | subquery s q => exact iff_of_true rfl fun s => Expr.noConfusion
  | unary kind hop hx => exact iff_of_true rfl fun s => Expr.noConfusion
  | binary kind hop hx hy => exact iff_of_true rfl fun s => Expr.noConfusion

theorem forall_negated?_iff {xs : List Expr} {ps : List Phrase} (h : List.Forall₂ Of xs ps) :
    (∀ p ∈ ps, p.negated? = none) ↔ ∀ s, .keyword (.notExist s) ∉ xs := by
  induction h with
  | nil => simp
  | cons hx _ ih =>
    rw [List.forall_mem_cons, hx.negated?_eq_none_iff, ih]
    simp only [List.mem_cons, not_or, forall_and]
    exact and_congr_left' (forall_congr' fun s => ne_comm)

end Phrase.Of

/-! ## 2. What a prefix `NOT` captures -/

/-- **A prefix `NOT` captures more than its operand exactly behind `not_exists`.** An expression of
the builder that compiles is written in the tokens of its phrase. -/
theorem read_as_built_iff {sc : Scope BuildM} {d : Dialect} (hd : d.quoteChar ≠ 'N') {x : Expr}
    (hx : x.Constructed) {st st' : Store} {ts : List Token}
    (h : (sc.expr x).run.run st = (.ok ts, st')) :
    ∃ p, (sc.phrase x).run.run st = (.ok p, st') ∧ ts = p.tokens ∧
      List.Forall₂ (fun y q => "NOT ".toList <+: Token.chars d q.operand ↔
        ∃ s, y = .keyword (.notExist s)) x.tightOperands p.tightOperands ∧
      (Reading.ofTokens ts = some p.tree ↔ ∀ s, .keyword (.notExist s) ∉ x.tightOperands) := by
  obtain ⟨p, hp, rfl, hof⟩ := phrase_of_expr h
  refine ⟨p, hp, rfl, ?_, ?_⟩
  · have operands := (List.forall₂_and_left _ _).2 ⟨hx.tightOperands, hof.tightOperands⟩
    exact operands.imp fun y q hy => hy.2.begins_iff hd hy.1
  · rw [Phrase.ofTokens_eq_heard hof.read, p.heard_eq_tree_iff]
    exact Phrase.Of.forall_negated?_iff hof.tightOperands

/-- Two tables and a nested statement over the second one. -/
def ordersRun : List Step :=
  let db : Db := { registry := 0, dialect := BaseDialect.mysql.toDialect }
  [.register 0 "user" { tableName := "user", fields := [("Age", "age")] },
    .register 0 "order" { tableName := "order_detail", fields := [("Id", "id")] },
    .nest { db, entity := some (.named "order") } [] none]

/-- The scope of a statement over the first table. -/
def usersScope : Scope BuildM where
  registry := 0
  primary := { tableName := "user", fields := [("Age", "age")] }
  inner := (Session.start.steps ordersRun).2.inner

/-- There is no order, as a keyword. -/
def noOrder : Expr := .keyword (.notExist { node := 0 })

/-- There is no order, as a node. -/
def notAnyOrder : Expr := .not (.keyword (.exist { node := 0 }))

theorem read_as_built_iff_users :
    let d : Dialect := BaseDialect.mysql.toDialect
    let st := (Session.start.steps ordersRun).2.store
    let x : Expr := .and (.isNull notAnyOrder) noOrder
    d.quoteChar ≠ 'N' ∧ x.Constructed ∧ ∃ ts st' p,
      (usersScope.expr x).run.run st = (.ok ts, st') ∧
      (usersScope.phrase x).run.run st = (.ok p, st') ∧
      (Token.render d ts).sql = "((NOT EXISTS (SELECT * FROM `order_detail`)) IS NULL) "
        ++ "AND NOT EXISTS (SELECT * FROM `order_detail`)" ∧
      Reading.ofTokens ts = some p.tree := by
  intro d st x
  have hd : d.quoteChar ≠ 'N' := by decide
  have hx : x.Constructed :=
    .combine .and (.apply .isNull (.apply .not (.keyword (by decide)))) (.keyword (by decide))
  obtain ⟨ts, st', h⟩ : ∃ ts st', (usersScope.expr x).run.run st = (.ok ts, st') := ⟨_, _, rfl⟩
  obtain ⟨p, hp, -, -, read⟩ := read_as_built_iff hd hx h
  have operands : x.tightOperands = [notAnyOrder] := rfl
  refine ⟨hd, hx, ts, st', p, h, hp, ?_, read.2 fun s hs => ?_⟩
  · cases h
    decide +kernel
  · rw [operands] at hs
    exact Expr.noConfusion (List.mem_singleton.1 hs)

/-- A `NOT` that captures the operator behind it, and one that cannot be read. -/
theorem negation_captured_users :
    let d : Dialect := BaseDialect.mysql.toDialect
    let st := (Session.start.steps ordersRun).2.store
    let orders : Query := { sql := "SELECT * FROM `order_detail`", args := [] }
    let x : Expr := .isNull noOrder
    let y : Expr := .eq (.column { name := "Age" }) noOrder
    x.Constructed ∧ y.Constructed ∧ ∃ ts us st' st'' p q,
      (usersScope.expr x).run.run st = (.ok ts, st') ∧
      (usersScope.phrase x).run.run st = (.ok p, st') ∧
      (usersScope.expr y).run.run st = (.ok us, st'') ∧
      (usersScope.phrase y).run.run st = (.ok q, st'') ∧
      (Token.render d ts).sql = "NOT EXISTS (SELECT * FROM `order_detail`) IS NULL" ∧
      (Token.render d us).sql = "`age` = NOT EXISTS (SELECT * FROM `order_detail`)" ∧
      (∃ o ∈ p.tightOperands, "NOT ".toList <+: Token.chars d o.operand) ∧
      (∃ o ∈ q.tightOperands, "NOT ".toList <+: Token.chars d o.operand) ∧
      p.tree = .unary .isNull (.unary .not (.call "EXISTS " (.text orders))) ∧
      Reading.ofTokens ts = some (.unary .not (.unary .isNull (.call "EXISTS " (.text orders)))) ∧
      Reading.ofTokens us = none := by
  intro d st orders x y
  have begins : "NOT ".toList <+: Token.chars d (Phrase.keyword "NOT EXISTS " orders).operand :=
    ⟨"EXISTS (SELECT * FROM `order_detail`)".toList, by decide +kernel⟩
  refine ⟨.apply .isNull (.keyword (by decide)), .combine .eq (.column _) (.keyword (by decide)),
    _, _, _, _, .unary .isNull (.keyword "NOT EXISTS " orders),
    .binary .eq (.field none "age") (.keyword "NOT EXISTS " orders), rfl, rfl, rfl, rfl, ?_, ?_,
    ⟨_, .head _, begins⟩, ⟨_, .tail _ (.head _), begins⟩, rfl, rfl, rfl⟩
  · decide +kernel
  · decide +kernel

end SqlSelect
