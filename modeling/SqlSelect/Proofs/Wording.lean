import SqlSelect.Proofs.Frozen
/-!
# The wording of a statement

The compiler looks things up, may fail, and puts nested statements in as text that is rendered
already. What it writes when it succeeds can be said without any of this: a statement has a wording,
the list of its pieces from left to right, with every nested statement expanded in its place as
often as it is referred to.

* `Lookup` -- what fields stand for; a field that stands for nothing has no name in the wording;
* `Wording.statement` -- the pieces of a statement but for its semicolon, a plain function of the
  statement, the lookup and the pieces of the nested statements;
* `tabulate` -- what is said of every nested statement of a list, each given those before it;
* `wordings` -- the pieces of every nested statement of a list;
* `frozen_build_writes`, `build_writes` -- a build that succeeds, frozen or over a sound store, renders
  the wording.
-/

namespace SqlSelect

/-! ## 1. Pieces -/

/-- A token and the dialect that it is written in. -/
structure Piece where
  dialect : Dialect
  token : Token

namespace Piece

/-- The text of a piece. -/
def text (p : Piece) : List Char := (p.token.text p.dialect).toList

/-- The values that a piece brings along. -/
def args (p : Piece) : List Value := p.token.args

/-- The text of several pieces, and their values. -/
def render : List Piece → Query
  | [] => .empty
  | p :: ps => Query.append { sql := p.token.text p.dialect, args := p.token.args } (render ps)

@[simp] theorem render_nil : render [] = .empty := rfl

theorem render_append (ps qs : List Piece) :
    render (ps ++ qs) = (render ps).append (render qs) := by
  induction ps with
  | nil => simp
  | cons p ps ih => rw [List.cons_append, render, render, ih, Query.append_assoc]

/-- The text of several pieces is the text of each, one after the other. -/
theorem toList_render_sql (ps : List Piece) : (render ps).sql.toList = ps.flatMap text := by
  induction ps with
  | nil => rfl
  | cons p ps ih => simp [render, Query.append, text, ih]

/-- The values of several pieces are the values of each, one after the other. -/
theorem render_args (ps : List Piece) : (render ps).args = ps.flatMap args := by
  induction ps with
  | nil => rfl
  | cons p ps ih => simp [render, Query.append, args, ih]

/-- Tokens as pieces of one dialect. -/
def own (d : Dialect) (ts : List Token) : List Piece := ts.map fun t => { dialect := d, token := t }

theorem own_append (d : Dialect) (ts us : List Token) : own d (ts ++ us) = own d ts ++ own d us :=
  List.map_append

theorem map_token_own (d : Dialect) (ts : List Token) : (own d ts).map token = ts := by
  rw [own, List.map_map]
  exact List.map_id ts

theorem render_own (d : Dialect) (ts : List Token) : render (own d ts) = Token.render d ts := by
  induction ts with
  | nil => rfl
  | cons t ts ih =>
    rw [Token.render_cons, ← ih]
    rfl

end Piece

/-! ## 2. What fields stand for -/

/-- What is known to a statement: the descriptions of its own entity, of other entities, and of the
entities of nested statements. -/
structure Lookup where
  primary : Option EntityMetadata := none
  entity : EntityKey → Option EntityMetadata := fun _ => none
  nested : Nat → Option EntityMetadata := fun _ => none

/-- The physical column that a field of a source stands for. -/
def Lookup.column? (lk : Lookup) (field : String) : Option TableRef → Option String
  | none => lk.primary.bind (·.column? field)
  | some (.table t) => (lk.entity t.entity).bind (·.column? field)
  | some (.subquery s) => (lk.nested s.node).bind (·.column? field)

/-! ## 3. The pieces of a statement -/

namespace Wording

section Tokens

variable (lk : Lookup)

/-- The qualifier of a field and its column. -/
def field (table : Option TableRef) (name : String) : List Token :=
  (match table.bind TableRef.qualifier? with
    | some qualifier => [.ident qualifier, .dot]
    | none => []) ++ ((lk.column? name table).map Token.ident).toList

/-- An aggregate without its alias. -/
def aggregate (a : Aggregate) : List Token :=
  [.function a.function, .openParen] ++ field lk a.table a.field ++ [.closeParen]

/-- An item of the `SELECT` list. -/
def selectable : Selectable → List Token
  | .column c => field lk c.table c.name ++ Scope.aliased c.aliasName
  | .aggregate a => aggregate lk a ++ Scope.aliased a.aliasName
  | .raw r => [.fragment r.query]

/-- A column without its alias. -/
def column (c : Column) : List Token := field lk c.table c.name

/-- A column to order by. -/
def ordering (o : OrderBy) : List Token := column lk o.column ++ [.space, Scope.direction o.dir]

/-- Several parts with commas between them. -/
def separated {α : Type} (part : α → List Token) (parts : List α) : List Token :=
  [Token.comma].intercalate (parts.map part)

theorem separated_singleton {α : Type} (part : α → List Token) (a : α) :
    separated part [a] = part a := by
  rw [separated, List.map_singleton, List.intercalate_singleton]

theorem separated_cons_cons {α : Type} (part : α → List Token) (a b : α) (rest : List α) :
    separated part (a :: b :: rest) = part a ++ [.comma] ++ separated part (b :: rest) := by
  rw [separated, List.map_cons, List.map_cons, List.intercalate_cons_cons]
  rfl

/-- The `SELECT` list. -/
def selectList (items : List Selectable) : List Token :=
  if items.isEmpty then [.star] else separated (selectable lk) items

/-- The name of the table of an entity. -/
def tableName (entity : Option EntityMetadata) : List Token :=
  (entity.map fun m => Token.ident m.tableName).toList

end Tokens

variable (d : Dialect) (lk : Lookup) (said : Nat → List Piece)

open Piece (own)

/-- A nested statement in parentheses. -/
def subquery (s : Subquery) : List Piece := own d [.openParen] ++ said s.node ++ own d [.closeParen]

/-- An operand, given the pieces of its expression. -/
def operand (x : Expr) (ps : List Piece) : List Piece :=
  if Scope.isNode x then own d [.openParen] ++ ps ++ own d [.closeParen] else ps

/-- An expression. -/
def expr : Expr → List Piece
  | .column c => own d (field lk c.table c.name)
  | .value v => own d [.param v]
  | .raw r => own d [.openParen, .fragment r.query, .closeParen]
  | .aggregate a => own d (aggregate lk a)
  | .subquery s => subquery d said s
  | .keyword k => own d [.raw k.keyword] ++ subquery d said k.subquery
  | .unary _ op x =>
    if op.isLeading then own d [.op op, .space] ++ operand d x (expr x)
    else operand d x (expr x) ++ own d [.space, .op op]
  | .binary _ op x y =>
    operand d x (expr x) ++ own d [.space, .op op, .space] ++ operand d y (expr y)

/-- The source of the rows. -/
def source : Source → List Piece
  | .entity => own d (tableName lk.primary)
  | .verbatim text => own d [.raw text]
  | .reference (.table t) => own d (tableName (lk.entity t.entity) ++ Scope.aliased t.aliasName)
  | .reference (.subquery s) => subquery d said s ++ own d (Scope.aliased s.aliasName)

/-- A clause behind its keyword, nothing if it has no parts. -/
def clause {α : Type} (keyword : Token) (parts : List α) (body : List Piece) : List Piece :=
  if parts.isEmpty then [] else own d [.space, keyword, .space] ++ body

/-- A clause of conditions, joined from the left by `AND`. -/
def conditions (xs : List Expr) : List Piece :=
  (Scope.conjunction xs).elim [] (expr d lk said)

/-- A statement but for its semicolon. -/
def statement (s : Selector) : List Piece :=
  own d [.select, .space] ++ own d (selectList lk s.columns)
    ++ own d [.space, .from, .space] ++ source d lk said s.source
    ++ clause d .where s.filters (conditions d lk said s.filters)
    ++ clause d .groupBy s.groupBy (own d (separated (column lk) s.groupBy))
    ++ clause d .having s.having (conditions d lk said s.having)
    ++ clause d .orderBy s.orderBy (own d (separated (ordering lk) s.orderBy))
    ++ own d (Scope.paging .limit s.limit ++ Scope.paging .offset s.offset)

end Wording

/-! ## 4. All statements of a list -/

/-- What is said of each statement of a list by its number, given the statements before it and what
is said of those; any other number gets the default. -/
def tabulate {α : Type} (default : α) (say : List Selector → (Nat → α) → Selector → α)
    (nested : List Selector) : Nat → α :=
  backwards nested.reverse
where
  backwards : List Selector → Nat → α
    | [], _ => default
    | s :: before, n =>
      if n = before.length then say before.reverse (backwards before) s else backwards before n

section Tabulate

variable {α β : Type} {a : α} {b : β} {sayA : List Selector → (Nat → α) → Selector → α}
  {sayB : List Selector → (Nat → β) → Selector → β}

theorem tabulate_concat_self (nested : List Selector) (s : Selector) :
    tabulate a sayA (nested ++ [s]) nested.length = sayA nested (tabulate a sayA nested) s := by
  simp only [tabulate, List.reverse_append, List.reverse_singleton, List.singleton_append,
    tabulate.backwards, List.length_reverse, if_true, List.reverse_reverse]

theorem tabulate_concat_of_ne {nested : List Selector} {n : Nat} (s : Selector)
    (h : n ≠ nested.length) : tabulate a sayA (nested ++ [s]) n = tabulate a sayA nested n := by
  simp only [tabulate, List.reverse_append, List.reverse_singleton, List.singleton_append,
    tabulate.backwards, List.length_reverse, if_neg h]

/-- Statements more at the end change nothing for the ones before them. -/
theorem tabulate_append {nested : List Selector} {n : Nat} (more : List Selector)
    (h : n < nested.length) : tabulate a sayA (nested ++ more) n = tabulate a sayA nested n := by
  induction more using List.reverseRecOn with
  | nil => rw [List.append_nil]
  | append_singleton more s ih =>
    have hn : n ≠ (nested ++ more).length := by
      rw [List.length_append]
      omega
    rw [← List.append_assoc, tabulate_concat_of_ne s hn, ih]

/-- What is said of changed statements. -/
theorem tabulate_map (f : Selector → Selector) (nested : List Selector) (n : Nat) :
    tabulate a sayA (nested.map f) n
      = tabulate a (fun before said s => sayA (before.map f) said (f s)) nested n := by
  induction nested using List.reverseRecOn generalizing n with
  | nil => rfl
  | append_singleton nested s ih =>
    have hlength : (nested.map f).length = nested.length := List.length_map f
    rw [List.map_append, List.map_singleton]
    by_cases hn : n = nested.length
    · rw [hn, tabulate_concat_self, ← hlength, tabulate_concat_self, funext ih]
    · rw [tabulate_concat_of_ne s hn, tabulate_concat_of_ne (f s) (hlength ▸ hn), ih n]

/-- Two tables over one list are related if their defaults are, and each entry by those before it. -/
theorem tabulate_relation {R : α → β → Prop} (hdefault : R a b)
    (hsay : ∀ before saidA saidB s, (∀ n, R (saidA n) (saidB n)) →
      R (sayA before saidA s) (sayB before saidB s))
    (nested : List Selector) (n : Nat) :
    R (tabulate a sayA nested n) (tabulate b sayB nested n) := by
  induction nested using List.reverseRecOn generalizing n with
  | nil => exact hdefault
  | append_singleton nested s ih =>
    by_cases hn : n = nested.length
    · subst hn
      rw [tabulate_concat_self, tabulate_concat_self]
      exact hsay _ _ _ s ih
    · rw [tabulate_concat_of_ne s hn, tabulate_concat_of_ne s hn]
      exact ih n

/-- What holds of every statement of a list, given that it holds of those before. -/
theorem tabulate_forall {P : α → Prop} {nested : List Selector} (hdefault : P a)
    (hsay : ∀ before saidA s, s ∈ nested → (∀ n, P (saidA n)) → P (sayA before saidA s)) (n : Nat) :
    P (tabulate a sayA nested n) := by
  induction nested using List.reverseRecOn generalizing n with
  | nil => exact hdefault
  | append_singleton nested s ih =>
    have first := ih fun before saidA t ht => hsay before saidA t (List.mem_append_left _ ht)
    by_cases hn : n = nested.length
    · subst hn
      rw [tabulate_concat_self]
      exact hsay _ _ s (List.mem_append_right _ List.mem_cons_self) first
    · rw [tabulate_concat_of_ne s hn]
      exact first n

end Tabulate

section Statements

variable (given : Nat → Option (List Piece))
  (describe : Nat → EntityKey → Except BuildError EntityMetadata) (before nested : List Selector)

/-- The description of the entity of a statement, if there is one. -/
def entityOf (s : Selector) : Option EntityMetadata :=
  s.entity.bind fun key => (describe s.db.registry key).toOption

/-- What is known to a statement behind others. -/
def lookupOf (s : Selector) : Lookup where
  primary := entityOf describe s
  entity key := (describe s.db.registry key).toOption
  nested n := before[n]?.bind (entityOf describe)

/-- A statement but for its semicolon, behind others and among what is said of them. -/
def bodyOf (said : Nat → List Piece) (s : Selector) : List Piece :=
  Wording.statement s.db.dialect (lookupOf describe before s) said s

/-- The nested statements but for their semicolons, by their numbers. For some of them the pieces
are given. -/
def wordings : Nat → List Piece :=
  tabulate [] (fun before said s => (given before.length).getD (bodyOf describe before said s)) nested

/-- **The wording of a statement**, with its semicolon. -/
def wordingOf (s : Selector) : List Piece :=
  bodyOf describe nested (wordings given describe nested) s ++ Piece.own s.db.dialect [.semicolon]

end Statements

/-! ## 5. A successful compilation writes the wording -/

theorem bind_eq_ok {α β : Type} {x : Except BuildError α} {f : α → Except BuildError β} {b : β}
    (h : x >>= f = .ok b) : ∃ a, x = .ok a ∧ f a = .ok b := by
  cases x with
  | error e => cases h
  | ok a => exact ⟨a, rfl, h⟩

/-- The lookup knows everything that the scope finds. -/
structure Lookup.Covers (lk : Lookup) (sc : Scope (Except BuildError)) : Prop where
  primary : lk.primary = some sc.primary
  entity : ∀ key m, sc.inner.describe sc.registry key = .ok m → lk.entity key = some m
  nested : ∀ n m, sc.inner.metadata n = .ok m → lk.nested n = some m

/-- Tokens and pieces of one text and one list of values. -/
def Writes (d : Dialect) (ts : List Token) (ps : List Piece) : Prop :=
  Token.render d ts = Piece.render ps

namespace Writes

variable {d : Dialect} {ts us : List Token} {ps qs : List Piece}

theorem own (ts : List Token) : Writes d ts (Piece.own d ts) := (Piece.render_own d ts).symm

theorem append (ht : Writes d ts ps) (hu : Writes d us qs) : Writes d (ts ++ us) (ps ++ qs) := by
  unfold Writes at *
  rw [Token.render_append, Piece.render_append, ht, hu]

end Writes

section Compile

variable {d : Dialect} {lk : Lookup} {said : Nat → List Piece} {sc : Scope (Except BuildError)}
  {ts : List Token}

theorem require_ok {m : EntityMetadata} {name column : String}
    (h : (Scope.require m name : Except BuildError String) = .ok column) :
    m.column? name = some column := by
  unfold Scope.require at h
  split at h
  · cases h
    assumption
  · cases h

section Names

variable (hl : lk.Covers sc)

include hl

/-- **A field that compiles stands for the column that it compiles to.** -/
theorem columnName_ok {name column : String} {table : Option TableRef}
    (h : sc.columnName name table = .ok column) : lk.column? name table = some column := by
  match table with
  | none =>
    simp only [Lookup.column?, hl.primary, Option.bind_some]
    exact require_ok h
  | some (.table t) =>
    obtain ⟨m, hm, h⟩ := bind_eq_ok h
    simp only [Lookup.column?, hl.entity _ m hm, Option.bind_some]
    exact require_ok h
  | some (.subquery s) =>
    simp only [Scope.columnName] at h
    split at h
    · obtain ⟨m, hm, h⟩ := bind_eq_ok h
      simp only [Lookup.column?, hl.nested _ m hm, Option.bind_some]
      exact require_ok h
    · cases h

theorem field_ok {table : Option TableRef} {name : String} (h : sc.field table name = .ok ts) :
    Wording.field lk table name = ts := by
  obtain ⟨column, hc, h⟩ := bind_eq_ok h
  unfold Wording.field
  rw [columnName_ok hl hc]
  cases hqualifier : table.bind TableRef.qualifier? with
  | some qualifier =>
    rw [hqualifier] at h
    cases h
    rfl
  | none =>
    rw [hqualifier] at h
    cases h
    rfl

theorem aggregate_ok {a : Aggregate} (h : sc.aggregate a = .ok ts) :
    Wording.aggregate lk a = ts := by
  obtain ⟨us, hu, h⟩ := bind_eq_ok h
  cases h
  rw [Wording.aggregate, field_ok hl hu]

theorem selectable_ok {item : Selectable} (h : sc.selectable item = .ok ts) :
    Wording.selectable lk item = ts := by
  cases item with
  | column c =>
    obtain ⟨us, hu, h⟩ := bind_eq_ok h
    cases h
    rw [Wording.selectable, field_ok hl hu]
  | aggregate a =>
    obtain ⟨us, hu, h⟩ := bind_eq_ok h
    cases h
    rw [Wording.selectable, aggregate_ok hl hu]
  | raw r =>
    cases h
    rfl

theorem column_ok {c : Column} (h : sc.column c = .ok ts) : Wording.column lk c = ts :=
  field_ok hl h

theorem ordering_ok {o : OrderBy} (h : sc.ordering o = .ok ts) : Wording.ordering lk o = ts := by
  obtain ⟨us, hu, h⟩ := bind_eq_ok h
  cases h
  rw [Wording.ordering, column_ok hl hu]

omit hl in
theorem separated_ok {α : Type} {part : α → Except BuildError (List Token)}
    {say : α → List Token} (hp : ∀ a ts, part a = .ok ts → say a = ts) {parts : List α}
    (h : Scope.separated part parts = .ok ts) : Wording.separated say parts = ts := by
  induction parts generalizing ts with
  | nil =>
    cases h
    rfl
  | cons a rest ih =>
    cases rest with
    | nil =>
      rw [Wording.separated_singleton]
      exact hp a ts h
    | cons b rest =>
      obtain ⟨us, hu, h⟩ := bind_eq_ok h
      obtain ⟨vs, hv, h⟩ := bind_eq_ok h
      cases h
      rw [Wording.separated_cons_cons, hp a us hu, ih hv, List.append_assoc, List.singleton_append]

theorem selectList_ok {items : List Selectable} (h : sc.selectList items = .ok ts) :
    Wording.selectList lk items = ts := by
  unfold Scope.selectList at h
  unfold Wording.selectList
  split at h
  · next he =>
    cases h
    rw [if_pos he]
  · next he =>
    rw [if_neg he]
    exact separated_ok (fun _ _ => selectable_ok hl) h

end Names

section Clauses

variable (hq : ∀ n q, sc.inner.query n = .ok q → q = Piece.render (said n))

include hq in
theorem subquery_writes {s : Subquery} (h : sc.subquery s = .ok ts) :
    Writes d ts (Wording.subquery d said s) := by
  obtain ⟨q, hn, h⟩ := bind_eq_ok h
  cases h
  have fragment : Writes d [.fragment q] (said s.node) := by
    unfold Writes
    rw [← hq _ _ hn]
    simp [Token.render_cons, Token.text, Token.args]
  exact ((Writes.own [.openParen]).append fragment).append (.own [.closeParen])

theorem operand_writes {x : Expr} {ps : List Piece} (h : Writes d ts ps) :
    Writes d (Scope.operand x ts) (Wording.operand d x ps) := by
  unfold Scope.operand Wording.operand
  split
  · exact ((Writes.own [.openParen]).append h).append (.own [.closeParen])
  · exact h

theorem clause_writes {α : Type} {keyword : Token} {parts : List α}
    {body : List α → Except BuildError (List Token)} {ps : List Piece}
    (hb : ∀ ts, body parts = .ok ts → Writes d ts ps)
    (h : Scope.clause keyword parts body = .ok ts) :
    Writes d ts (Wording.clause d keyword parts ps) := by
  unfold Scope.clause at h
  unfold Wording.clause
  split at h
  · next he =>
    cases h
    rw [if_pos he]
    rfl
  · next he =>
    obtain ⟨us, hu, h⟩ := bind_eq_ok h
    cases h
    rw [if_neg he]
    exact (Writes.own _).append (hb us hu)

variable (hl : lk.Covers sc)

include hq hl

/-- **An expression that compiles writes its wording.** -/
theorem expr_writes {x : Expr} (h : sc.expr x = .ok ts) : Writes d ts (Wording.expr d lk said x) := by
  induction x generalizing ts with
  | column c =>
    rw [Wording.expr, field_ok hl h]
    exact .own ts
  | value v =>
    cases h
    exact .own _
  | raw r =>
    cases h
    exact .own _
  | aggregate a =>
    rw [Wording.expr, aggregate_ok hl h]
    exact .own ts
  | subquery s => exact subquery_writes hq h
  | keyword k =>
    obtain ⟨us, hu, h⟩ := bind_eq_ok h
    cases h
    exact (Writes.own [.raw k.keyword]).append (subquery_writes hq hu)
  | unary kind op x ih =>
    obtain ⟨_, _, h⟩ := bind_eq_ok h
    obtain ⟨us, hu, h⟩ := bind_eq_ok h
    cases h
    have operand := operand_writes (x := x) (ih hu)
    rw [Wording.expr]
    split
    · exact (Writes.own _).append operand
    · exact operand.append (.own _)
  | binary kind op x y ihx ihy =>
    obtain ⟨_, _, h⟩ := bind_eq_ok h
    obtain ⟨us, hu, h⟩ := bind_eq_ok h
    obtain ⟨vs, hv, h⟩ := bind_eq_ok h
    cases h
    exact ((operand_writes (ihx hu)).append (.own _)).append (operand_writes (ihy hv))

theorem source_writes {source : Source} (h : sc.source source = .ok ts) :
    Writes d ts (Wording.source d lk said source) := by
  match source with
  | .entity =>
    cases h
    rw [Wording.source, hl.primary]
    exact .own _
  | .verbatim text =>
    cases h
    exact .own _
  | .reference (.table t) =>
    obtain ⟨m, hm, h⟩ := bind_eq_ok h
    cases h
    rw [Wording.source, hl.entity _ m hm]
    exact .own _
  | .reference (.subquery s) =>
    simp only [Scope.source] at h
    split at h
    · cases h
    · next name ha =>
      obtain ⟨us, hu, h⟩ := bind_eq_ok h
      cases h
      have same : Scope.aliased (some name) = Scope.aliased s.aliasName := by
        unfold nonEmpty at ha
        obtain ⟨hs, hn⟩ := Option.filter_eq_some_iff.1 ha
        rw [hs]
      rw [same]
      exact (subquery_writes hq hu).append (.own _)

theorem conditions_writes {xs : List Expr} (h : sc.conditions xs = .ok ts) :
    Writes d ts (Wording.conditions d lk said xs) := by
  unfold Scope.conditions at h
  unfold Wording.conditions
  split at h
  · next x hx =>
    rw [hx]
    exact expr_writes hq hl h
  · next hx =>
    cases h
    rw [hx]
    rfl

/-- **A statement that compiles writes its wording and a semicolon.** -/
theorem statement_writes {s : Selector} (h : sc.statement s = .ok ts) :
    Writes d ts (Wording.statement d lk said s ++ Piece.own d [.semicolon]) := by
  obtain ⟨columns, hcolumns, h⟩ := bind_eq_ok h
  obtain ⟨source, hsource, h⟩ := bind_eq_ok h
  obtain ⟨filters, hfilters, h⟩ := bind_eq_ok h
  obtain ⟨groupBy, hgroupBy, h⟩ := bind_eq_ok h
  obtain ⟨having, hhaving, h⟩ := bind_eq_ok h
  obtain ⟨orderBy, horderBy, h⟩ := bind_eq_ok h
  cases h
  have ownClause {parts : List Token} {us : List Token} (hu : parts = us) :
      Writes d us (Piece.own d parts) := by
    subst hu
    exact .own parts
  have hselect : Writes d columns (Piece.own d (Wording.selectList lk s.columns)) :=
    ownClause (selectList_ok hl hcolumns)
  have hwhere := clause_writes (d := d) (fun _ => conditions_writes hq hl) hfilters
  have hgroup := clause_writes (fun us hu => ownClause
    (separated_ok (fun _ _ => column_ok hl) hu)) hgroupBy
  have hhave := clause_writes (d := d) (fun _ => conditions_writes hq hl) hhaving
  have horder := clause_writes (fun us hu => ownClause
    (separated_ok (fun _ _ => ordering_ok hl) hu)) horderBy
  have head := (((Writes.own [.select, .space]).append hselect).append
    (.own [.space, .from, .space])).append (source_writes hq hl hsource)
  have clauses := (((head.append hwhere).append hgroup).append hhave).append horder
  have paging := (clauses.append (.own (Scope.paging .limit s.limit
    ++ Scope.paging .offset s.offset))).append (.own [.semicolon])
  simpa only [Wording.statement, List.append_assoc] using paging

end Clauses

end Compile

/-! ## 6. Successful builds write the wording -/

section Builds

variable {given : Nat → Option (List Piece)} {kept : Nat → Option Query}
  {describe : Nat → EntityKey → Except BuildError EntityMetadata} {nested : List Selector}

theorem toOption_of_ok {α : Type} {x : Except BuildError α} {a : α} (h : x = .ok a) :
    x.toOption = some a := by
  rw [h]
  rfl

theorem entityOf_ok {s : Selector} {m : EntityMetadata} (h : s.metadata describe = .ok m) :
    entityOf describe s = some m := by
  unfold Selector.metadata at h
  unfold entityOf
  split at h
  · cases h
  · next key hkey =>
    rw [hkey]
    exact toOption_of_ok h

/-- The description of a nested statement's entity is the one in the list. -/
theorem metadata_ok {n : Nat} {m : EntityMetadata}
    (h : (frozen kept describe nested).metadata n = .ok m) :
    nested[n]?.bind (entityOf describe) = some m := by
  induction nested using List.reverseRecOn with
  | nil => cases h
  | append_singleton nested s ih =>
    simp only [frozen, ofList_concat, Inner.push, size_ofList, describe_ofList] at h
    split at h
    · next hn =>
      subst hn
      simp only [List.getElem?_concat_length, Option.bind_some]
      exact entityOf_ok h
    · next hn =>
      obtain ⟨s', hs', _⟩ := Option.bind_eq_some_iff.1 (ih h)
      have hlt : n < nested.length := (List.getElem?_eq_some_iff.1 hs').1
      rw [List.getElem?_append_left hlt]
      exact ih h

/-- The lookup of a statement covers its scope. -/
theorem lookupOf_covers {s : Selector} {m : EntityMetadata} (hm : s.metadata describe = .ok m) :
    (lookupOf describe nested s).Covers
      { registry := s.db.registry, primary := m, inner := frozen kept describe nested } where
  primary := entityOf_ok hm
  entity key d hd := by
    simp only [frozen, describe_ofList] at hd
    exact toOption_of_ok hd
  nested _ _ hd := metadata_ok hd

/-- A statement writes its pieces if the statements before it do. -/
theorem build_writes_of {said : Nat → List Piece}
    (hsaid : ∀ n q, (frozen kept describe nested).query n = .ok q → q = Piece.render (said n))
    {s : Selector} {q : Query} (h : s.build (frozen kept describe nested) = .ok q) :
    q = Piece.render (bodyOf describe nested said s ++ Piece.own s.db.dialect [.semicolon]) := by
  obtain ⟨ts, hts, h⟩ := bind_eq_ok h
  cases h
  obtain ⟨m, hm, hts⟩ := bind_eq_ok hts
  simp only [frozen, describe_ofList] at hm
  exact statement_writes hsaid (lookupOf_covers hm) hts

/-- **Nested statements write their pieces**, without the semicolon. -/
theorem query_writes (hkept : ∀ n, kept n = (given n).map Piece.render) {n : Nat} {q : Query}
    (h : (frozen kept describe nested).query n = .ok q) :
    q = Piece.render (wordings given describe nested n) := by
  induction nested using List.reverseRecOn generalizing n q with
  | nil => cases h
  | append_singleton nested s ih =>
    by_cases hn : n = nested.length
    · subst hn
      rw [frozen, query_concat_self, Keeping.given, hkept] at h
      rw [wordings, tabulate_concat_self]
      cases hg : given nested.length with
      | some ps =>
        rw [hg] at h
        cases h
        rfl
      | none =>
        rw [hg] at h
        obtain ⟨p, hp, h⟩ := bind_eq_ok h
        cases h
        rw [build_writes_of (fun n q => ih) hp, Piece.render_append]
        exact Query.unterminated_append _
    · rw [frozen, query_concat_of_ne s hn] at h
      rw [wordings, tabulate_concat_of_ne s hn]
      exact ih h

/-- **A frozen build that succeeds renders the wording.** -/
theorem frozen_build_writes (hkept : ∀ n, kept n = (given n).map Piece.render) {s : Selector}
    {q : Query} (h : s.build (frozen kept describe nested) = .ok q) :
    q = Piece.render (wordingOf given describe nested s) :=
  build_writes_of (fun _ _ => query_writes hkept) h

/-- **A build over a sound store that succeeds renders the wording.** -/
theorem build_writes (hkept : ∀ n, kept n = (given n).map Piece.render) {st st' : Store}
    (hst : st.Sound kept describe nested) {s : Selector} {q : Query}
    (h : (s.build (.ofList .inCells resolve nested)).run.run st = (.ok q, st')) :
    q = Piece.render (wordingOf given describe nested s) := by
  have hs := (build_inCells hst s).1
  rw [h] at hs
  exact frozen_build_writes hkept hs.symm

/-- So does a build over a store with empty cells; then no pieces are given. -/
theorem build_writes_of_empty {st st' : Store} (hst : ∀ n, st.cells n = none) {s : Selector}
    {q : Query} (h : (s.build (.ofList .inCells resolve nested)).run.run st = (.ok q, st')) :
    q = Piece.render (wordingOf (fun _ => none) st.answer nested s) := by
  have hkept : ∀ n : Nat, (none : Option Query) = Option.map Piece.render none := fun _ => rfl
  exact build_writes hkept (Store.Sound.of_empty hst) h

end Builds

end SqlSelect
