import SqlSelect.Proofs.Wording
/-!
# Names that do not meet

Two quoted names in a row would be read as one name, with a quote inside. In the wording of a statement
without raw SQL no two names meet, since between any two of them there is a word that no caller
chooses, and parentheses come in pairs. What a reader finds in the text follows from these two facts
about its tokens, so the statement is gone through for them once.

* `Selector.WrittenIn` -- no raw SQL, functions and keywords among some texts, and safe nested
  statements;
* `Token.Series` -- the invariant of tokens. Whether a name is just behind is noted on both sides;
* `series_statement` -- the wording of such a statement is a series, clause by clause.
-/

namespace SqlSelect

/-! ## 1. Statements written in given texts -/

section WrittenIn

variable (words : String → Prop) (safe : Nat → Prop)

/-- An expression without raw SQL, with functions and keywords among some texts and with safe nested
statements. -/
def Expr.WrittenIn : Expr → Prop
  | .column _ => True
  | .value _ => True
  | .raw _ => False
  | .aggregate a => words a.function
  | .subquery s => safe s.node
  | .keyword k => words k.keyword ∧ safe k.subquery.node
  | .unary _ _ x => x.WrittenIn
  | .binary _ _ x y => x.WrittenIn ∧ y.WrittenIn

/-- An item of the `SELECT` list that is no raw SQL and whose function, if any, is among some texts. -/
def Selectable.WrittenIn : Selectable → Prop
  | .column _ => True
  | .aggregate a => words a.function
  | .raw _ => False

/-- A source that is no text and has a safe nested statement, if any. -/
def Source.Quoted : Source → Prop
  | .entity => True
  | .verbatim _ => False
  | .reference (.table _) => True
  | .reference (.subquery s) => safe s.node

/-- **A statement for a dialect without raw SQL**, with functions and keywords among some texts and with
safe nested statements. About names nothing is asked. -/
structure Selector.WrittenIn (d : Dialect) (s : Selector) : Prop where
  dialect : s.db.dialect = d
  columns : ∀ item ∈ s.columns, item.WrittenIn words
  source : s.source.Quoted safe
  filters : ∀ x ∈ s.filters, x.WrittenIn words safe
  having : ∀ x ∈ s.having, x.WrittenIn words safe

end WrittenIn

/-! ## 2. Series of tokens -/

/-- The text of a token is a clause keyword, punctuation, a placeholder or the spelling of an
operator. -/
def Token.isFixed : Token → Bool
  | ident _ | function _ | fragment _ | raw _ => false
  | _ => true

/-- The token is fixed, and no parenthesis or semicolon. -/
def Token.isWord : Token → Bool
  | openParen | closeParen | semicolon => false
  | t => t.isFixed

theorem Token.isFixed_of_isWord {t : Token} (h : t.isWord) : t.isFixed := by
  cases t with
  | openParen | closeParen | semicolon => rfl
  | _ => exact h

/-- **The invariant of tokens**: words, names and some given texts, where no two names meet and every
parenthesis has its other half. If `before` there may be a name just ahead of them, and if `after` they
may end in one. -/
inductive Token.Series (words : String → Prop) : Bool → List Token → Bool → Prop
  | nil {before after : Bool} (h : before = true → after = true) : Series words before [] after
  /-- No word is empty, so it parts a name from what follows. -/
  | word {before after : Bool} {t : Token} {ts : List Token} (h : t.isWord = true)
    (rest : Series words false ts after) : Series words before (t :: ts) after
  | ident {after : Bool} {ts : List Token} (name : String) (rest : Series words true ts after) :
    Series words false (.ident name :: ts) after
  | function {before after : Bool} {text : String} {ts : List Token} (h : words text)
    (rest : Series words before ts after) : Series words before (.function text :: ts) after
  | keyword {before after : Bool} {text : String} {ts : List Token} (h : words text)
    (rest : Series words before ts after) : Series words before (.raw text :: ts) after
  | enclosed {before middle after : Bool} {ts us : List Token} (inside : Series words false ts middle)
    (rest : Series words false us after) :
    Series words before (.openParen :: (ts ++ .closeParen :: us)) after

namespace Token.Series

variable {words : String → Prop} {before middle after : Bool} {t : Token} {ts us : List Token}

/-- What may come behind a name may come anywhere. -/
theorem anywhere (h : Series words before ts after) : Series words false ts after := by
  induction h with
  | nil => exact .nil nofun
  | word h rest => exact .word h rest
  | ident name rest => exact .ident name rest
  | function h _ ih => exact .function h ih
  | keyword h _ ih => exact .keyword h ih
  | enclosed inside rest => exact .enclosed inside rest

/-- **One after the other.** -/
theorem append (h : Series words before ts middle) (h' : Series words middle us after) :
    Series words before (ts ++ us) after := by
  induction h with
  | @nil before middle hb =>
    cases before with
    | false => exact h'.anywhere
    | true =>
      obtain rfl : middle = true := hb rfl
      exact h'
  | word h _ ih => exact .word h (ih h')
  | ident name _ ih => exact .ident name (ih h')
  | function h _ ih => exact .function h (ih h')
  | keyword h _ ih => exact .keyword h (ih h')
  | enclosed inside _ _ ih =>
    rw [List.cons_append, List.append_assoc, List.cons_append]
    exact .enclosed inside (ih h')

/-- Words, if there is no name just ahead of them. -/
theorem ofWords (h : ts.all isWord) : Series words false ts after := by
  induction ts with
  | nil => exact .nil nofun
  | cons t ts ih =>
    rw [List.all_cons, Bool.and_eq_true] at h
    exact .word h.1 (ih h.2)

/-- Words, at least one, may stand between any others. -/
theorem between (h : (t :: ts).all isWord) : Series words before (t :: ts) after := by
  rw [List.all_cons, Bool.and_eq_true] at h
  exact .word h.1 (ofWords h.2)

/-- Parentheses stand between what is inside and what is around. -/
theorem parenthesised (h : Series words false ts middle) :
    Series words before ([.openParen] ++ ts ++ [.closeParen]) after := by
  rw [List.append_assoc]
  exact .enclosed h (.nil nofun)

end Token.Series

/-- Pieces of one dialect with a series of tokens. -/
def Piece.Series (d : Dialect) (words : String → Prop) (before : Bool) (ps : List Piece)
    (after : Bool) : Prop :=
  ∃ ts, ps = Piece.own d ts ∧ Token.Series words before ts after

theorem Token.Series.pieces {d : Dialect} {words : String → Prop} {before after : Bool}
    {ts : List Token} (h : Token.Series words before ts after) :
    Piece.Series d words before (Piece.own d ts) after :=
  ⟨ts, rfl, h⟩

namespace Piece.Series

variable {d : Dialect} {words : String → Prop} {before middle after : Bool} {ps qs : List Piece}

theorem nil (h : before = true → after = true) : Piece.Series d words before [] after :=
  ⟨[], rfl, .nil h⟩

theorem append (hp : Piece.Series d words before ps middle)
    (hq : Piece.Series d words middle qs after) : Piece.Series d words before (ps ++ qs) after := by
  obtain ⟨ts, rfl, series⟩ := hp
  obtain ⟨us, rfl, series'⟩ := hq
  exact ⟨ts ++ us, (own_append d ts us).symm, series.append series'⟩

theorem parenthesised (h : Piece.Series d words false ps middle) :
    Piece.Series d words before (own d [.openParen] ++ ps ++ own d [.closeParen]) after := by
  obtain ⟨ts, rfl, series⟩ := h
  rw [← own_append, ← own_append]
  exact series.parenthesised.pieces

end Piece.Series

/-! ## 3. From field to statement -/

section Tokens

variable {words : String → Prop} {lk : Lookup}

/-- A name, if there is any. -/
theorem series_name {α : Type} (name : α → String) (a : Option α) :
    Token.Series words false (a.map fun a => Token.ident (name a)).toList true := by
  cases a with
  | none => exact .nil nofun
  | some a => exact .ident (name a) (.nil id)

theorem series_field (table : Option TableRef) (name : String) :
    Token.Series words false (Wording.field lk table name) true := by
  have column : Token.Series words false ((lk.column? name table).map Token.ident).toList true :=
    series_name id (lk.column? name table)
  unfold Wording.field
  cases table.bind TableRef.qualifier? with
  | none => exact column
  | some qualifier => exact .ident qualifier (.word rfl column)

theorem series_aliased (aliasName : Option String) :
    Token.Series words true (Scope.aliased aliasName) true := by
  unfold Scope.aliased
  cases nonEmpty aliasName with
  | none => exact .nil id
  | some name =>
    have keyword : Token.Series words true [.space, .as, .space] false := .between rfl
    exact keyword.append (.ident name (.nil id))

theorem series_aggregate {a : Aggregate} (h : words a.function) :
    Token.Series words false (Wording.aggregate lk a) true := by
  have field : Token.Series words false (Wording.field lk a.table a.field) true :=
    series_field a.table a.field
  exact .function h field.parenthesised

theorem series_selectable {item : Selectable} (h : item.WrittenIn words) :
    Token.Series words false (Wording.selectable lk item) true := by
  cases item with
  | column c => exact (series_field c.table c.name).append (series_aliased c.aliasName)
  | aggregate a => exact (series_aggregate h).append (series_aliased a.aliasName)
  | raw r => exact h.elim

theorem series_ordering (o : OrderBy) :
    Token.Series words false (Wording.ordering lk o) true := by
  have direction : Token.Series words true [.space, Scope.direction o.dir] true := by
    cases o.dir with
    | asc => exact .between rfl
    | desc => exact .between rfl
  exact (series_field o.column.table o.column.name).append direction

/-- Commas part names from each other. -/
theorem series_separated {α : Type} {part : α → List Token} {parts : List α}
    (h : ∀ a ∈ parts, Token.Series words false (part a) true) :
    Token.Series words false (Wording.separated part parts) true := by
  induction parts with
  | nil => exact .nil nofun
  | cons a rest ih =>
    have first := h a List.mem_cons_self
    cases rest with
    | nil =>
      rw [Wording.separated_singleton]
      exact first
    | cons b rest =>
      have others := ih fun c hc => h c (List.mem_cons_of_mem a hc)
      have comma : Token.Series words true [.comma] false := .between rfl
      rw [Wording.separated_cons_cons]
      exact (first.append comma).append others

theorem series_selectList {items : List Selectable} (h : ∀ item ∈ items, item.WrittenIn words) :
    Token.Series words false (Wording.selectList lk items) true := by
  unfold Wording.selectList
  split
  · exact .between rfl
  · exact series_separated fun item hitem => series_selectable (h item hitem)

theorem series_tableName (entity : Option EntityMetadata) :
    Token.Series words false (Wording.tableName entity) true :=
  series_name EntityMetadata.tableName entity

theorem series_paging {keyword : Token} (hk : keyword.isWord) (n : Int64) :
    Token.Series words true (Scope.paging keyword n) true := by
  unfold Scope.paging
  split
  · exact .word rfl (.word hk (.ofWords rfl))
  · exact .nil id

end Tokens

section Clauses

variable {d : Dialect} {words : String → Prop} {ps : List Piece}

theorem series_operand (x : Expr) (h : Piece.Series d words false ps true) :
    Piece.Series d words false (Wording.operand d x ps) true := by
  unfold Wording.operand
  split
  · exact h.parenthesised
  · exact h

theorem series_clause {α : Type} {keyword : Token} (hk : keyword.isWord) (parts : List α)
    (h : Piece.Series d words false ps true) :
    Piece.Series d words true (Wording.clause d keyword parts ps) true := by
  have start : Token.Series words true [.space, keyword, .space] false :=
    .word rfl (.word hk (.ofWords rfl))
  unfold Wording.clause
  split
  · exact .nil id
  · exact start.pieces.append h

end Clauses

section Statements

variable {d : Dialect} {words : String → Prop} {safe : Nat → Prop} {lk : Lookup}
  {said : Nat → List Piece} (hs : ∀ n, safe n → Piece.Series d words false (said n) true)

include hs

theorem series_subquery {before after : Bool} {s : Subquery} (h : safe s.node) :
    Piece.Series d words before (Wording.subquery d said s) after :=
  (hs s.node h).parenthesised

theorem series_expr {x : Expr} (h : x.WrittenIn words safe) :
    Piece.Series d words false (Wording.expr d lk said x) true := by
  induction x with
  | column c => exact (series_field c.table c.name).pieces
  | value v => exact (Token.Series.between rfl).pieces
  | raw r => exact h.elim
  | aggregate a => exact (series_aggregate h).pieces
  | subquery s => exact series_subquery hs h
  | keyword k =>
    have text : Token.Series words false [.raw k.keyword] false := .keyword h.1 (.nil id)
    exact text.pieces.append (series_subquery hs h.2)
  | unary kind op x ih =>
    have operand := series_operand x (ih h)
    rw [Wording.expr]
    split
    · have operator : Token.Series words false [.op op, .space] false := .between rfl
      exact operator.pieces.append operand
    · have operator : Token.Series words true [.space, .op op] true := .between rfl
      exact operand.append operator.pieces
  | binary kind op x y ihx ihy =>
    have operator : Token.Series words true [.space, .op op, .space] false := .between rfl
    have left := series_operand x (ihx h.1)
    have right := series_operand y (ihy h.2)
    exact (left.append operator.pieces).append right

theorem series_source {source : Source} (h : source.Quoted safe) :
    Piece.Series d words false (Wording.source d lk said source) true := by
  match source with
  | .entity => exact (series_tableName lk.primary).pieces
  | .verbatim text => exact h.elim
  | .reference (.table t) =>
    exact ((series_tableName _).append (series_aliased t.aliasName)).pieces
  | .reference (.subquery s) =>
    exact (series_subquery hs h).append (series_aliased s.aliasName).pieces

theorem series_conditions {xs : List Expr} (h : ∀ x ∈ xs, x.WrittenIn words safe) :
    Piece.Series d words false (Wording.conditions d lk said xs) true := by
  cases xs with
  | nil => exact .nil nofun
  | cons x rest =>
    have joined : (rest.foldl Expr.and x).WrittenIn words safe :=
      List.foldlRecOn rest Expr.and (h x List.mem_cons_self)
        fun y hy z hz => ⟨hy, h z (List.mem_cons_of_mem x hz)⟩
    exact series_expr hs joined

/-- **A statement that is written in some texts has a series of tokens in them**, if the safe nested
ones have. -/
theorem series_statement {s : Selector} (h : s.WrittenIn words safe d) :
    Piece.Series d words false (Wording.statement d lk said s) true := by
  have select : Token.Series words false [.select, .space] false := .between rfl
  have columns : Token.Series words false (Wording.selectList lk s.columns) true :=
    series_selectList h.columns
  have «from» : Token.Series words true [.space, .from, .space] false := .between rfl
  have source : Piece.Series d words false (Wording.source d lk said s.source) true :=
    series_source hs h.source
  have filters : Piece.Series d words true
      (Wording.clause d .where s.filters (Wording.conditions d lk said s.filters)) true :=
    series_clause rfl s.filters (series_conditions hs h.filters)
  have groups : Token.Series words false (Wording.separated (Wording.column lk) s.groupBy) true :=
    series_separated fun c _ => series_field c.table c.name
  have groupBy : Piece.Series d words true (Wording.clause d .groupBy s.groupBy
      (Piece.own d (Wording.separated (Wording.column lk) s.groupBy))) true :=
    series_clause rfl s.groupBy groups.pieces
  have having : Piece.Series d words true
      (Wording.clause d .having s.having (Wording.conditions d lk said s.having)) true :=
    series_clause rfl s.having (series_conditions hs h.having)
  have orders : Token.Series words false (Wording.separated (Wording.ordering lk) s.orderBy) true :=
    series_separated fun o _ => series_ordering o
  have orderBy : Piece.Series d words true (Wording.clause d .orderBy s.orderBy
      (Piece.own d (Wording.separated (Wording.ordering lk) s.orderBy))) true :=
    series_clause rfl s.orderBy orders.pieces
  have paging : Token.Series words true
      (Scope.paging .limit s.limit ++ Scope.paging .offset s.offset) true :=
    (series_paging rfl s.limit).append (series_paging rfl s.offset)
  have untilSource := ((select.pieces.append columns.pieces).append «from».pieces).append source
  have untilHaving := ((untilSource.append filters).append groupBy).append having
  exact (untilHaving.append orderBy).append paging.pieces

end Statements

end SqlSelect
