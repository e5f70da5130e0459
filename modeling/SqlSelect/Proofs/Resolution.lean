import SqlSelect.Proofs.Wording
/-!
# Expressions up to resolution

Two expressions may differ and still mean the same: fields are resolved to columns, and of the source
of a field only its qualifier is written. `Expr.resolved?` forgets everything else, for expressions of
columns, values, aggregates and operators.

* `Resolved` -- such an expression after its fields have been resolved;
* `Resolved.text`, `Resolved.values` -- what is written for it, a plain recursion over the tree;
* `expr_resolved` -- an expression that compiles has been resolved, and it is written as its
  resolution is.
-/

namespace SqlSelect

/-! ## 1. Resolved expressions -/

/-- An expression after its fields have been resolved: columns, with qualifiers, in the place of
fields. -/
inductive Resolved
  | column (qualifier : Option String) (column : String)
  | value (value : Value)
  | aggregate (function : String) (qualifier : Option String) (column : String)
  | unary (kind : NodeKind) (op : Operator) (operand : Resolved)
  | binary (kind : NodeKind) (op : Operator) (left right : Resolved)
  deriving Inhabited, Repr

/-- What an expression is resolved to, if all its fields have columns and it holds no raw SQL and no
nested statement. -/
def Expr.resolved? (lk : Lookup) : Expr → Option Resolved
  | .column c => (lk.column? c.name c.table).map (.column (c.table.bind TableRef.qualifier?))
  | .value v => some (.value v)
  | .aggregate a =>
    (lk.column? a.field a.table).map (.aggregate a.function (a.table.bind TableRef.qualifier?))
  | .unary kind op x => (x.resolved? lk).map (.unary kind op)
  | .binary kind op x y =>
    (x.resolved? lk).bind fun x' => (y.resolved? lk).map (.binary kind op x')
  | .raw _ | .subquery _ | .keyword _ => none

/-- A character of a word: a letter, a digit or an underscore. -/
def isWordChar (c : Char) : Bool := c.isAlphanum || c = '_'

/-- A word that is not empty. -/
def IsWord (text : String) : Prop := text.toList ≠ [] ∧ ∀ c ∈ text.toList, isWordChar c = true

/-- An expression of columns, values, aggregates whose functions are words, and operators. -/
def Expr.Plain : Expr → Prop
  | .column _ => True
  | .value _ => True
  | .aggregate a => IsWord a.function
  | .unary _ _ x => x.Plain
  | .binary _ _ x y => x.Plain ∧ y.Plain
  | .raw _ => False
  | .subquery _ => False
  | .keyword _ => False

namespace Resolved

/-- The expression is a node with an operator. -/
def isNode : Resolved → Bool
  | unary .. | binary .. => true
  | _ => false

/-- Functions are words, and each operator is in a node of its kind with as many operands as it
takes. -/
def Fits : Resolved → Prop
  | column _ _ => True
  | value _ => True
  | aggregate function _ _ => IsWord function
  | unary kind op x => op.nodeKind = kind ∧ op.isUnary = true ∧ x.Fits
  | binary kind op x y => op.nodeKind = kind ∧ op.isUnary = false ∧ x.Fits ∧ y.Fits

/-- The values in an expression. -/
def values : Resolved → List Value
  | column _ _ => []
  | value v => [v]
  | aggregate _ _ _ => []
  | unary _ _ x => x.values
  | binary _ _ x y => x.values ++ y.values

section Text

variable (base : BaseDialect)

/-- A column with its qualifier. -/
def fieldText (qualifier : Option String) (column : String) : List Char :=
  qualifier.elim [] (fun q => (quoteWith base.quoteChar q).toList ++ ['.'])
    ++ (quoteWith base.quoteChar column).toList

/-- An operand, given the text of its expression. -/
def enclose (x : Resolved) (text : List Char) : List Char :=
  if x.isNode then '(' :: (text ++ [')']) else text

/-- The text of an expression. -/
def text : Resolved → List Char
  | column qualifier name => fieldText base qualifier name
  | value _ => ['?']
  | aggregate function qualifier name =>
    function.toList ++ '(' :: (fieldText base qualifier name ++ [')'])
  | unary _ op x =>
    if op.isLeading then (base.spelling op).toList ++ ' ' :: x.enclose x.text
    else x.enclose x.text ++ ' ' :: (base.spelling op).toList
  | binary _ op x y =>
    x.enclose x.text ++ ' ' :: ((base.spelling op).toList ++ ' ' :: y.enclose y.text)

/-- The text of an expression as an operand. -/
def operand (x : Resolved) : List Char := x.enclose (x.text base)

end Text

end Resolved

/-! ## 2. What is compiled is what is written -/

/-- Tokens and a resolved expression of one text and one list of values. -/
structure Spells (base : BaseDialect) (ts : List Token) (t : Resolved) : Prop where
  text : Token.chars base.toDialect ts = t.text base
  values : ts.flatMap Token.args = t.values

section Compile

variable {base : BaseDialect} {lk : Lookup} {sc : Scope (Except BuildError)} {ts : List Token}

theorem isNode_resolved {x : Expr} {t : Resolved} (h : x.resolved? lk = some t) :
    Scope.isNode x = t.isNode := by
  cases x with
  | column c =>
    obtain ⟨_, _, rfl⟩ := Option.map_eq_some_iff.1 h
    rfl
  | value v =>
    cases h
    rfl
  | aggregate a =>
    obtain ⟨_, _, rfl⟩ := Option.map_eq_some_iff.1 h
    rfl
  | unary kind op x =>
    obtain ⟨_, _, rfl⟩ := Option.map_eq_some_iff.1 h
    rfl
  | binary kind op x y =>
    obtain ⟨_, _, h⟩ := Option.bind_eq_some_iff.1 h
    obtain ⟨_, _, rfl⟩ := Option.map_eq_some_iff.1 h
    rfl
  | raw | subquery | keyword => cases h

/-- The text and the values of an operand. -/
theorem operand_spells {x : Expr} {t : Resolved} (hx : x.resolved? lk = some t)
    (h : Spells base ts t) :
    Token.chars base.toDialect (Scope.operand x ts) = t.operand base ∧
      (Scope.operand x ts).flatMap Token.args = t.values := by
  unfold Scope.operand Resolved.operand Resolved.enclose
  rw [isNode_resolved hx]
  split
  · simp [h.text, h.values, Token.text, Token.args]
  · exact ⟨h.text, h.values⟩

/-- A field that compiles is written as its column with its qualifier. -/
theorem field_spells (base : BaseDialect) (hl : lk.Covers sc) {table : Option TableRef}
    {name : String}
    (h : sc.field table name = .ok ts) :
    ∃ column, lk.column? name table = some column ∧
      Token.chars base.toDialect ts
        = Resolved.fieldText base (table.bind TableRef.qualifier?) column ∧
      ts.flatMap Token.args = [] := by
  obtain ⟨column, hc, h⟩ := bind_eq_ok h
  refine ⟨column, columnName_ok hl hc, ?_⟩
  split at h
  · next qualifier hqualifier =>
    cases h
    rw [hqualifier]
    simp [Token.text, Token.args, Resolved.fieldText, Dialect.quoteIdentifier_eq]
  · next hqualifier =>
    cases h
    rw [hqualifier]
    simp [Token.text, Token.args, Resolved.fieldText, Dialect.quoteIdentifier_eq]

theorem aggregate_spells (base : BaseDialect) (hl : lk.Covers sc) {a : Aggregate}
    (h : sc.aggregate a = .ok ts) :
    ∃ column, lk.column? a.field a.table = some column ∧
      Spells base ts (.aggregate a.function (a.table.bind TableRef.qualifier?) column) := by
  obtain ⟨us, hu, h⟩ := bind_eq_ok h
  obtain ⟨column, hcolumn, htext, hvalues⟩ := field_spells base hl hu
  cases h
  refine ⟨column, hcolumn, ?_, ?_⟩
  · simp [htext, Token.text, Resolved.text]
  · simp [hvalues, Token.args, Resolved.values]

theorem admitUnary_ok {kind : NodeKind} {op : Operator} {a : Unit}
    (h : (Scope.admitUnary kind op : Except BuildError Unit) = .ok a) :
    op.nodeKind = kind ∧ op.isUnary = true := by
  unfold Scope.admitUnary at h
  split at h
  · cases h
  · next hkind =>
    split at h
    · next hunary => exact ⟨not_not.1 hkind, hunary⟩
    · cases h

theorem admitBinary_ok {kind : NodeKind} {op : Operator} {a : Unit}
    (h : (Scope.admitBinary kind op : Except BuildError Unit) = .ok a) :
    op.nodeKind = kind ∧ op.isUnary = false := by
  unfold Scope.admitBinary at h
  split at h
  · cases h
  · next hkind =>
    split at h
    · cases h
    · next hunary => exact ⟨not_not.1 hkind, Bool.eq_false_iff.2 hunary⟩

/-- **An expression that compiles has been resolved**, fits, and is written as its resolution is. -/
theorem expr_resolved (hl : lk.Covers sc) {x : Expr} (hx : x.Plain) (h : sc.expr x = .ok ts) :
    ∃ t, x.resolved? lk = some t ∧ t.Fits ∧ Spells base ts t := by
  induction x generalizing ts with
  | column c =>
    obtain ⟨column, hcolumn, htext, hvalues⟩ := field_spells base hl h
    refine ⟨.column (c.table.bind TableRef.qualifier?) column, ?_, trivial, htext, hvalues⟩
    rw [Expr.resolved?, hcolumn]
    rfl
  | value v =>
    cases h
    refine ⟨.value v, rfl, trivial, ?_, rfl⟩
    simp [Token.text, Resolved.text]
  | aggregate a =>
    obtain ⟨column, hcolumn, spells⟩ := aggregate_spells base hl h
    refine ⟨.aggregate a.function (a.table.bind TableRef.qualifier?) column, ?_, hx, spells⟩
    rw [Expr.resolved?, hcolumn]
    rfl
  | unary kind op x ih =>
    obtain ⟨_, hadmit, h⟩ := bind_eq_ok h
    obtain ⟨us, hu, h⟩ := bind_eq_ok h
    obtain ⟨t, ht, hfits, spells⟩ := ih hx hu
    obtain ⟨hkind, hunary⟩ := admitUnary_ok hadmit
    obtain ⟨htext, hvalues⟩ := operand_spells ht spells
    cases h
    refine ⟨.unary kind op t, ?_, ⟨hkind, hunary, hfits⟩, ?_, ?_⟩
    · rw [Expr.resolved?, ht]
      rfl
    · rw [Resolved.text]
      split
      · simp [htext, Token.text, Resolved.operand]
      · simp [htext, Token.text, Resolved.operand]
    · split
      · simp [hvalues, Token.args, Resolved.values]
      · simp [hvalues, Token.args, Resolved.values]
  | binary kind op x y ihx ihy =>
    obtain ⟨_, hadmit, h⟩ := bind_eq_ok h
    obtain ⟨us, hu, h⟩ := bind_eq_ok h
    obtain ⟨vs, hv, h⟩ := bind_eq_ok h
    obtain ⟨t, ht, hfits, tspells⟩ := ihx hx.1 hu
    obtain ⟨u, hu, ufits, uspells⟩ := ihy hx.2 hv
    obtain ⟨hkind, hbinary⟩ := admitBinary_ok hadmit
    obtain ⟨ttext, tvalues⟩ := operand_spells ht tspells
    obtain ⟨utext, uvalues⟩ := operand_spells hu uspells
    cases h
    refine ⟨.binary kind op t u, ?_, ⟨hkind, hbinary, hfits, ufits⟩, ?_, ?_⟩
    · rw [Expr.resolved?, ht, hu]
      rfl
    · simp [ttext, utext, Token.text, Resolved.text, Resolved.operand]
    · simp [tvalues, uvalues, Token.args, Resolved.values]
  | raw | subquery | keyword => exact hx.elim

end Compile

/-! ## 3. Expressions in a session -/

section Session

/-- What fields stand for in a session, in a statement with a registry and an entity. -/
def lookupIn (st : Store) (nested : List Selector) (registry : Nat) (primary : EntityMetadata) :
    Lookup where
  primary := some primary
  entity key := (st.answer registry key).toOption
  nested n := nested[n]?.bind (entityOf st.answer)

/-- Without nested statements in an expression their texts do not matter. -/
theorem expr_congr {m : Type → Type} [Monad m] [MonadExcept BuildError m] {registry : Nat}
    {primary : EntityMetadata} {i j : Inner m} (hd : i.describe = j.describe)
    (hm : i.metadata = j.metadata) {x : Expr} (hx : x.Plain) :
    Scope.expr { registry, primary, inner := i } x
      = Scope.expr { registry, primary, inner := j } x := by
  have columns : Scope.columnName { registry, primary, inner := i }
      = Scope.columnName { registry, primary, inner := j } := by
    funext name table
    match table with
    | none => rfl
    | some (.table t) => simp only [Scope.columnName, hd]
    | some (.subquery s) => simp only [Scope.columnName, hm]
  have fields : Scope.field { registry, primary, inner := i }
      = Scope.field { registry, primary, inner := j } := by
    funext table name
    unfold Scope.field
    rw [columns]
  induction x with
  | column c => exact congrFun (congrFun fields c.table) c.name
  | value v => rfl
  | aggregate a => simp only [Scope.expr, Scope.aggregate, fields]
  | unary kind op x ih => simp only [Scope.expr, ih hx]
  | binary kind op x y ihx ihy => simp only [Scope.expr, ihx hx.1, ihy hx.2]
  | raw | subquery | keyword => exact hx.elim

variable {st st' : Store} {nested : List Selector} {registry : Nat} {primary : EntityMetadata}

/-- **An expression that compiles in a session has been resolved there**, fits, and is written as its
resolution is. -/
theorem run_expr_resolved (base : BaseDialect) {x : Expr} (hx : x.Plain) {ts : List Token}
    (h : (Scope.expr { registry, primary, inner := .ofList .inCells resolve nested } x).run.run st
      = (.ok ts, st')) :
    ∃ t, x.resolved? (lookupIn st nested registry primary) = some t ∧ t.Fits ∧ Spells base ts t := by
  have hscopes : (answering (Store.Describes st.answer)).Scopes
      { registry, primary, inner := .ofList .never resolve nested }
      { registry, primary, inner := frozen (fun _ => none) st.answer nested } :=
    ⟨rfl, rfl, never_answers nested⟩
  have hfrozen := (Correspondence.expr hscopes x st rfl).1
  have hkeeping : Scope.expr { registry, primary, inner := .ofList .inCells resolve nested } x
      = Scope.expr { registry, primary, inner := .ofList .never resolve nested } x :=
    expr_congr (by rw [describe_ofList, describe_ofList]) (metadata_ofList .inCells nested) hx
  rw [← hkeeping, h] at hfrozen
  refine expr_resolved ?_ hx hfrozen.symm
  refine ⟨rfl, fun key m hm => ?_, fun n m hm => metadata_ok hm⟩
  simp only [frozen, describe_ofList] at hm
  exact toOption_of_ok hm

end Session

end SqlSelect
