import SqlSelect.Dialect
import SqlSelect.Query
/-!
# Tokens

A statement is compiled to a list of tokens, which know nothing of a dialect. A dialect turns each
token into text. A token that puts a placeholder into the text also carries the value bound to it,
so one pass over the list writes the text and collects the arguments, and the two cannot drift
apart.
-/

namespace SqlSelect

/-- A piece of a statement. -/
inductive Token
  | select | from | where | as | groupBy | having | orderBy | asc | desc | limit | offset
  | comma | dot | star | openParen | closeParen | semicolon | space
  /-- A table, column or alias; the dialect quotes it. -/
  | ident (name : String)
  /-- An operator; the dialect spells it. -/
  | op (operator : Operator)
  /-- The name of an aggregate function, written as it is. -/
  | function (name : String)
  /-- A placeholder and its value. -/
  | param (value : Value)
  /-- SQL that is rendered already, with its own values. -/
  | fragment (query : Query)
  /-- Text that is written as it is. -/
  | raw (text : String)
  deriving Inhabited, Repr

namespace Token

/-- The text of a token in a dialect. -/
def text (d : Dialect) : Token → String
  | select => "SELECT"
  | «from» => "FROM"
  | «where» => "WHERE"
  | as => "AS"
  | groupBy => "GROUP BY"
  | having => "HAVING"
  | orderBy => "ORDER BY"
  | asc => "ASC"
  | desc => "DESC"
  | limit => "LIMIT"
  | offset => "OFFSET"
  | comma => ","
  | dot => "."
  | star => "*"
  | openParen => "("
  | closeParen => ")"
  | semicolon => ";"
  | space => " "
  | ident name => d.quoteIdentifier name
  | op operator => d.spelling operator
  | function name => name
  | param _ => "?"
  | fragment query => query.sql
  | raw text => text

/-- An identifier stands in quotes of the dialect. -/
theorem text_ident (d : Dialect) (name : String) :
    text d (.ident name) = quoteWith d.quoteChar name :=
  d.quoteIdentifier_eq name

/-- The values that a token brings along. -/
def args : Token → List Value
  | param value => [value]
  | fragment query => query.args
  | _ => []

/-- The text of a list of tokens, without their values. -/
def serialize (d : Dialect) (tokens : List Token) : String :=
  String.join (tokens.map (text d))

/-- The text of a list of tokens and their values, in one pass. -/
def render (d : Dialect) (tokens : List Token) : Query :=
  tokens.foldl (fun q t => q.append { sql := t.text d, args := t.args }) .empty

@[simp] theorem render_nil (d : Dialect) : render d [] = .empty := rfl

theorem render_append (d : Dialect) (ts us : List Token) :
    render d (ts ++ us) = (render d ts).append (render d us) := by
  suffices h : ∀ q : Query, us.foldl (fun q t => q.append { sql := t.text d, args := t.args }) q
      = q.append (render d us) by
    simp only [render, List.foldl_append] at h ⊢
    exact h _
  induction us with
  | nil => simp
  | cons u us ih =>
    intro q
    simp only [render, List.foldl_cons, Query.empty_append] at ih ⊢
    rw [ih, ih { sql := u.text d, args := u.args }, Query.append_assoc]

theorem render_cons (d : Dialect) (t : Token) (ts : List Token) :
    render d (t :: ts) = Query.append { sql := t.text d, args := t.args } (render d ts) := by
  have h := render_append d [t] ts
  simp only [List.singleton_append, render, List.foldl_cons, List.foldl_nil,
    Query.empty_append] at h ⊢
  exact h

/-- The text of a list of tokens, character by character. -/
def chars (d : Dialect) (ts : List Token) : List Char := ts.flatMap fun t => (t.text d).toList

@[simp] theorem chars_nil (d : Dialect) : chars d [] = [] := rfl

@[simp] theorem chars_cons (d : Dialect) (t : Token) (ts : List Token) :
    chars d (t :: ts) = (t.text d).toList ++ chars d ts :=
  List.flatMap_cons

@[simp] theorem chars_append (d : Dialect) (ts us : List Token) :
    chars d (ts ++ us) = chars d ts ++ chars d us :=
  List.flatMap_append

theorem toList_render_sql (d : Dialect) (ts : List Token) :
    (render d ts).sql.toList = chars d ts := by
  induction ts with
  | nil => rfl
  | cons t ts ih => simp [render_cons, Query.append, ih]

/-- The values of a list of tokens are the values of each, one after the other. -/
theorem render_args (d : Dialect) (ts : List Token) : (render d ts).args = ts.flatMap args := by
  induction ts with
  | nil => rfl
  | cons t ts ih => simp [render_cons, Query.append, ih]

end Token

end SqlSelect
