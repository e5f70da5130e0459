import SqlSelect.Proofs.Confinement
import SqlSelect.Proofs.Dialects
import SqlSelect.Proofs.Resolution
import SqlSelect.Proofs.Sharing
/-!
# What a document writes outside of quotes

A document has two doors for SQL of its own: raw nodes, and a source of rows that is a text. Where both
are shut, its strings are names, which the dialect quotes, and values, which become placeholders, but
for two kinds: the functions of aggregates and the keywords in front of nested statements. These are
put into capital letters and written as they are. So they are the only strings of a document that can
reach the text outside of quotes; whether they are words is not looked at.

* `StatementDoc.Plain`, `StatementDoc.unquoted` -- a statement with both doors shut; its functions and
  keywords;
* `Token.WrittenIn` -- a token that is fixed, a name, or one of some texts;
* `StatementDoc.writtenIn_lowered`, `series_wordingOf` -- what a plain statement is lowered to is worded
  as a series in its functions and keywords;
* `QueryDocument.render_unquoted` -- all together for a document, from the references that it is lowered
  to;
* `QueryDocument.counting_breaks_out` -- a document that gets a second statement past its quotes.
-/

namespace SqlSelect

/-! ## 1. Documents with both doors shut -/

/-- No raw SQL in an expression. -/
def ExprDoc.Plain : ExprDoc → Prop
  | column _ => True
  | value _ => True
  | raw _ => False
  | aggregate _ => True
  | unary _ x => x.Plain
  | binary _ x y => x.Plain ∧ y.Plain
  | subquery _ => True
  | keyword _ _ => True

/-- An item of a `SELECT` list that is no raw SQL. -/
def SelectDoc.Plain : SelectDoc → Prop
  | column _ => True
  | aggregate _ => True
  | raw _ => False

/-- A source of rows that is no text. -/
def SourceDoc.Plain : SourceDoc → Prop
  | verbatim _ => False
  | table _ => True

/-- **A statement without raw SQL**, and without a text for the source of its rows. -/
structure StatementDoc.Plain (doc : StatementDoc) : Prop where
  select : ∀ item ∈ doc.select, item.Plain
  source : ∀ source ∈ doc.source, source.Plain
  filters : ∀ x ∈ doc.filters, x.Plain
  having : ∀ x ∈ doc.having, x.Plain

/-- The functions and keywords of an expression, as they are written. -/
def ExprDoc.unquoted : ExprDoc → List String
  | column _ => []
  | value _ => []
  | raw _ => []
  | aggregate a => [Text.uppercase a.function]
  | unary _ x => x.unquoted
  | binary _ x y => x.unquoted ++ y.unquoted
  | subquery _ => []
  | keyword text _ => [LowerM.keyword text]

/-- The function of an item of a `SELECT` list, if it has one. -/
def SelectDoc.unquoted : SelectDoc → List String
  | column _ => []
  | aggregate a => [Text.uppercase a.function]
  | raw _ => []

/-- The functions and keywords of a statement, as they are written. -/
def StatementDoc.unquoted (doc : StatementDoc) : List String :=
  doc.select.flatMap SelectDoc.unquoted ++ doc.filters.flatMap ExprDoc.unquoted
    ++ doc.having.flatMap ExprDoc.unquoted

namespace QueryDocument

/-- The statements of a document that count: its own, and those of the names that are met. -/
inductive Reaches (q : QueryDocument) : StatementDoc → Prop
  | own : Reaches q q.statement
  | named {name : String} {sub : SubqueryDoc} (met : q.Meets (.subquery name))
    (defined : q.subqueries.get? name = some sub) : Reaches q sub.statement

/-- None of these statements has raw SQL or a text for the source of its rows. -/
def Plain (q : QueryDocument) : Prop := ∀ doc, q.Reaches doc → doc.Plain

/-- The text is a function or a keyword of one of these statements, as it is written. -/
def Unquoted (q : QueryDocument) (text : String) : Prop := ∃ doc, q.Reaches doc ∧ text ∈ doc.unquoted

/-- A document that has no raw SQL anywhere has none where it counts. -/
theorem plain_of_forall {q : QueryDocument} (own : q.statement.Plain)
    (named : ∀ name sub, q.subqueries.get? name = some sub → sub.statement.Plain) : q.Plain := by
  intro doc reached
  cases reached with
  | own => exact own
  | named _ defined => exact named _ _ defined

end QueryDocument

/-! ## 2. What they are lowered to -/

/-- A token that is fixed, a name, or one of some texts. -/
inductive Token.WrittenIn (words : String → Prop) : Token → Prop
  | fixed {t : Token} (h : t.isFixed = true) : WrittenIn words t
  | ident (name : String) : WrittenIn words (.ident name)
  | function {text : String} (h : words text) : WrittenIn words (.function text)
  | keyword {text : String} (h : words text) : WrittenIn words (.raw text)

theorem Token.Series.writtenIn {words : String → Prop} {before after : Bool} {ts : List Token}
    (h : Series words before ts after) : ∀ t ∈ ts, t.WrittenIn words := by
  induction h with
  | nil => exact fun _ h => nomatch h
  | word h _ ih => exact List.forall_mem_cons.2 ⟨.fixed (isFixed_of_isWord h), ih⟩
  | ident name _ ih => exact List.forall_mem_cons.2 ⟨.ident name, ih⟩
  | function h _ ih => exact List.forall_mem_cons.2 ⟨.function h, ih⟩
  | keyword h _ ih => exact List.forall_mem_cons.2 ⟨.keyword h, ih⟩
  | enclosed _ _ ih ih' =>
    have opening : openParen.WrittenIn words := .fixed rfl
    have closing : closeParen.WrittenIn words := .fixed rfl
    exact List.forall_mem_cons.2
      ⟨opening, List.forall_mem_append.2 ⟨ih, List.forall_mem_cons.2 ⟨closing, ih'⟩⟩⟩

section Lowered

variable {words : String → Prop} (ref : String → Subquery)

theorem ExprDoc.writtenIn_lowered {x : ExprDoc} (plain : x.Plain) (h : ∀ text ∈ x.unquoted, words text) :
    (x.lowered ref).WrittenIn words fun _ => True := by
  induction x with
  | column c => exact trivial
  | value v => exact trivial
  | raw r => exact plain.elim
  | aggregate a => exact h _ List.mem_cons_self
  | unary op x ih => exact ih plain h
  | binary op x y ihx ihy =>
    have left := ihx plain.1 fun text ht => h text (List.mem_append_left _ ht)
    have right := ihy plain.2 fun text ht => h text (List.mem_append_right _ ht)
    exact ⟨left, right⟩
  | subquery name => exact trivial
  | keyword text name => exact ⟨h _ List.mem_cons_self, trivial⟩

theorem SelectDoc.writtenIn_lowered {item : SelectDoc} (plain : item.Plain)
    (h : ∀ text ∈ item.unquoted, words text) : (item.lowered ref).WrittenIn words := by
  cases item with
  | column c => exact trivial
  | aggregate a => exact h _ List.mem_cons_self
  | raw r => exact plain.elim

theorem SourceDoc.quoted_lowered {source : SourceDoc} (plain : source.Plain) :
    (source.lowered ref).Quoted fun _ => True := by
  cases source with
  | verbatim text => exact plain.elim
  | table t =>
    show (Source.reference (t.lowered ref)).Quoted fun _ => True
    cases t.lowered ref with
    | table t => exact trivial
    | subquery s => exact trivial

/-- **A plain statement is lowered to one that is written in its functions and keywords.** -/
theorem StatementDoc.writtenIn_lowered {doc : StatementDoc} (plain : doc.Plain)
    (h : ∀ text ∈ doc.unquoted, words text) (db : Db) :
    (doc.lowered ref db).WrittenIn words (fun _ => True) db.dialect := by
  simp only [unquoted, List.forall_mem_append, List.forall_mem_flatMap] at h
  obtain ⟨⟨inSelect, inFilters⟩, inHaving⟩ := h
  refine ⟨rfl, ?columns, ?source, ?filters, ?having⟩
  case columns =>
    rintro _ hitem
    obtain ⟨item, mem, rfl⟩ := List.mem_map.1 hitem
    exact item.writtenIn_lowered ref (plain.select item mem) (inSelect item mem)
  case source =>
    show (doc.source.elim .entity (SourceDoc.lowered ref)).Quoted fun _ => True
    cases hsource : doc.source with
    | none => exact trivial
    | some source => exact source.quoted_lowered ref (plain.source source hsource)
  case filters =>
    rintro _ hx
    obtain ⟨x, mem, rfl⟩ := List.mem_map.1 hx
    exact x.writtenIn_lowered ref (plain.filters x mem) (inFilters x mem)
  case having =>
    rintro _ hx
    obtain ⟨x, mem, rfl⟩ := List.mem_map.1 hx
    exact x.writtenIn_lowered ref (plain.having x mem) (inHaving x mem)

end Lowered

/-- **The wording of such statements is a series in their texts** and a semicolon, nested ones and
all. -/
theorem series_wordingOf {words : String → Prop} {nested : List Selector} {s : Selector} {d : Dialect}
    (describe : Nat → EntityKey → Except BuildError EntityMetadata)
    (h : ∀ t ∈ s :: nested, t.WrittenIn words (fun _ => True) d) :
    ∃ ts, (wordingOf (fun _ => none) describe nested s).map Piece.token = ts ++ [.semicolon] ∧
      Token.Series words false ts true := by
  have inside : ∀ n, Piece.Series d words false (wordings (fun _ => none) describe nested n) true := by
    refine tabulate_forall (P := fun ps => Piece.Series d words false ps true) (.nil nofun) ?_
    intro before said t ht hsaid
    have written := h t (List.mem_cons_of_mem s ht)
    show Piece.Series d words false (bodyOf describe before said t) true
    rw [bodyOf, written.dialect]
    exact series_statement (fun n _ => hsaid n) written
  have own := h s List.mem_cons_self
  have body : Piece.Series d words false (bodyOf describe nested
      (wordings (fun _ => none) describe nested) s) true := by
    rw [bodyOf, own.dialect]
    exact series_statement (fun n _ => inside n) own
  obtain ⟨ts, pieces, series⟩ := body
  refine ⟨ts, ?_, series⟩
  rw [wordingOf, pieces, own.dialect, ← Piece.own_append, Piece.map_token_own]

/-! ## 3. Documents -/

open Piece (own names outsides)

namespace QueryDocument

variable {q : QueryDocument}

/-- What a document is lowered to are the statements that count, with a reference for each name. -/
theorem reaches_of_lower {db : Db} {s : Selector} {nested : List Selector}
    (h : q.lower db = .ok (s, nested)) :
    ∃ ref, ∀ t ∈ s :: nested, ∃ doc, q.Reaches doc ∧ t = doc.lowered ref db := by
  obtain ⟨st, hs, rfl⟩ := run_of_lower h
  refine ⟨st.reference, fun t ht => ?_⟩
  rcases List.mem_cons.1 ht with rfl | ht
  · exact ⟨q.statement, .own, lowered_of_run hs⟩
  · obtain ⟨k, hk, rfl⟩ := List.mem_iff_getElem.1 ht
    obtain ⟨name, met, node⟩ := covered_of_run hs k hk
    obtain ⟨doc, place⟩ := places_of_run hs name met
    have there := place.statement
    rw [node, List.getElem?_eq_getElem hk] at there
    exact ⟨doc.statement, .named met place.defined, Option.some.inj there⟩

/-- The tokens of a plain document are a series in its functions and keywords, and a semicolon. -/
theorem series_of_tokens (plain : q.Plain) {registry : Registry} {ts : List Token}
    (h : q.tokens registry = .ok ts) :
    ∃ body, ts = body ++ [.semicolon] ∧ Token.Series q.Unquoted false body true := by
  rw [tokens] at h
  cases hlower : q.lower { registry := 0, dialect := default } with
  | error e =>
    rw [hlower] at h
    cases h
  | ok result =>
    obtain ⟨s, nested⟩ := result
    obtain ⟨ref, lowered⟩ := reaches_of_lower hlower
    have written : ∀ t ∈ s :: nested, t.WrittenIn q.Unquoted (fun _ => True) default := by
      intro t ht
      obtain ⟨doc, reached, rfl⟩ := lowered t ht
      have unquoted : ∀ text ∈ doc.unquoted, q.Unquoted text := fun text htext => ⟨doc, reached, htext⟩
      exact doc.writtenIn_lowered ref (plain doc reached) unquoted { registry := 0, dialect := default }
    have series := series_wordingOf (Store.ofRegistry registry).answer written
    rw [hlower] at h
    cases hflaw : s.firstFlaw? (Store.ofRegistry registry).answer nested with
    | some e =>
      simp only [bind, Except.bind, hflaw] at h
      cases h
    | none =>
      simp only [bind, Except.bind, hflaw] at h
      obtain rfl := Except.ok.inj h
      exact series

/-- **What a document writes outside of quotes.** A document without raw SQL and without a text for a
source of rows, rendered in a built-in dialect, is written in tokens of which each is a clause keyword,
punctuation, a placeholder or an operator, a name, which is quoted, or a function or keyword of the
document. If no quote is in these functions and keywords, a reader finds as quoted regions exactly the
names, and outside of them the text of all other tokens. -/
theorem render_unquoted (plain : q.Plain) {base : BaseDialect} {registry : Registry} {r : Query}
    (h : q.render registry base.toDialect = .ok r) :
    ∃ ts, q.tokens registry = .ok ts ∧ r = Token.render base.toDialect ts ∧
      (∀ t ∈ ts, t.WrittenIn q.Unquoted) ∧
      ((∀ text, q.Unquoted text → base.quoteChar ∉ text.toList) →
        scan base.quoteChar r.sql.toList
          = some { regions := names (own base.toDialect ts)
                   outside := outsides (own base.toDialect ts) }) := by
  rw [render_eq] at h
  cases htokens : q.tokens registry with
  | error e =>
    rw [htokens] at h
    cases h
  | ok ts =>
    rw [htokens] at h
    cases h
    obtain ⟨body, rfl, series⟩ := series_of_tokens plain htokens
    have last : Token.semicolon.WrittenIn q.Unquoted := .fixed rfl
    have written := List.forall_mem_append.2 ⟨series.writtenIn, List.forall_mem_singleton.2 last⟩
    refine ⟨body ++ [.semicolon], rfl, rfl, written, fun clean => ?_⟩
    rw [Token.toList_render_sql]
    exact series.scan_terminated clean

/-- A document with one function and one keyword. -/
def counting (function keyword : String) : QueryDocument where
  statement :=
    { entity := some "user", select := [.aggregate { function, field := "Id" }],
      filters := [.keyword keyword "same"] }
  subqueries := .ofList [("same", { statement := { entity := some "user" } })]

theorem counting_named {function keyword name : String} {sub : SubqueryDoc}
    (h : (counting function keyword).subqueries.get? name = some sub) :
    sub = { statement := { entity := some "user" } } := by
  rw [counting, KeyMap.get?_ofList_eq_some_iff (by decide)] at h
  exact (Prod.mk.inj (List.mem_singleton.1 h)).2

theorem plain_counting (function keyword : String) : (counting function keyword).Plain := by
  refine plain_of_forall ?own ?named
  case own =>
    exact ⟨List.forall_mem_singleton.2 trivial, nofun, List.forall_mem_singleton.2 trivial, nofun⟩
  case named =>
    intro name sub defined
    obtain rfl := counting_named defined
    exact ⟨nofun, nofun, nofun, nofun⟩

theorem render_unquoted_counting :
    let users := usersStore.registries 0
    let q := counting "count" "not exists"
    (∀ text, q.Unquoted text → BaseDialect.mysql.quoteChar ∉ text.toList) ∧
      ∃ r ts, q.render users BaseDialect.mysql.toDialect = .ok r ∧ q.tokens users = .ok ts ∧
        scan BaseDialect.mysql.quoteChar r.sql.toList
          = some { regions := names (own BaseDialect.mysql.toDialect ts)
                   outside := outsides (own BaseDialect.mysql.toDialect ts) } := by
  intro users q
  have clean : ∀ text, q.Unquoted text → BaseDialect.mysql.quoteChar ∉ text.toList := by
    rintro text ⟨doc, reached, htext⟩
    cases reached with
    | own =>
      have two : text ∈ ["COUNT", "NOT EXISTS "] := htext
      obtain rfl | two := List.mem_cons.1 two
      · decide
      · obtain rfl := List.mem_singleton.1 two
        decide
    | named _ defined =>
      obtain rfl := counting_named defined
      exact nomatch htext
  have rendered : (q.render users BaseDialect.mysql.toDialect).toOption.isSome := by decide +kernel
  cases h : q.render users BaseDialect.mysql.toDialect with
  | error e =>
    rw [h] at rendered
    cases rendered
  | ok r =>
    obtain ⟨ts, htokens, -, -, read⟩ := render_unquoted (plain_counting "count" "not exists") h
    exact ⟨clean, r, ts, rfl, htokens, read clean⟩

/-- **Functions and keywords can hold anything.** A document with both doors shut gets a second
statement past its quotes, and with it a character that is in no fixed text and in no word. -/
theorem counting_breaks_out :
    let q := counting "count(*), sleep" "1 = 1; drop table users; #"
    q.Plain ∧
      (∃ r found, q.render (usersStore.registries 0) BaseDialect.mysql.toDialect = .ok r ∧
        scan BaseDialect.mysql.quoteChar r.sql.toList = some found ∧
        found.regions = ["id", "users", "users"] ∧
        String.ofList found.outside = "SELECT COUNT(*), SLEEP() FROM  WHERE "
          ++ "1 = 1; DROP TABLE USERS; # (SELECT * FROM );") ∧
      (∀ t : Token, t.isFixed → '#' ∉ (t.text BaseDialect.mysql.toDialect).toList) ∧
      isWordChar '#' = false := by
  intro q
  refine ⟨plain_counting _ _, ?_, ?_, rfl⟩
  · have outcome : (q.render (usersStore.registries 0) BaseDialect.mysql.toDialect).toOption.map
        (fun r => (scan BaseDialect.mysql.quoteChar r.sql.toList).map fun found =>
          (found.regions, String.ofList found.outside))
          = some (some (["id", "users", "users"], "SELECT COUNT(*), SLEEP() FROM  WHERE "
            ++ "1 = 1; DROP TABLE USERS; # (SELECT * FROM );")) := by decide +kernel
    obtain ⟨r, hr, hscan⟩ := Option.map_eq_some_iff.1 outcome
    obtain ⟨found, hfound, same⟩ := Option.map_eq_some_iff.1 hscan
    obtain ⟨regions, outside⟩ := Prod.mk.inj same
    refine ⟨r, found, ?_, hfound, regions, outside⟩
    cases h : q.render (usersStore.registries 0) BaseDialect.mysql.toDialect with
    | error e =>
      rw [h] at hr
      cases hr
    | ok r' =>
      rw [h] at hr
      exact congrArg Except.ok (Option.some.inj hr)
  · intro t fixed
    cases t with
    | op operator => cases operator <;> decide
    | ident | function | fragment | raw => cases fixed
    | _ =>
      simp only [Token.text]
      decide

end QueryDocument

end SqlSelect
