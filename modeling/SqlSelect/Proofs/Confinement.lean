import SqlSelect.Proofs.Outline
import SqlSelect.Proofs.Quoting
import SqlSelect.Proofs.Series
/-!
# Names stay between their quotes

Whatever strings tables, columns and aliases are called by, a reader who knows nothing but the quote
character finds exactly these names in a statement, and outside of them a text that has nothing to
do with them: the outline of the statement's shape, with its parentheses in balance and its only
semicolon at the end.

* `Balanced` -- parentheses in balance;
* `Token.ReadIn` -- a reader who comes to some tokens gets through their text, with their names and
  the text outside;
* `Token.Series.readIn` -- so he does if no two names meet and no quote is in the given texts;
* `Token.Series.unfinished` -- the text outside is in balance and has no semicolon, if the given texts
  are clean;
* `Selector.Tame` -- no raw SQL, and nothing dangerous in the names of functions and in keywords;
* `build_confined` -- what a statement is built to after any run, through texts of all moments that
  are kept in cells.
-/

namespace SqlSelect

/-! ## 1. Parentheses -/

/-- Every parenthesis that is opened is closed, and none is closed before it is opened. -/
structure Balanced (cs : List Char) : Prop where
  sane : ∀ pre, pre <+: cs → pre.count ')' ≤ pre.count '('
  settled : cs.count '(' = cs.count ')'

theorem balanced_of_not_mem {cs : List Char} (ho : '(' ∉ cs) (hc : ')' ∉ cs) : Balanced cs where
  sane pre hpre := by
    have none : pre.count ')' = 0 := List.count_eq_zero.2 fun h => hc (hpre.subset h)
    omega
  settled := by rw [List.count_eq_zero.2 ho, List.count_eq_zero.2 hc]

namespace Balanced

theorem append {cs ds : List Char} (hc : Balanced cs) (hd : Balanced ds) : Balanced (cs ++ ds) where
  sane pre hpre := by
    rcases List.prefix_or_prefix_of_prefix hpre (List.prefix_append cs ds) with h | h
    · exact hc.sane pre h
    · obtain ⟨tail, rfl⟩ := h
      have inside := hd.sane tail ((List.prefix_append_right_inj cs).1 hpre)
      have settled := hc.settled
      rw [List.count_append, List.count_append]
      omega
  settled := by rw [List.count_append, List.count_append, hc.settled, hd.settled]

/-- A pair of parentheses around a text in balance. -/
theorem enclosed {cs : List Char} (h : Balanced cs) : Balanced ('(' :: (cs ++ [')'])) where
  sane pre hpre := by
    rcases List.prefix_cons_iff.1 hpre with rfl | ⟨tail, rfl, htail⟩
    · exact Nat.le_refl _
    · rcases List.prefix_concat_iff.1 htail with rfl | htail
      · have settled := h.settled
        simp
        omega
      · have inside := h.sane tail htail
        simp
        omega
  settled := by
    have settled := h.settled
    simp
    omega

end Balanced

/-- A text in balance that does not end a statement. -/
structure Unfinished (cs : List Char) : Prop where
  balanced : Balanced cs
  no_end : ';' ∉ cs

namespace Unfinished

variable {cs ds : List Char}

theorem nil : Unfinished [] where
  balanced := balanced_of_not_mem List.not_mem_nil List.not_mem_nil
  no_end := List.not_mem_nil

theorem append (hc : Unfinished cs) (hd : Unfinished ds) : Unfinished (cs ++ ds) where
  balanced := hc.balanced.append hd.balanced
  no_end := by
    rw [List.mem_append, not_or]
    exact ⟨hc.no_end, hd.no_end⟩

theorem enclosed (h : Unfinished cs) : Unfinished ('(' :: (cs ++ [')'])) where
  balanced := h.balanced.enclosed
  no_end := by simpa using h.no_end

end Unfinished

/-! ## 2. Texts in which nothing can be mistaken -/

/-- Nothing in a text can be taken for a quote, a parenthesis or the end of a statement. -/
def Clean (base : BaseDialect) (text : String) : Prop :=
  ∀ c ∈ text.toList, c ≠ base.quoteChar ∧ c ≠ '(' ∧ c ≠ ')' ∧ c ≠ ';'

instance (base : BaseDialect) : DecidablePred (Clean base) := fun text =>
  List.decidableBAll (fun c => c ≠ base.quoteChar ∧ c ≠ '(' ∧ c ≠ ')' ∧ c ≠ ';') text.toList

namespace Clean

variable {base : BaseDialect} {text : String}

theorem not_mem (h : Clean base text) : base.quoteChar ∉ text.toList := fun hc => (h _ hc).1 rfl

theorem unfinished (h : Clean base text) : Unfinished text.toList where
  balanced := balanced_of_not_mem (fun hc => (h _ hc).2.1 rfl) fun hc => (h _ hc).2.2.1 rfl
  no_end hc := (h _ hc).2.2.2 rfl

end Clean

/-- What no caller has a say in is clean, but for parentheses and semicolons. -/
theorem Token.clean_of_isWord (base : BaseDialect) {t : Token} (h : t.isWord) :
    Clean base (t.text base.toDialect) := by
  cases t with
  | op operator => cases base <;> cases operator <;> decide
  | ident | openParen | closeParen | semicolon | function | fragment | raw => cases h
  | _ =>
    simp only [Token.text]
    cases base <;> decide

/-! ## 3. Reading a series back -/

/-- The text of a fixed token is not empty, and no quote is in it. -/
theorem Token.text_of_isFixed (base : BaseDialect) {t : Token} (h : t.isFixed) :
    (t.text base.toDialect).toList ≠ [] ∧ base.quoteChar ∉ (t.text base.toDialect).toList := by
  cases t with
  | op operator => cases base <;> cases operator <;> decide
  | ident | function | fragment | raw => cases h
  | _ =>
    simp only [Token.text]
    cases base <;> decide

theorem Token.ne_ident_of_isFixed {t : Token} (h : t.isFixed) (name : String) : t ≠ .ident name := by
  rintro rfl
  cases h

/-- What may follow in a text: anything, but right behind a name nothing that begins with a quote. -/
def Follows (quote : Char) (named : Bool) (rest : List Char) : Prop :=
  named = true → rest.head? ≠ some quote

/-- A fixed token may follow in any case. -/
theorem Follows.of_isFixed {base : BaseDialect} {named : Bool} {t : Token} (h : t.isFixed)
    (ts : List Token) (rest : List Char) :
    Follows base.quoteChar named (Token.chars base.toDialect (t :: ts) ++ rest) := by
  obtain ⟨hne, hquote⟩ := Token.text_of_isFixed base h
  rw [Token.chars_cons, List.append_assoc]
  exact fun _ => head?_append_ne_of_ne_nil hquote hne _

open Piece (own names outsides)

/-- A reader gets through some tokens in front of a rest: he finds their names, and outside of them the
text of the others. -/
def Token.ReadIn (base : BaseDialect) (rest : List Char) (ts : List Token) : Prop :=
  scan base.quoteChar (chars base.toDialect ts ++ rest) = (scan base.quoteChar rest).map
    (Scan.behind (names (own base.toDialect ts)) (outsides (own base.toDialect ts)))

namespace Token.ReadIn

variable {base : BaseDialect} {rest : List Char} {t : Token} {ts us : List Token}

theorem nil : ReadIn base rest [] := by
  rw [ReadIn, chars_nil, List.nil_append]
  cases scan base.quoteChar rest <;> rfl

theorem append (h : ReadIn base (chars base.toDialect us ++ rest) ts) (h' : ReadIn base rest us) :
    ReadIn base rest (ts ++ us) := by
  rw [ReadIn] at h h' ⊢
  rw [chars_append, List.append_assoc, h, h', map_behind_behind, Piece.own_append,
    Piece.names_append, Piece.outsides_append]

/-- A text without quotes in front. -/
theorem text (hname : ∀ name, t ≠ .ident name)
    (hquote : base.quoteChar ∉ (t.text base.toDialect).toList) (h : ReadIn base rest ts) :
    ReadIn base rest (t :: ts) := by
  obtain ⟨no_names, outside⟩ := Piece.outside_of_not_ident base.toDialect hname
  have only : ReadIn base (chars base.toDialect ts ++ rest) [t] := by
    rw [ReadIn, chars_cons, chars_nil, List.append_nil, no_names, outside]
    exact scan_append_of_not_mem hquote _
  exact only.append h

theorem fixed (ht : t.isFixed) (h : ReadIn base rest ts) : ReadIn base rest (t :: ts) :=
  text (ne_ident_of_isFixed ht) (text_of_isFixed base ht).2 h

/-- A name in front, provided that no further quote follows at once. -/
theorem ident (name : String)
    (hfollows : (chars base.toDialect ts ++ rest).head? ≠ some base.quoteChar)
    (h : ReadIn base rest ts) : ReadIn base rest (.ident name :: ts) := by
  have only : ReadIn base (chars base.toDialect ts ++ rest) [.ident name] := by
    rw [ReadIn, chars_cons, chars_nil, List.append_nil, text_ident]
    exact scan_quoteWith name hfollows
  exact only.append h

end Token.ReadIn

namespace Token.Series

variable {base : BaseDialect} {words : String → Prop} {before after : Bool} {ts : List Token}
  {rest : List Char}

section Reading

variable (clean : ∀ text, words text → base.quoteChar ∉ text.toList)

include clean

theorem follows (h : Series words before ts after) (hrest : Follows base.quoteChar after rest) :
    Follows base.quoteChar before (chars base.toDialect ts ++ rest) := by
  induction h with
  | nil h => exact fun hb => hrest (h hb)
  | word h _ _ => exact .of_isFixed (isFixed_of_isWord h) _ _
  | ident name _ _ => exact fun h => nomatch h
  | function h _ ih =>
    rw [chars_cons, List.append_assoc]
    exact fun hb => head?_append_ne (clean _ h) (ih hrest hb)
  | keyword h _ ih =>
    rw [chars_cons, List.append_assoc]
    exact fun hb => head?_append_ne (clean _ h) (ih hrest hb)
  | enclosed _ _ _ _ => exact .of_isFixed rfl _ _

/-- **A reader finds the names between their quotes**, and outside of them the text of all other
tokens, if no quote is in the given texts. -/
theorem readIn (h : Series words before ts after) (hrest : Follows base.quoteChar after rest) :
    ReadIn base rest ts := by
  induction h generalizing rest with
  | nil => exact .nil
  | word h _ ih => exact .fixed (isFixed_of_isWord h) (ih hrest)
  | ident name tail ih => exact .ident name (tail.follows clean hrest rfl) (ih hrest)
  | function h _ ih => exact .text (fun _ h => by cases h) (clean _ h) (ih hrest)
  | keyword h _ ih => exact .text (fun _ h => by cases h) (clean _ h) (ih hrest)
  | @enclosed _ middle _ ts us _ _ ih ih' =>
    have closed : ReadIn base rest (.closeParen :: us) := .fixed rfl (ih' hrest)
    have behind : Follows base.quoteChar middle (chars base.toDialect (.closeParen :: us) ++ rest) :=
      .of_isFixed rfl us rest
    exact .fixed rfl ((ih behind).append closed)

/-- A reader of a series and a semicolon finds the names and, outside of them, the rest. -/
theorem scan_terminated (h : Series words before ts after) :
    scan base.quoteChar (chars base.toDialect (ts ++ [.semicolon]))
      = some { regions := names (own base.toDialect (ts ++ [.semicolon]))
               outside := outsides (own base.toDialect (ts ++ [.semicolon])) } := by
  have behind : Follows base.quoteChar after (chars base.toDialect [.semicolon] ++ []) :=
    .of_isFixed rfl [] []
  have atEnd : ReadIn base [] [.semicolon] := .fixed rfl .nil
  have found : ReadIn base [] (ts ++ [.semicolon]) := (h.readIn clean behind).append atEnd
  rw [ReadIn, List.append_nil] at found
  rw [found, scan, Option.map_some, Scan.behind, List.append_nil, List.append_nil]

end Reading

/-- **What is outside of the names of a series in clean texts** is in balance and does not end a
statement. -/
theorem unfinished (h : Series (Clean base) before ts after) :
    Unfinished (outsides (own base.toDialect ts)) := by
  induction h with
  | nil => exact .nil
  | word h _ ih =>
    rw [Piece.outsides_own_cons (ne_ident_of_isFixed (isFixed_of_isWord h))]
    exact (clean_of_isWord base h).unfinished.append ih
  | ident name _ ih => exact ih
  | function h _ ih =>
    rw [Piece.outsides_own_cons (fun _ h => by cases h)]
    exact h.unfinished.append ih
  | keyword h _ ih =>
    rw [Piece.outsides_own_cons (fun _ h => by cases h)]
    exact h.unfinished.append ih
  | @enclosed _ _ _ ts us _ _ ih ih' =>
    have around : outsides (own base.toDialect (.openParen :: (ts ++ .closeParen :: us)))
        = '(' :: (outsides (own base.toDialect ts) ++ [')']) ++ outsides (own base.toDialect us) := by
      rw [Piece.outsides_own_cons (ne_ident_of_isFixed rfl), Piece.own_append, Piece.outsides_append,
        Piece.outsides_own_cons (ne_ident_of_isFixed rfl)]
      simp [Token.text]
    rw [around]
    exact ih.enclosed.append ih'

end Token.Series

/-! ## 4. Builds of tame statements -/

/-- **A statement for a built-in dialect without raw SQL**, with clean functions and keywords and
with safe nested statements. About names nothing is asked. -/
def Selector.Tame (base : BaseDialect) (safe : Nat → Prop) (s : Selector) : Prop :=
  s.WrittenIn (Clean base) safe base.toDialect

/-- The nested statements that are tame and refer to such only. -/
def tameNested (base : BaseDialect) (nested : List Selector) : Nat → Prop :=
  tabulate True (fun _ safe s => s.Tame base safe) nested

/-- All pieces that a tame nested statement may have are a series in clean texts. -/
theorem series_worded {base : BaseDialect} {nested : List Selector}
    {D : (Nat → EntityKey → Except BuildError EntityMetadata) → Prop} {n : Nat}
    (hn : tameNested base nested n) {ps : List Piece} (h : Worded D nested n ps) :
    Piece.Series base.toDialect (Clean base) false ps true := by
  refine tabulate_relation
    (R := fun (P : List Piece → Prop) (Q : Prop) =>
      ∀ ps, P ps → Q → Piece.Series base.toDialect (Clean base) false ps true)
    ?_ ?_ nested n ps h hn
  · rintro _ rfl -
    exact .nil nofun
  · rintro before saidA saidB s hsaid ps ⟨describe, f, -, hf, rfl⟩ hs
    rw [bodyOf, hs.dialect]
    exact series_statement (fun n hn => hsaid n (f n) (hf n) hn) hs

/-- **Names stay between their quotes.** After any run, let a tame statement over tame nested ones be
built. A reader of the text finds as quoted regions exactly the names in its pieces, in their order;
its own names are those of now, and those of a nested statement are of the moment when that was
compiled. The text outside is the outline of the shape, has its parentheses in balance, and has one
semicolon, at the end. -/
theorem build_confined {base : BaseDialect} {run : List Step} {s : Selector} {q : Query}
    (hs : s.Tame base (tameNested base (Session.start.steps run).2.nested))
    (h : ((Session.start.steps run).2.step (.build s)).1 = .query q) :
    ∃ (said : Nat → List Piece) (outside body : List Char),
      (∀ n, Worded (moments run) (Session.start.steps run).2.nested n (said n)) ∧
      scan base.quoteChar q.sql.toList = some {
        regions := names (bodyOf (Session.start.steps run).2.store.answer
          (Session.start.steps run).2.nested said s)
        outside } ∧
      outside = outline ((Session.start.steps run).2.nested.map Selector.shape) s.shape ∧
      Balanced outside ∧ outside = body ++ [';'] ∧ ';' ∉ body := by
  obtain ⟨said, hsaid, rfl⟩ := build_writes_in_run h
  have confined : Piece.Series base.toDialect (Clean base) false (bodyOf
      (Session.start.steps run).2.store.answer (Session.start.steps run).2.nested said s) true := by
    rw [bodyOf, hs.dialect]
    exact series_statement (fun n hn => series_worded hn (hsaid n)) hs
  have houtline : outsides (bodyOf (Session.start.steps run).2.store.answer
      (Session.start.steps run).2.nested said s ++ own s.db.dialect [.semicolon])
        = outline ((Session.start.steps run).2.nested.map Selector.shape) s.shape :=
    outsides_bodyOf hsaid s
  obtain ⟨ts, body, series⟩ := confined
  rw [body, hs.dialect, Piece.outsides_append, Piece.outsides_semicolon] at houtline
  rw [body, hs.dialect, ← Piece.own_append, Piece.render_own, Token.toList_render_sql]
  have unfinished := series.unfinished
  have last : Balanced [';'] := balanced_of_not_mem (by decide) (by decide)
  refine ⟨said, _, outsides (own base.toDialect ts), hsaid, ?_, houtline,
    unfinished.balanced.append last, rfl, unfinished.no_end⟩
  have no_name : names (own base.toDialect [.semicolon]) = [] := rfl
  rw [body, series.scan_terminated fun _ clean => clean.not_mem, Piece.own_append,
    Piece.names_append, Piece.outsides_append, Piece.outsides_semicolon, no_name, List.append_nil]

/-- A run with hostile names: a nested statement is compiled, and then its entity is described by
other hostile names. -/
def hostileRun : List Step :=
  let before : EntityMetadata := { tableName := "us`er", fields := [("Id", "``")] }
  let after : EntityMetadata := { tableName := "`; DROP TABLE `user", fields := [("Id", ")(;")] }
  let ids : Selector :=
    { db := { registry := 0, dialect := BaseDialect.mysql.toDialect }, entity := some (.named "user"),
      columns := [.column { name := "Id", aliasName := some "` -- " }] }
  [.openRegistry, .register 0 "user" before, .nest ids [] (some "x`"), .compiled { node := 0 },
    .register 0 "user" after]

/-- A statement with names of both moments. -/
def hostileSelector : Selector where
  db := { registry := 0, dialect := BaseDialect.mysql.toDialect }
  entity := some (.named "user")
  columns := [.column { name := "Id" }, .aggregate (.count "Id")]
  source := .reference (.subquery { node := 0, aliasName := some "x`" })
  filters := [.inQuery (.column { name := "Id" }) { node := 0 }]

theorem build_confined_hostileRun :
    hostileSelector.Tame .mysql (tameNested .mysql (Session.start.steps hostileRun).2.nested) ∧
      ∃ q outside, ((Session.start.steps hostileRun).2.step (.build hostileSelector)).1 = .query q ∧
        (∃ regions, scan '\x60' q.sql.toList = some { regions, outside }) ∧ Balanced outside := by
  have hs : hostileSelector.Tame .mysql
      (tameNested .mysql (Session.start.steps hostileRun).2.nested) := by
    have nested : tameNested .mysql (Session.start.steps hostileRun).2.nested 0 := by
      refine ⟨rfl, ?_, trivial, nofun, nofun⟩
      intro item hitem
      rw [List.mem_singleton.1 hitem]
      exact trivial
    refine ⟨rfl, ?_, nested, ?_, nofun⟩
    · intro item hitem
      rcases List.mem_cons.1 hitem with rfl | hitem
      · exact trivial
      · rw [List.mem_singleton.1 hitem]
        show Clean .mysql "COUNT"
        decide
    · intro x hx
      rw [List.mem_singleton.1 hx]
      exact ⟨trivial, nested⟩
  obtain ⟨q, h⟩ : ∃ q,
      ((Session.start.steps hostileRun).2.step (.build hostileSelector)).1 = .query q := ⟨_, rfl⟩
  obtain ⟨said, outside, body, -, hscan, -, hbalanced, -⟩ := build_confined hs h
  exact ⟨hs, q, outside, h, ⟨_, hscan⟩, hbalanced⟩

end SqlSelect
