import SqlSelect.Proofs.Quoting
import SqlSelect.Proofs.Resolution
/-!
# Unique readability

Operands that are nodes stand in parentheses, others do not, and no precedence is left to the
reader. So the text of an expression and its values say which expression it is, up to resolution.

The argument is one of cancellation: two texts that agree, each with something behind it that cannot
belong to it, are of the same expression and have the same behind them.

* `Cancels` -- the statement, for what may follow and for how an expression is written;
* `quoted_cancel`, `word_cancel` -- names and functions, by the quote and by the parenthesis behind;
* `ending_cancel` -- operators: with the blank behind those of two operands none is the beginning of
  another, so `<` is not mistaken for `<=`, nor `NOT LIKE` for `NOT IN`;
* `not_ne_operand` -- the prefix `NOT` is not mistaken for a function, which has a parenthesis behind;
* `text_cancels` -- expressions, by induction over the tree;
* `expr_unique` -- expressions that are compiled in a session.
-/

namespace SqlSelect

/-! ## 1. Names and words -/

/-- Of two equal texts the words at the beginning are equal, if a character behind ends each. -/
theorem word_cancel {p : Char → Bool} {v w r s : List Char} {c d : Char}
    (hv : ∀ x ∈ v, p x = true) (hw : ∀ x ∈ w, p x = true) (hc : p c = false) (hd : p d = false)
    (h : v ++ c :: r = w ++ d :: s) : v = w ∧ c = d ∧ r = s := by
  induction v generalizing w with
  | nil =>
    cases w with
    | nil =>
      obtain ⟨hcd, hrs⟩ := List.cons.inj h
      exact ⟨rfl, hcd, hrs⟩
    | cons x w =>
      obtain ⟨rfl, -⟩ := List.cons.inj h
      rw [hw c List.mem_cons_self] at hc
      cases hc
  | cons x v ih =>
    cases w with
    | nil =>
      obtain ⟨rfl, -⟩ := List.cons.inj h
      rw [hv x List.mem_cons_self] at hd
      cases hd
    | cons y w =>
      obtain ⟨rfl, htail⟩ := List.cons.inj h
      obtain ⟨rfl, hcd, hrs⟩ := ih (fun z hz => hv z (List.mem_cons_of_mem x hz))
        (fun z hz => hw z (List.mem_cons_of_mem x hz)) htail
      exact ⟨rfl, hcd, hrs⟩

/-- Of two equal texts the quoted names at the beginning are equal, if no quote follows. -/
theorem quoted_cancel {quote : Char} {a b : String} {r s : List Char} (hr : r.head? ≠ some quote)
    (hs : s.head? ≠ some quote)
    (h : (quoteWith quote a).toList ++ r = (quoteWith quote b).toList ++ s) : a = b ∧ r = s := by
  rw [toList_quoteWith, toList_quoteWith, List.cons_append, List.cons_append, List.append_assoc,
    List.append_assoc] at h
  have hbehind : doubled quote a.toList ++ quote :: r = doubled quote b.toList ++ quote :: s :=
    (List.cons.inj h).2
  have hread : some (a.toList, r) = some (b.toList, s) := by
    rw [← closing_doubled a.toList hr, ← closing_doubled b.toList hs, hbehind]
  obtain ⟨hname, hrest⟩ := Prod.mk.inj (Option.some.inj hread)
  exact ⟨String.toList_inj.1 hname, hrest⟩

/-! ## 2. What may follow -/

/-- What may follow an expression: nothing, or the parenthesis that closes around it. -/
def Closed (rest : List Char) : Prop := ∀ c, rest.head? = some c → c = ')'

/-- What may follow an operand: nothing, a parenthesis that closes around it, or a blank. -/
def Parted (rest : List Char) : Prop := ∀ c, rest.head? = some c → c = ')' ∨ c = ' '

theorem closed_nil : Closed [] := nofun

theorem closed_cons (rest : List Char) : Closed (')' :: rest) := by
  rintro c ⟨⟩
  rfl

theorem Closed.parted {rest : List Char} (h : Closed rest) : Parted rest :=
  fun c hc => .inl (h c hc)

theorem parted_space (rest : List Char) : Parted (' ' :: rest) := by
  rintro c ⟨⟩
  exact .inr rfl

/-- A blank does not close an expression. -/
theorem not_closed_space (rest : List Char) : ¬ Closed (' ' :: rest) :=
  fun h => absurd (h ' ' rfl) (by decide)

theorem Parted.ne_quote {rest : List Char} (h : Parted rest) (base : BaseDialect) :
    rest.head? ≠ some base.quoteChar := by
  intro hq
  have := h base.quoteChar hq
  cases base <;> revert this <;> decide

/-- **The statement of cancellation**, for what may follow and for how expressions are written: of two
equal texts with equal values the expressions at the beginning are equal, and so is what follows. -/
def Cancels (Follow : List Char → Prop) (write : Resolved → List Char) (t u : Resolved) : Prop :=
  ∀ r s v w, Follow r → Follow s → write t ++ r = write u ++ s → t.values ++ v = u.values ++ w →
    t = u ∧ r = s ∧ v = w

theorem Cancels.symm {Follow : List Char → Prop} {write : Resolved → List Char} {t u : Resolved}
    (h : Cancels Follow write t u) : Cancels Follow write u t := by
  intro r s v w hr hs htext hvalues
  obtain ⟨rfl, rfl, rfl⟩ := h s r w v hs hr htext.symm hvalues.symm
  exact ⟨rfl, rfl, rfl⟩

/-! ## 3. Leaves -/

namespace Resolved

variable {base : BaseDialect}

theorem head?_fieldText (qualifier : Option String) (name : String) (rest : List Char) :
    (fieldText base qualifier name ++ rest).head? = some base.quoteChar := by
  cases qualifier <;> simp [fieldText, toList_quoteWith]

/-- A column is followed by no quote and no dot. -/
theorem field_cancel {q q' : Option String} {a b : String} {r s : List Char} (hr : Parted r)
    (hs : Parted s) (h : fieldText base q a ++ r = fieldText base q' b ++ s) :
    q = q' ∧ a = b ∧ r = s := by
  have dot (rest : List Char) : ('.' :: rest).head? ≠ some base.quoteChar := by
    cases base <;> simp [BaseDialect.quoteChar]
  have parted_dot (rest : List Char) : ¬ Parted ('.' :: rest) := by
    intro hp
    have := hp '.' rfl
    revert this
    decide
  cases q with
  | none =>
    cases q' with
    | none =>
      obtain ⟨rfl, rfl⟩ := quoted_cancel (hr.ne_quote base) (hs.ne_quote base) h
      exact ⟨rfl, rfl, rfl⟩
    | some q' =>
      simp only [fieldText, Option.elim_none, Option.elim_some, List.nil_append,
        List.append_assoc, List.singleton_append] at h
      obtain ⟨-, rfl⟩ := quoted_cancel (hr.ne_quote base) (dot _) h
      exact absurd hr (parted_dot _)
  | some q =>
    cases q' with
    | none =>
      simp only [fieldText, Option.elim_none, Option.elim_some, List.nil_append,
        List.append_assoc, List.singleton_append] at h
      obtain ⟨-, rfl⟩ := quoted_cancel (dot _) (hs.ne_quote base) h
      exact absurd hs (parted_dot _)
    | some q' =>
      simp only [fieldText, Option.elim_some, List.append_assoc, List.singleton_append] at h
      obtain ⟨rfl, hcolumns⟩ := quoted_cancel (dot _) (dot _) h
      obtain ⟨rfl, rfl⟩ := quoted_cancel (hr.ne_quote base) (hs.ne_quote base)
        (List.cons.inj hcolumns).2
      exact ⟨rfl, rfl, rfl⟩

/-- A word begins with a character of a word. -/
theorem head?_word {function : String} (hf : IsWord function) (rest : List Char) :
    ∃ c, (function.toList ++ rest).head? = some c ∧ isWordChar c = true := by
  cases hcs : function.toList with
  | nil => exact absurd hcs hf.1
  | cons c cs => exact ⟨c, rfl, hf.2 c (hcs ▸ List.mem_cons_self)⟩

/-- The characters with which leaves begin: a quote, a question mark, a character of a word. -/
theorem head?_leaf (base : BaseDialect) {t : Resolved} (ht : t.isNode = false) (hf : t.Fits)
    (rest : List Char) :
    ∃ c, (t.text base ++ rest).head? = some c
      ∧ (c = base.quoteChar ∨ c = '?' ∨ isWordChar c = true) := by
  cases t with
  | column q a => exact ⟨_, head?_fieldText q a rest, .inl rfl⟩
  | value x => exact ⟨'?', rfl, .inr (.inl rfl)⟩
  | aggregate f q a =>
    obtain ⟨c, hc, hword⟩ := head?_word hf ('(' :: (fieldText base q a ++ [')']) ++ rest)
    refine ⟨c, ?_, .inr (.inr hword)⟩
    rw [text, List.append_assoc]
    exact hc
  | unary | binary => cases ht

theorem column_ne_value (q : Option String) (a : String) (x : Value) (r s : List Char) :
    (column q a).text base ++ r ≠ (value x).text base ++ s := by
  intro h
  have heads := congrArg List.head? h
  rw [text, head?_fieldText] at heads
  have same : base.quoteChar = '?' := Option.some.inj heads
  cases base <;> revert same <;> decide

theorem column_ne_aggregate (q q' : Option String) (a b : String) {f : String} (hf : IsWord f)
    (r s : List Char) : (column q a).text base ++ r ≠ (aggregate f q' b).text base ++ s := by
  intro h
  have heads := congrArg List.head? h
  obtain ⟨c, hc, hword⟩ := head?_word hf ('(' :: (fieldText base q' b ++ [')']) ++ s)
  rw [text, text, head?_fieldText, List.append_assoc, hc] at heads
  have same : base.quoteChar = c := Option.some.inj heads
  subst same
  cases base <;> revert hword <;> decide

theorem value_ne_aggregate (x : Value) (q : Option String) (a : String) {f : String}
    (hf : IsWord f) (r s : List Char) :
    (value x).text base ++ r ≠ (aggregate f q a).text base ++ s := by
  intro h
  have heads := congrArg List.head? h
  obtain ⟨c, hc, hword⟩ := head?_word hf ('(' :: (fieldText base q a ++ [')']) ++ s)
  rw [text, text, List.append_assoc, hc] at heads
  have same : '?' = c := Option.some.inj heads
  subst same
  revert hword
  decide

/-- **Leaves cancel.** -/
theorem leaf_cancels {t u : Resolved} (ht : t.isNode = false) (hu : u.isNode = false)
    (tf : t.Fits) (uf : u.Fits) : Cancels Parted (text base) t u := by
  intro r s v w hr hs h hvalues
  cases t with
  | column q a =>
    cases u with
    | column q' b =>
      obtain ⟨rfl, rfl, rfl⟩ := field_cancel hr hs h
      exact ⟨rfl, rfl, hvalues⟩
    | value y => exact absurd h (column_ne_value q a y r s)
    | aggregate g q' b => exact absurd h (column_ne_aggregate q q' a b uf r s)
    | unary | binary => cases hu
  | value x =>
    cases u with
    | column q' b => exact absurd h.symm (column_ne_value q' b x s r)
    | value y =>
      obtain ⟨rfl, rfl⟩ := List.cons.inj hvalues
      exact ⟨rfl, (List.cons.inj h).2, rfl⟩
    | aggregate g q' b => exact absurd h (value_ne_aggregate x q' b uf r s)
    | unary | binary => cases hu
  | aggregate f q a =>
    cases u with
    | column q' b => exact absurd h.symm (column_ne_aggregate q' q b a tf s r)
    | value y => exact absurd h.symm (value_ne_aggregate y q a tf s r)
    | aggregate g q' b =>
      rw [text, text, List.append_assoc, List.append_assoc, List.cons_append, List.cons_append,
        List.append_assoc, List.append_assoc] at h
      obtain ⟨hfunction, -, hinside⟩ := word_cancel tf.2 uf.2 (by decide) (by decide) h
      obtain ⟨rfl, rfl, hrest⟩ :=
        field_cancel (closed_cons r).parted (closed_cons s).parted hinside
      obtain rfl := String.toList_inj.1 hfunction
      exact ⟨rfl, (List.cons.inj hrest).2, hvalues⟩
    | unary | binary => cases hu
  | unary | binary => cases ht

/-! ## 4. Operands -/

/-- A leaf does not begin with a parenthesis. -/
theorem leaf_ne_paren {t : Resolved} (ht : t.isNode = false) (hf : t.Fits) (r s : List Char) :
    t.text base ++ r ≠ '(' :: s := by
  intro h
  obtain ⟨c, hc, hkind⟩ := head?_leaf base ht hf r
  rw [h] at hc
  obtain rfl := Option.some.inj hc
  rcases hkind with hquote | hquestion | hword
  · cases base <;> revert hquote <;> decide
  · revert hquestion
    decide
  · revert hword
    decide

theorem operand_of_leaf {t : Resolved} (h : t.isNode = false) : t.operand base = t.text base := by
  rw [operand, enclose, h]
  rfl

theorem operand_of_node {t : Resolved} (h : t.isNode = true) :
    t.operand base = '(' :: (t.text base ++ [')']) := by
  rw [operand, enclose, h]
  rfl

/-- **Operands cancel if nodes do**: only nodes stand in parentheses, and those close around them. -/
theorem operand_cancels {t u : Resolved} (tf : t.Fits) (uf : u.Fits)
    (h : t.isNode = true → u.isNode = true → Cancels Closed (text base) t u) :
    Cancels Parted (operand base) t u := by
  intro r s v w hr hs htext hvalues
  cases ht : t.isNode with
  | false =>
    rw [operand_of_leaf ht] at htext
    cases hu : u.isNode with
    | false =>
      rw [operand_of_leaf hu] at htext
      exact leaf_cancels ht hu tf uf r s v w hr hs htext hvalues
    | true =>
      rw [operand_of_node hu] at htext
      exact absurd htext (leaf_ne_paren ht tf r _)
  | true =>
    rw [operand_of_node ht] at htext
    cases hu : u.isNode with
    | false =>
      rw [operand_of_leaf hu] at htext
      exact absurd htext.symm (leaf_ne_paren hu uf s _)
    | true =>
      rw [operand_of_node hu, List.cons_append, List.cons_append, List.append_assoc,
        List.append_assoc] at htext
      obtain ⟨htrees, hrest, hmore⟩ := h ht hu (')' :: r) (')' :: s) v w (closed_cons r)
        (closed_cons s) (List.cons.inj htext).2 hvalues
      exact ⟨htrees, (List.cons.inj hrest).2, hmore⟩

/-! ## 5. Operators -/

/-- What is written behind the first operand and a blank: the operator, and a blank if there is a
second operand. -/
def ending (base : BaseDialect) (op : Operator) : List Char :=
  if op.isUnary then (base.spelling op).toList else (base.spelling op).toList ++ [' ']

/-- No operator behind an operand is the beginning of another one. -/
theorem eq_of_ending_begins {a b : Operator} (ha : a.isLeading = false) (hb : b.isLeading = false)
    (h : ending base a <+: ending base b) : a = b := by
  have all : ∀ a ∈ Operator.all, ∀ b ∈ Operator.all, a.isLeading = false → b.isLeading = false →
      ending base a <+: ending base b → a = b := by
    cases base <;> decide +kernel
  exact all a (Operator.mem_all a) b (Operator.mem_all b) ha hb h

theorem ending_cancel {a b : Operator} (ha : a.isLeading = false) (hb : b.isLeading = false)
    {r s : List Char} (h : ending base a ++ r = ending base b ++ s) : a = b ∧ r = s := by
  have same : a = b := by
    rcases List.prefix_or_prefix_of_prefix (List.prefix_append (ending base a) r)
      (h ▸ List.prefix_append (ending base b) s) with hab | hba
    · exact eq_of_ending_begins ha hb hab
    · exact (eq_of_ending_begins hb ha hba).symm
  subst same
  exact ⟨rfl, List.append_cancel_left h⟩

/-- **The prefix is not mistaken for an operand**: a blank is behind it, and a parenthesis behind a
function. -/
theorem not_ne_operand {x : Resolved} (hx : x.Fits) (r s : List Char) :
    (base.spelling .not).toList ++ ' ' :: r ≠ x.operand base ++ s := by
  have spelled : (base.spelling .not).toList = ['N', 'O', 'T'] := by
    cases base <;> decide
  rw [spelled]
  intro h
  have heads := congrArg List.head? h
  cases x with
  | column q a =>
    rw [operand_of_leaf rfl, text, head?_fieldText] at heads
    have same : 'N' = base.quoteChar := Option.some.inj heads
    cases base <;> revert same <;> decide
  | value y =>
    have same : 'N' = '?' := Option.some.inj heads
    revert same
    decide
  | aggregate f q a =>
    have hword : ['N', 'O', 'T'] ++ ' ' :: r
        = f.toList ++ '(' :: (fieldText base q a ++ [')'] ++ s) := by
      rw [h, operand_of_leaf rfl, text, List.append_assoc, List.cons_append]
    have letters : ['N', 'O', 'T'].all isWordChar = true := by decide
    obtain ⟨-, same, -⟩ :=
      word_cancel (List.all_eq_true.1 letters) hx.2 (by decide) (by decide) hword
    revert same
    decide
  | unary | binary =>
    rw [operand_of_node rfl] at heads
    have same : 'N' = '(' := Option.some.inj heads
    revert same
    decide

/-! ## 6. Expressions -/

/-- The expression begins with an operand and has an operator behind it. -/
structure Opened (base : BaseDialect) (t : Resolved) (op : Operator) (x : Resolved)
    (tail : List Char) (more : List Value) : Prop where
  text : t.text base = x.operand base ++ ' ' :: (ending base op ++ tail)
  values : t.values = x.values ++ more
  behind : op.isLeading = false
  fits : x.Fits

theorem opened_unary {kind : NodeKind} {op : Operator} {x : Resolved}
    (hf : (unary kind op x).Fits) (hop : op.isLeading = false) :
    Opened base (unary kind op x) op x [] [] where
  text := by
    rw [text, hop, ending, hf.2.1]
    simp [operand]
  values := (List.append_nil _).symm
  behind := hop
  fits := hf.2.2

theorem opened_binary {kind : NodeKind} {op : Operator} {x y : Resolved}
    (hf : (binary kind op x y).Fits) :
    Opened base (binary kind op x y) op x (y.operand base) y.values where
  text := by
    rw [text, ending, hf.2.1]
    simp [operand]
  values := rfl
  behind := by
    have hunary := hf.2.1
    cases op <;> first | rfl | cases hunary
  fits := hf.2.2.1

/-- A negation is written as the prefix and its operand. -/
theorem text_not (kind : NodeKind) (x : Resolved) :
    (unary kind .not x).text base = (base.spelling .not).toList ++ ' ' :: x.operand base := rfl

/-- Behind equal operands there are equal operators. -/
theorem Opened.cancel {t u x y : Resolved} {a b : Operator} {tail tail' : List Char}
    {more more' : List Value} (ht : Opened base t a x tail more)
    (hu : Opened base u b y tail' more') (hxy : Cancels Parted (operand base) x y)
    {r s : List Char} {v w : List Value} (h : t.text base ++ r = u.text base ++ s)
    (hvalues : t.values ++ v = u.values ++ w) :
    x = y ∧ a = b ∧ tail ++ r = tail' ++ s ∧ more ++ v = more' ++ w := by
  rw [ht.text, hu.text, List.append_assoc, List.append_assoc, List.cons_append, List.cons_append,
    List.append_assoc, List.append_assoc] at h
  rw [ht.values, hu.values, List.append_assoc, List.append_assoc] at hvalues
  obtain ⟨rfl, hbehind, hmore⟩ :=
    hxy _ _ _ _ (parted_space _) (parted_space _) h hvalues
  obtain ⟨rfl, htail⟩ := ending_cancel ht.behind hu.behind (List.cons.inj hbehind).2
  exact ⟨rfl, rfl, htail, hmore⟩

/-- A leaf is not mistaken for an operand with an operator behind. -/
theorem Opened.not_leaf {t u x : Resolved} {op : Operator} {tail : List Char} {more : List Value}
    (hu : Opened base u op x tail more) (ht : t.isNode = false) (tf : t.Fits) {r s : List Char}
    {v w : List Value} (hr : Closed r) (h : t.text base ++ r = u.text base ++ s)
    (hvalues : t.values ++ v = u.values ++ w) : False := by
  rw [hu.text, List.append_assoc, List.cons_append, ← operand_of_leaf ht] at h
  rw [hu.values, List.append_assoc] at hvalues
  have htx : Cancels Parted (operand base) t x :=
    operand_cancels tf hu.fits fun hnode => by rw [ht] at hnode; cases hnode
  obtain ⟨-, rfl, -⟩ := htx _ _ _ _ hr.parted (parted_space _) h hvalues
  exact not_closed_space _ hr

/-- A negation is not mistaken for an operand with an operator behind. -/
theorem Opened.not_negation {u x y : Resolved} {kind : NodeKind} {op : Operator} {tail : List Char}
    {more : List Value} (hu : Opened base u op y tail more) {r s : List Char}
    (h : (unary kind .not x).text base ++ r = u.text base ++ s) : False := by
  have hbehind : (base.spelling .not).toList ++ ' ' :: (x.operand base ++ r)
      = y.operand base ++ (' ' :: (ending base op ++ tail) ++ s) := by
    rw [text_not, hu.text, List.append_assoc, List.append_assoc] at h
    exact h
  exact not_ne_operand hu.fits _ _ hbehind

/-- Leaves cancel against every expression. -/
theorem leaf_text_cancels {t u : Resolved} (ht : t.isNode = false) (tf : t.Fits) (uf : u.Fits) :
    Cancels Closed (text base) t u := by
  intro r s v w hr hs h hvalues
  cases u with
  | column | value | aggregate =>
    exact leaf_cancels ht rfl tf uf r s v w hr.parted hs.parted h hvalues
  | unary kind op x =>
    cases hop : op.isLeading with
    | true =>
      obtain rfl : op = .not := of_decide_eq_true hop
      rw [text_not, ← operand_of_leaf ht, List.append_assoc, List.cons_append] at h
      exact absurd h.symm (not_ne_operand tf _ _)
    | false => exact ((opened_unary uf hop).not_leaf ht tf hr h hvalues).elim
  | binary kind op x y => exact ((opened_binary uf).not_leaf ht tf hr h hvalues).elim

/-- Expressions with one operand cancel, if their operands do. -/
theorem unary_cancels {kind kind' : NodeKind} {op op' : Operator} {x y : Resolved}
    (tf : (unary kind op x).Fits) (uf : (unary kind' op' y).Fits)
    (hxy : Cancels Parted (operand base) x y) :
    Cancels Closed (text base) (unary kind op x) (unary kind' op' y) := by
  intro r s v w hr hs h hvalues
  have hkind := tf.1
  have hkind' := uf.1
  cases hop : op.isLeading with
  | true =>
    obtain rfl : op = .not := of_decide_eq_true hop
    cases hop' : op'.isLeading with
    | true =>
      obtain rfl : op' = .not := of_decide_eq_true hop'
      rw [text_not, text_not, List.append_assoc, List.append_assoc] at h
      have hbehind : x.operand base ++ r = y.operand base ++ s :=
        (List.cons.inj (List.append_cancel_left h)).2
      obtain ⟨rfl, rfl, rfl⟩ := hxy r s v w hr.parted hs.parted hbehind hvalues
      rw [← hkind, ← hkind']
      exact ⟨rfl, rfl, rfl⟩
    | false => exact ((opened_unary uf hop').not_negation h).elim
  | false =>
    have ht : Opened base (unary kind op x) op x [] [] := opened_unary tf hop
    cases hop' : op'.isLeading with
    | true =>
      obtain rfl : op' = .not := of_decide_eq_true hop'
      exact (ht.not_negation h.symm).elim
    | false =>
      obtain ⟨rfl, rfl, hrest, hmore⟩ := ht.cancel (opened_unary uf hop') hxy h hvalues
      rw [← hkind, ← hkind']
      exact ⟨rfl, hrest, hmore⟩

/-- One operand is not mistaken for two. -/
theorem unary_binary_cancels {kind kind' : NodeKind} {op op' : Operator} {x y z : Resolved}
    (tf : (unary kind op x).Fits) (uf : (binary kind' op' y z).Fits)
    (hxy : Cancels Parted (operand base) x y) :
    Cancels Closed (text base) (unary kind op x) (binary kind' op' y z) := by
  intro r s v w hr hs h hvalues
  have hu : Opened base (binary kind' op' y z) op' y (z.operand base) z.values := opened_binary uf
  cases hop : op.isLeading with
  | true =>
    obtain rfl : op = .not := of_decide_eq_true hop
    exact (hu.not_negation h).elim
  | false =>
    obtain ⟨-, rfl, -, -⟩ := (opened_unary tf hop).cancel hu hxy h hvalues
    have hunary := tf.2.1
    rw [uf.2.1] at hunary
    cases hunary

/-- Expressions with two operands cancel, if their operands do. -/
theorem binary_cancels {kind kind' : NodeKind} {op op' : Operator} {x y x' y' : Resolved}
    (tf : (binary kind op x y).Fits) (uf : (binary kind' op' x' y').Fits)
    (hx : Cancels Parted (operand base) x x') (hy : Cancels Parted (operand base) y y') :
    Cancels Closed (text base) (binary kind op x y) (binary kind' op' x' y') := by
  intro r s v w hr hs h hvalues
  obtain ⟨rfl, rfl, hbehind, hmore⟩ := (opened_binary tf).cancel (opened_binary uf) hx h hvalues
  obtain ⟨rfl, rfl, rfl⟩ := hy r s v w hr.parted hs.parted hbehind hmore
  have hkind := tf.1
  have hkind' := uf.1
  rw [← hkind, ← hkind']
  exact ⟨rfl, rfl, rfl⟩

/-- **Expressions cancel**, by induction over the one and cases of the other. -/
theorem text_cancels {t u : Resolved} (tf : t.Fits) (uf : u.Fits) :
    Cancels Closed (text base) t u := by
  induction t generalizing u with
  | column | value | aggregate => exact leaf_text_cancels rfl tf uf
  | unary kind op x ih =>
    have hx {y : Resolved} (yf : y.Fits) : Cancels Parted (operand base) x y :=
      operand_cancels tf.2.2 yf fun _ _ => ih tf.2.2 yf
    cases u with
    | column | value | aggregate => exact (leaf_text_cancels rfl uf tf).symm
    | unary kind' op' y => exact unary_cancels tf uf (hx uf.2.2)
    | binary kind' op' y z => exact unary_binary_cancels tf uf (hx uf.2.2.1)
  | binary kind op x y ihx ihy =>
    have hx {z : Resolved} (zf : z.Fits) : Cancels Parted (operand base) x z :=
      operand_cancels tf.2.2.1 zf fun _ _ => ihx tf.2.2.1 zf
    have hy {z : Resolved} (zf : z.Fits) : Cancels Parted (operand base) y z :=
      operand_cancels tf.2.2.2 zf fun _ _ => ihy tf.2.2.2 zf
    cases u with
    | column | value | aggregate => exact (leaf_text_cancels rfl uf tf).symm
    | unary kind' op' z => exact (unary_binary_cancels uf tf (hx uf.2.2).symm).symm
    | binary kind' op' x' y' => exact binary_cancels tf uf (hx uf.2.2.1) (hy uf.2.2.2)

/-- **An expression is known by its text and its values.** -/
theorem eq_of_text_eq {t u : Resolved} (tf : t.Fits) (uf : u.Fits) (h : t.text base = u.text base)
    (hvalues : t.values = u.values) : t = u := by
  have cancels : Cancels Closed (text base) t u := text_cancels tf uf
  refine (cancels [] [] [] [] closed_nil closed_nil ?_ ?_).1
  · rw [List.append_nil, List.append_nil, h]
  · rw [List.append_nil, List.append_nil, hvalues]

end Resolved

/-! ## 7. Compiled expressions -/

/-- **Parentheses say which expression is meant.** Let two expressions of columns, values, aggregates
and operators be compiled for one entity, one registry and one built-in dialect. If they have one
text and one list of values, they are the same up to resolution. -/
theorem expr_unique {base : BaseDialect} {nested : List Selector} {registry : Nat}
    {primary : EntityMetadata} {st st₁ st' st₂ : Store} (hst : st'.answer = st.answer)
    {x y : Expr} (hx : x.Plain) (hy : y.Plain) {ts us : List Token}
    (hts : (Scope.expr { registry, primary, inner := .ofList .inCells resolve nested } x).run.run st
      = (.ok ts, st₁))
    (hus : (Scope.expr { registry, primary, inner := .ofList .inCells resolve nested } y).run.run st'
      = (.ok us, st₂))
    (hsql : (Token.render base.toDialect ts).sql = (Token.render base.toDialect us).sql)
    (hargs : (Token.render base.toDialect ts).args = (Token.render base.toDialect us).args) :
    ∃ t, x.resolved? (lookupIn st nested registry primary) = some t ∧
      y.resolved? (lookupIn st nested registry primary) = some t := by
  have hlookup : lookupIn st' nested registry primary = lookupIn st nested registry primary := by
    rw [lookupIn, lookupIn, hst]
  obtain ⟨t, ht, tf, tspells⟩ := run_expr_resolved base hx hts
  obtain ⟨u, hu, uf, uspells⟩ := run_expr_resolved base hy hus
  have htext : t.text base = u.text base := by
    rw [← tspells.text, ← uspells.text, ← Token.toList_render_sql, ← Token.toList_render_sql, hsql]
  have hvalues : t.values = u.values := by
    rw [← tspells.values, ← uspells.values, ← Token.render_args base.toDialect,
      ← Token.render_args base.toDialect, hargs]
  obtain rfl := Resolved.eq_of_text_eq tf uf htext hvalues
  exact ⟨t, ht, hlookup ▸ hu⟩

/-- What an entity with two fields of one column is compiled in. -/
def synonyms : Scope BuildM where
  registry := 0
  primary := { tableName := "users", fields := [("Id", "id"), ("Key", "id")] }
  inner := .ofList .inCells resolve []

/-- An expression in two fields. -/
def notSuccessor (field other : String) : Expr :=
  .not (.eq (.add (.column { name := field }) (.value (.int 1))) (.aggregate (.max other)))

/-- Its tokens, if both fields have the same column. -/
def notSuccessorTokens : List Token :=
  [.op .not, .space, .openParen, .openParen, .ident "id", .space, .op .add, .space,
    .param (.int 1), .closeParen, .space, .op .eq, .space, .function "MAX", .openParen,
    .ident "id", .closeParen, .closeParen]

theorem expr_unique_synonyms :
    (synonyms.expr (notSuccessor "Id" "Key")).run.run (.ofRegistry .empty)
        = (.ok notSuccessorTokens, .ofRegistry .empty) ∧
      (synonyms.expr (notSuccessor "Key" "Id")).run.run (.ofRegistry .empty)
        = (.ok notSuccessorTokens, .ofRegistry .empty) ∧
      ∃ t, (notSuccessor "Id" "Key").resolved?
          (lookupIn (.ofRegistry .empty) [] synonyms.registry synonyms.primary) = some t ∧
        (notSuccessor "Key" "Id").resolved?
          (lookupIn (.ofRegistry .empty) [] synonyms.registry synonyms.primary) = some t := by
  have letters : "MAX".toList.all isWordChar = true := by decide
  have word : IsWord "MAX" := ⟨by decide, List.all_eq_true.1 letters⟩
  have hx (field other : String) : (notSuccessor field other).Plain := ⟨⟨trivial, trivial⟩, word⟩
  have left : (synonyms.expr (notSuccessor "Id" "Key")).run.run (.ofRegistry .empty)
      = (.ok notSuccessorTokens, .ofRegistry .empty) := rfl
  have right : (synonyms.expr (notSuccessor "Key" "Id")).run.run (.ofRegistry .empty)
      = (.ok notSuccessorTokens, .ofRegistry .empty) := rfl
  have same : Token.render BaseDialect.mysql.toDialect notSuccessorTokens
      = Token.render BaseDialect.mysql.toDialect notSuccessorTokens := rfl
  exact ⟨left, right, expr_unique rfl (hx "Id" "Key") (hx "Key" "Id") left right
    (congrArg Query.sql same) (congrArg Query.args same)⟩

end SqlSelect
