import SqlSelect.Proofs.Phrases
/-!
# Reading by precedence

A reader of SQL gives an operand to the operators around it by how tightly they bind. It knows
operators by what they are, however a dialect spells them, and takes the text of raw SQL and of
nested statements as it is. A phrase is read to the end here, whatever its leaves are.

* `Reading.ofTokens` -- the reader, a machine with a stack of what is not finished yet;
* `Phrase.heard` -- what the reader makes of a phrase. It is the phrase with its own operands
  (`Phrase.tree`), but for a leaf that begins with `NOT`: in front of an operator that binds more
  tightly the whole node is taken for what is negated, and behind one the grammar has no `NOT`;
* `Phrase.Of.read` -- so it is; the induction is over the phrase, with any parentheses open in
  front of it;
* `Phrase.heard_eq_tree_iff` -- a phrase is heard as it is exactly if no operand of an operator that
  binds more tightly than `NOT` is such a leaf.
-/

namespace SqlSelect

/-! ## 1. How tightly operators bind -/

namespace Operator

/-- How tightly an operator binds its operands. -/
def strength : Operator → Nat
  | or => 0
  | and => 1
  | not => 2
  | add | sub => 4
  | mul | div | mod => 5
  | _ => 3

/-- The operator binds more tightly than `NOT`. -/
def isTight (op : Operator) : Bool := not.strength < op.strength

theorem isTight_iff (op : Operator) : op.isTight = true ↔ op ≠ and ∧ op ≠ or ∧ op ≠ not := by
  cases op <;> decide

end Operator

/-! ## 2. Reading by precedence -/

/-- What a reader of SQL makes of an expression. -/
inductive Reading
  | name (qualifier : Option String) (column : String)
  | value (value : Value)
  | text (query : Query)
  /-- A function or a keyword, and what stands in parentheses behind it. -/
  | call (word : String) (x : Reading)
  | unary (op : Operator) (x : Reading)
  | binary (op : Operator) (x y : Reading)

/-- What is not finished yet when the reader has come to some place. -/
inductive Frame
  /-- A parenthesis is open. -/
  | group
  | call (word : String)
  | negation
  /-- A left operand and its operator. -/
  | left (x : Reading) (op : Operator)

/-- Where the reader is: an operand is due, a qualifier and its dot have been read, or an operand
has been read. -/
inductive ReaderState
  | due (frames : List Frame)
  | dotted (frames : List Frame) (qualifier : String)
  | done (frames : List Frame) (x : Reading)

namespace Reading

/-- Gives an operand to the operators in front of it that bind at least as tightly as `strength`. -/
def settle (strength : Nat) : List Frame → Reading → List Frame × Reading
  | .negation :: frames, x =>
    if strength ≤ Operator.not.strength then settle strength frames (.unary .not x)
    else (.negation :: frames, x)
  | .left y op :: frames, x =>
    if strength ≤ op.strength then settle strength frames (.binary op y x)
    else (.left y op :: frames, x)
  | frames, x => (frames, x)

/-- `NOT` may stand here. By the grammar of the standard, the right operand of an operator that binds
more tightly does not begin with it. -/
def admitsNegation : List Frame → Bool
  | .left _ op :: _ => !op.isTight
  | .call _ :: _ => false
  | _ => true

/-- The state after a closing parenthesis. -/
def close (settled : List Frame × Reading) : Option ReaderState :=
  match settled.1 with
  | .group :: .call word :: frames => some (.done frames (.call word settled.2))
  | .group :: frames => some (.done frames settled.2)
  | _ => none

/-- The state after an operator behind an operand. -/
def follow (op : Operator) (settled : List Frame × Reading) : Option ReaderState :=
  if op = .not then none
  else if op.isUnary then some (.done settled.1 (.unary op settled.2))
  else some (.due (.left settled.2 op :: settled.1))

/-- Reads a token where an operand is due. The word `NOT` is a prefix operator also in front of
`EXISTS`. -/
def begin (frames : List Frame) : Token → Option ReaderState
  | .space => some (.due frames)
  | .openParen => some (.due (.group :: frames))
  | .function f => some (.due (.call f :: frames))
  | .raw word =>
    if word = "NOT EXISTS " then
      if admitsNegation frames then some (.due (.call "EXISTS " :: .negation :: frames)) else none
    else some (.due (.call word :: frames))
  | .op op =>
    if op = .not ∧ admitsNegation frames then some (.due (.negation :: frames)) else none
  | .param v => some (.done frames (.value v))
  | .fragment q => some (.done frames (.text q))
  | .ident column => some (.done frames (.name none column))
  | _ => none

/-- Reads a token behind an operand. -/
def proceed (frames : List Frame) (x : Reading) : Token → Option ReaderState
  | .space => some (.done frames x)
  | .op op => follow op (settle op.strength frames x)
  | .closeParen => close (settle 0 frames x)
  | .dot =>
    match x with
    | .name none qualifier => some (.dotted frames qualifier)
    | _ => none
  | _ => none

/-- Reads a token. -/
def step : ReaderState → Token → Option ReaderState
  | .due frames, t => begin frames t
  | .done frames x, t => proceed frames x t
  | .dotted frames qualifier, .ident column => some (.done frames (.name (some qualifier) column))
  | .dotted .., _ => none

/-- What has been read when everything in front is given its operand. -/
def settled : ReaderState → Option (List Frame × Reading)
  | .done frames x => some (settle 0 frames x)
  | _ => none

/-- Reads tokens from a state on. -/
def run (s : ReaderState) (ts : List Token) : Option ReaderState := ts.foldlM step s

/-- What the tokens of an expression are read as. -/
def ofTokens (ts : List Token) : Option Reading := do
  match ← (run (.due []) ts).bind settled with
  | ([], x) => some x
  | _ => none

theorem run_append (s : ReaderState) (ts us : List Token) :
    run s (ts ++ us) = (run s ts).bind (run · us) :=
  List.foldlM_append

theorem run_cons (s : ReaderState) (t : Token) (ts : List Token) :
    run s (t :: ts) = (step s t).bind (run · ts) := rfl

/-- A `NOT` in front goes on waiting when an operator follows that binds more tightly. -/
theorem settle_of_isTight {op : Operator} (tight : op.isTight = true) (frames : List Frame)
    (x : Reading) : settle op.strength (.negation :: frames) x = (.negation :: frames, x) := by
  have above : ¬ op.strength ≤ Operator.not.strength := by
    simpa [Operator.isTight] using tight
  rw [settle, if_neg above]

end Reading

namespace Phrase

/-- A keyword that begins with `NOT`, as it is read without this word. -/
def negated? : Phrase → Option Reading
  | keyword word q => if word = "NOT EXISTS " then some (.call "EXISTS " (.text q)) else none
  | _ => none

/-- The phrase itself as a reading: every operator has the operands that it has in the phrase. -/
def tree : Phrase → Reading
  | field qualifier column => .name qualifier column
  | value v => .value v
  | enclosed q => .text q
  | aggregate f qualifier column => .call f (.name qualifier column)
  | keyword word q =>
    if word = "NOT EXISTS " then .unary .not (.call "EXISTS " (.text q)) else .call word (.text q)
  | unary op x => .unary op x.tree
  | binary op x y => .binary op x.tree y.tree

/-- What a reader makes of a phrase. In front of an operator that binds more tightly than `NOT` a
`NOT` is read with the whole node; behind one it cannot be read. -/
def heard : Phrase → Option Reading
  | unary op x =>
    if op.isTight then
      match x.negated? with
      | some e => some (.unary .not (.unary op e))
      | none => x.heard.map (.unary op)
    else x.heard.map (.unary op)
  | binary op x y =>
    if op.isTight then
      match y.negated?, x.negated? with
      | some _, _ => none
      | none, some e => y.heard.map fun b => .unary .not (.binary op e b)
      | none, none => x.heard.bind fun a => y.heard.map (.binary op a)
    else x.heard.bind fun a => y.heard.map (.binary op a)
  | p => some p.tree

/-! ## 3. What is read of a phrase -/

/-- Nothing in front of a phrase waits for it: it is the whole text, or a parenthesis is open. -/
inductive Outer : List Frame → Prop
  | whole : Outer []
  | inside (frames : List Frame) : Outer (.group :: frames)

/-- No word waits for its parenthesis. -/
def Uncalled : List Frame → Prop
  | .call _ :: _ => False
  | _ => True

open Reading

variable {frames : List Frame}

theorem Outer.settle (h : Outer frames) (n : Nat) (x : Reading) :
    settle n frames x = (frames, x) := by
  cases h <;> rfl

theorem Outer.admitsNegation (h : Outer frames) : admitsNegation frames = true := by
  cases h <;> rfl

theorem Outer.uncalled (h : Outer frames) : Uncalled frames := by
  cases h <;> trivial

theorem close_group (h : Uncalled frames) (x : Reading) :
    close (.group :: frames, x) = some (.done frames x) := by
  match frames, h with
  | [], _ => rfl
  | .group :: _, _ => rfl
  | .negation :: _, _ => rfl
  | .left _ _ :: _, _ => rfl

theorem step_closeParen (s : ReaderState) : step s .closeParen = (settled s).bind close := by
  cases s <;> rfl

theorem run_fieldTokens (column : String) (qualifier : Option String) :
    run (.due frames) (fieldTokens column qualifier)
      = some (.done frames (.name qualifier column)) := by
  cases qualifier <;> rfl

theorem negated?_eq_some {p : Phrase} {e : Reading} :
    p.negated? = some e ↔ ∃ q, p = keyword "NOT EXISTS " q ∧ e = .call "EXISTS " (.text q) := by
  constructor
  · intro h
    unfold negated? at h
    split at h
    · next word q =>
      split at h
      · next hword =>
        cases h
        exact ⟨q, by rw [hword], rfl⟩
      · cases h
    · cases h
  · rintro ⟨q, rfl, rfl⟩
    rfl

/-- A phrase that begins with `NOT` and is no node is read as a negation that is not finished. -/
theorem run_operand_of_negated {p : Phrase} {e : Reading} (hp : p.negated? = some e) :
    run (.due frames) p.operand
      = if admitsNegation frames then some (.done (.negation :: frames) e) else none := by
  obtain ⟨q, rfl, rfl⟩ := negated?_eq_some.1 hp
  have word : step (.due frames) (.raw "NOT EXISTS ")
      = if admitsNegation frames then some (.due (.call "EXISTS " :: .negation :: frames))
        else none := rfl
  have tokens : (keyword "NOT EXISTS " q).operand
      = .raw "NOT EXISTS " :: [.openParen, .fragment q, .closeParen] := rfl
  rw [tokens, run_cons, word]
  split <;> rfl

/-- A leaf that does not begin with `NOT` is read as it is. -/
theorem run_leaf {p : Phrase} (leaf : p.isNode = false) (hp : p.negated? = none)
    (hf : Uncalled frames) : run (.due frames) p.tokens = some (.done frames p.tree) := by
  cases p with
  | field qualifier column => exact run_fieldTokens column qualifier
  | value v => rfl
  | enclosed q =>
    show (close (.group :: frames, .text q)).bind some = _
    rw [close_group hf]
    rfl
  | aggregate f qualifier column => cases qualifier <;> rfl
  | keyword word q =>
    have other : word ≠ "NOT EXISTS " := by
      rintro rfl
      cases hp
    have called : step (.due frames) (.raw word) = some (.due (.call word :: frames)) :=
      if_neg other
    rw [tokens, run_cons, called, tree, if_neg other]
    rfl
  | unary op x => cases leaf
  | binary op x y => cases leaf

/-- A phrase in parentheses is read as the phrase inside. -/
theorem run_enclosed {p : Phrase} (hf : Uncalled frames)
    (inside : (run (.due (.group :: frames)) p.tokens).bind settled
      = p.heard.map (.group :: frames, ·)) :
    run (.due frames) ([.openParen] ++ p.tokens ++ [.closeParen]) = p.heard.map (.done frames) := by
  have opened : step (.due frames) .openParen = some (.due (.group :: frames)) := rfl
  have closed : (run · [.closeParen]) = fun s => (settled s).bind close := by
    funext s
    rw [run_cons, step_closeParen]
    cases (settled s).bind close <;> rfl
  rw [List.append_assoc, List.singleton_append, run_cons, opened, Option.bind_some, run_append,
    closed, ← Option.bind_assoc, inside]
  cases p.heard with
  | none => rfl
  | some x => exact close_group hf x

/-- The reader hears what is heard of a phrase, where nothing waits for it. -/
def Read (p : Phrase) : Prop :=
  ∀ frames, Outer frames → (run (.due frames) p.tokens).bind settled = p.heard.map (frames, ·)

theorem heard_of_leaf {p : Phrase} (leaf : p.isNode = false) : p.heard = some p.tree := by
  cases p <;> first | rfl | cases leaf

/-- An operand that does not begin with `NOT` is read as one value, wherever it stands. -/
theorem run_operand {p : Phrase} (h : p.Read) (hp : p.negated? = none) (hf : Uncalled frames) :
    run (.due frames) p.operand = p.heard.map (.done frames) := by
  cases hnode : p.isNode with
  | true =>
    rw [operand, wrap, if_pos hnode]
    exact run_enclosed hf (h _ (.inside frames))
  | false =>
    rw [operand, wrap, if_neg (by rw [hnode]; exact Bool.false_ne_true), run_leaf hnode hp hf,
      heard_of_leaf hnode]
    rfl

theorem Read.of_leaf {p : Phrase} (leaf : p.isNode = false) : p.Read := by
  intro frames hf
  rw [heard_of_leaf leaf]
  cases hp : p.negated? with
  | none =>
    rw [run_leaf leaf hp hf.uncalled]
    exact congrArg some (hf.settle 0 p.tree)
  | some e =>
    have operand : p.operand = p.tokens := by
      rw [Phrase.operand, wrap, if_neg (by rw [leaf]; exact Bool.false_ne_true)]
    rw [← operand, run_operand_of_negated hp, hf.admitsNegation]
    obtain ⟨q, rfl, rfl⟩ := negated?_eq_some.1 hp
    exact congrArg some (hf.settle 0 _)

theorem Read.not {p : Phrase} (h : p.Read) : (unary .not p).Read := by
  intro frames hf
  have begun : run (.due frames) [.op .not, .space] = some (.due (.negation :: frames)) := by
    have admitted : begin frames (.op .not) = some (.due (.negation :: frames)) :=
      if_pos ⟨rfl, hf.admitsNegation⟩
    rw [run_cons, step, admitted]
    rfl
  have tokens : (unary .not p).tokens = [.op .not, .space] ++ p.operand := rfl
  have heard : (unary .not p).heard = p.heard.map (.unary .not) := rfl
  rw [tokens, run_append, begun, heard, Option.bind_some]
  cases hp : p.negated? with
  | none =>
    have uncalled : Uncalled (.negation :: frames) := trivial
    rw [run_operand h hp uncalled]
    cases p.heard with
    | none => rfl
    | some r => exact congrArg some (hf.settle 0 (.unary .not r))
  | some e =>
    rw [run_operand_of_negated hp]
    obtain ⟨q, rfl, rfl⟩ := negated?_eq_some.1 hp
    exact congrArg some (hf.settle 0 _)

/-- An operator behind its only operand binds more tightly than `NOT`. -/
theorem Read.trailing {op : Operator} {p : Phrase} (hop : op.isUnary = true) (hne : op ≠ .not)
    (h : p.Read) : (unary op p).Read := by
  intro frames hf
  have tight : op.isTight = true := by
    revert hop hne
    cases op <;> decide
  have tokens : (unary op p).tokens = p.operand ++ [.space, .op op] := by
    rw [Phrase.tokens, Operator.isLeading, if_neg (by simpa using hne)]
    rfl
  have behind (settled : List Frame × Reading) :
      follow op settled = some (.done settled.1 (.unary op settled.2)) := by
    rw [follow, if_neg hne, if_pos hop]
  have stepped (frames : List Frame) (x : Reading) :
      run (.done frames x) [.space, .op op] = follow op (settle op.strength frames x) :=
    Option.bind_fun_some (follow op (settle op.strength frames x))
  rw [tokens, run_append, heard, if_pos tight]
  cases hp : p.negated? with
  | none =>
    rw [run_operand h hp hf.uncalled]
    cases p.heard with
    | none => rfl
    | some r =>
      show ((run (.done frames r) [.space, .op op]).bind settled) = _
      rw [stepped, hf.settle, behind]
      exact congrArg some (hf.settle 0 _)
  | some e =>
    rw [run_operand_of_negated hp, hf.admitsNegation]
    show ((run (.done (.negation :: frames) e) [.space, .op op]).bind settled) = _
    rw [stepped, settle_of_isTight tight, behind]
    exact congrArg some (hf.settle 0 _)

theorem heard_of_negated {p : Phrase} {e : Reading} (hp : p.negated? = some e) :
    p.heard = some (.unary .not e) := by
  obtain ⟨q, rfl, rfl⟩ := negated?_eq_some.1 hp
  rfl

section Binary

variable {op : Operator} {p q : Phrase}

theorem run_operator (hop : op.isUnary = false) (frames : List Frame) (x : Reading) :
    run (.done frames x) [.space, .op op, .space]
      = some (.due (.left (settle op.strength frames x).2 op
          :: (settle op.strength frames x).1)) := by
  have ne : op ≠ .not := by
    rintro rfl
    cases hop
  have behind (settled : List Frame × Reading) :
      follow op settled = some (.due (.left settled.2 op :: settled.1)) := by
    rw [follow, if_neg ne, if_neg (by rw [hop]; exact Bool.false_ne_true)]
  show (follow op (settle op.strength frames x)).bind _ = _
  rw [behind]
  rfl

/-- A left operand of an operator that binds more tightly than `NOT` is read without its own `NOT`,
which goes on waiting. -/
theorem run_left_of_negated (hop : op.isUnary = false) (tight : op.isTight = true)
    {e : Reading} (hp : p.negated? = some e) (hf : Outer frames) :
    run (.due frames) (p.operand ++ [.space, .op op, .space])
      = some (.due (.left e op :: .negation :: frames)) := by
  rw [run_append, run_operand_of_negated hp, hf.admitsNegation, if_pos rfl, Option.bind_some,
    run_operator hop, settle_of_isTight tight]

/-- Every other left operand is read as it is heard. -/
theorem run_left (hop : op.isUnary = false) (h : p.Read)
    (loose : op.isTight = true → p.negated? = none) (hf : Outer frames) :
    run (.due frames) (p.operand ++ [.space, .op op, .space])
      = p.heard.map fun a => .due (.left a op :: frames) := by
  rw [run_append]
  cases hp : p.negated? with
  | none =>
    rw [run_operand h hp hf.uncalled]
    cases p.heard with
    | none => rfl
    | some a =>
      rw [Option.map_some, Option.bind_some, run_operator hop, hf.settle]
      rfl
  | some e =>
    have le : op.strength ≤ Operator.not.strength := by
      by_contra gt
      have tight : op.isTight = true := by simpa [Operator.isTight] using gt
      cases hp.symm.trans (loose tight)
    have taken : settle op.strength (.negation :: frames) e = (frames, .unary .not e) := by
      rw [settle, if_pos le, hf.settle]
    rw [run_operand_of_negated hp, hf.admitsNegation, if_pos rfl, Option.bind_some,
      run_operator hop, taken, heard_of_negated hp]
    rfl

/-- A right operand is read as it is heard, except that nothing that begins with `NOT` is read
behind an operator that binds more tightly. -/
theorem run_right (h : q.Read) (a : Reading) :
    (run (.due (.left a op :: frames)) q.operand).bind settled
      = if op.isTight = true ∧ q.negated?.isSome then none
        else q.heard.map fun b => settle 0 frames (.binary op a b) := by
  have taken (b : Reading) :
      settle 0 (.left a op :: frames) b = settle 0 frames (.binary op a b) := by
    rw [settle, if_pos (Nat.zero_le _)]
  cases hq : q.negated? with
  | none =>
    have uncalled : Uncalled (.left a op :: frames) := trivial
    rw [run_operand h hq uncalled, if_neg (fun both => Bool.false_ne_true both.2)]
    cases q.heard with
    | none => rfl
    | some b => exact congrArg some (taken b)
  | some e =>
    rw [run_operand_of_negated hq, heard_of_negated hq]
    cases tight : op.isTight with
    | true => simp [admitsNegation, tight]
    | false =>
      have admitted : admitsNegation (.left a op :: frames) = true := by
        simp [admitsNegation, tight]
      rw [admitted, if_pos rfl, if_neg (fun both => Bool.false_ne_true both.1)]
      exact congrArg some (taken (.unary .not e))

theorem heard_binary_of_negated (tight : op.isTight = true) {e : Reading}
    (hp : p.negated? = some e) : (binary op p q).heard
      = if op.isTight = true ∧ q.negated?.isSome then none
        else q.heard.map fun b => .unary .not (.binary op e b) := by
  rw [heard, if_pos tight, hp]
  cases hq : q.negated? with
  | none => rw [if_neg (fun both => Bool.false_ne_true both.2)]
  | some _ => rw [if_pos ⟨tight, rfl⟩]

theorem heard_binary (loose : op.isTight = true → p.negated? = none) : (binary op p q).heard
      = if op.isTight = true ∧ q.negated?.isSome then none
        else p.heard.bind fun a => q.heard.map (.binary op a) := by
  rw [heard]
  by_cases tight : op.isTight = true
  · rw [if_pos tight, loose tight]
    cases hq : q.negated? with
    | none => rw [if_neg (fun both => Bool.false_ne_true both.2)]
    | some _ => rw [if_pos ⟨tight, rfl⟩]
  · rw [if_neg tight, if_neg (fun both => tight both.1)]

theorem Read.binary (hop : op.isUnary = false) (hx : p.Read) (hy : q.Read) :
    (binary op p q).Read := by
  intro frames hf
  have tokens : (Phrase.binary op p q).tokens
      = p.operand ++ [.space, .op op, .space] ++ q.operand := rfl
  rw [tokens, run_append]
  by_cases captured : op.isTight = true ∧ ∃ e, p.negated? = some e
  · obtain ⟨tight, e, hp⟩ := captured
    rw [run_left_of_negated hop tight hp hf, Option.bind_some, run_right hy,
      heard_binary_of_negated tight hp]
    have taken (b : Reading) : settle 0 (.negation :: frames) b = (frames, .unary .not b) := by
      rw [settle, if_pos (Nat.zero_le _), hf.settle]
    split
    · rfl
    · cases q.heard with
      | none => rfl
      | some b => exact congrArg some (taken _)
  · have loose (tight : op.isTight = true) : p.negated? = none :=
      Option.eq_none_iff_forall_ne_some.2 fun e hp => captured ⟨tight, e, hp⟩
    rw [run_left hop hx loose hf, heard_binary loose]
    cases p.heard with
    | none => split <;> rfl
    | some a =>
      rw [Option.map_some, Option.bind_some, run_right hy]
      split
      · rfl
      · cases q.heard with
        | none => rfl
        | some b => exact congrArg some (hf.settle 0 _)

end Binary

/-- **A phrase is read as it is heard**, wherever nothing waits for it. -/
theorem Of.read {x : Expr} {p : Phrase} (h : Of x p) : p.Read := by
  induction h with
  | column c qualifier column => exact .of_leaf rfl
  | value v => exact .of_leaf rfl
  | raw r => exact .of_leaf rfl
  | aggregate a qualifier column => exact .of_leaf rfl
  | subquery s q => exact .of_leaf rfl
  | keyword k q => exact .of_leaf rfl
  | @unary x p kind op hop _ ih =>
    by_cases hne : op = .not
    · rw [hne]
      exact ih.not
    · exact ih.trailing hop hne
  | binary kind hop _ _ ihx ihy => exact ihx.binary hop ihy

theorem ofTokens_eq_heard {p : Phrase} (h : p.Read) : ofTokens p.tokens = p.heard := by
  rw [ofTokens, h [] .whole]
  cases p.heard <;> rfl

/-! ## 4. Phrases that are heard as they are -/

/-- The operands of operators that bind more tightly than `NOT`. -/
def tightOperands : Phrase → List Phrase
  | unary op x => (if op.isTight then [x] else []) ++ x.tightOperands
  | binary op x y =>
    (if op.isTight then [x, y] else []) ++ x.tightOperands ++ y.tightOperands
  | _ => []

/-- A node with one operand is heard as it is if the operand is, and does not begin with `NOT` in
front of an operator that binds more tightly. -/
theorem heard_unary_eq_tree_iff {op : Operator} {x : Phrase} :
    (unary op x).heard = some (unary op x).tree
      ↔ x.heard = some x.tree ∧ (op.isTight = true → x.negated? = none) := by
  rw [heard, tree]
  by_cases tight : op.isTight = true
  · rw [if_pos tight]
    cases hx : x.negated? with
    | none => simp
    | some e =>
      have ne : op ≠ .not := ((Operator.isTight_iff op).1 tight).2.2
      simp [tight, ne.symm]
  · rw [if_neg tight]
    simp [tight]

theorem heard_binary_eq_tree_iff {op : Operator} {x y : Phrase} :
    (binary op x y).heard = some (binary op x y).tree ↔ x.heard = some x.tree ∧
      y.heard = some y.tree ∧ (op.isTight = true → x.negated? = none ∧ y.negated? = none) := by
  rw [heard, tree]
  by_cases tight : op.isTight = true
  · rw [if_pos tight]
    cases hx : x.negated? with
    | none =>
      cases hy : y.negated? with
      | none => simp [Option.bind_eq_some_iff]
      | some e => simp [tight]
    | some e =>
      cases hy : y.negated? with
      | none => simp [tight]
      | some e => simp [tight]
  · rw [if_neg tight]
    simp [tight, Option.bind_eq_some_iff]

/-- **A phrase is heard as it is** exactly if no operand of an operator that binds more tightly than
`NOT` begins with this word. -/
theorem heard_eq_tree_iff (p : Phrase) :
    p.heard = some p.tree ↔ ∀ q ∈ p.tightOperands, q.negated? = none := by
  induction p with
  | unary op x ih =>
    rw [heard_unary_eq_tree_iff, ih, tightOperands, List.forall_mem_append]
    cases op.isTight <;> simp [and_comm]
  | binary op x y ihx ihy =>
    rw [heard_binary_eq_tree_iff, ihx, ihy, tightOperands, List.forall_mem_append,
      List.forall_mem_append]
    cases op.isTight with
    | true =>
      simp only [true_imp_iff, if_true, List.forall_mem_cons, List.not_mem_nil, false_imp_iff]
      tauto
    | false => simp
  | field qualifier column => simp [heard, tightOperands]
  | value v => simp [heard, tightOperands]
  | enclosed q => simp [heard, tightOperands]
  | aggregate f qualifier column => simp [heard, tightOperands]
  | keyword word q => simp [heard, tightOperands]

end Phrase

end SqlSelect
