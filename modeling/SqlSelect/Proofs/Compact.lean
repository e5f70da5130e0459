import SqlSelect.Json.Printer
import SqlSelect.Json.Reader
import SqlSelect.Proofs.Lexing
/-!
# Trees are read back

A tree that was written on one line is read again as it was, if it holds no floating-point number and
is not nested too deep for the reader. The lexemes of a tree are taken from any state in which a value
may come, whatever brackets are open, and leave the tree in the innermost of them.

* `Data.scalars`, `Data.depth` -- the single values of a tree, and how deep its brackets are nested;
* `apart_lexemes`, `exact_lexemes` -- what is written of a tree can be cut into its lexemes again;
* `takes_lexemes` -- the machine takes the lexemes of a tree;
* `readWithin_of_lex`, `readWithin_compact` -- the tree is read back.
-/

namespace SqlSelect

/-! ## 1. Measures of a tree -/

namespace Data

mutual

/-- The single values of a tree, from left to right; the names of members are none. -/
def scalars : Data → List Value
  | .scalar v => [v]
  | .array items => itemScalars items
  | .object members => memberScalars members

/-- The single values of the items of a list. -/
def itemScalars : List Data → List Value
  | [] => []
  | d :: rest => scalars d ++ itemScalars rest

/-- The single values of the members of an object. -/
def memberScalars : List (String × Data) → List Value
  | [] => []
  | (_, d) :: rest => scalars d ++ memberScalars rest

end

mutual

/-- How deep the brackets of a tree are nested. -/
def depth : Data → Nat
  | .scalar _ => 0
  | .array items => itemDepth items + 1
  | .object members => memberDepth members + 1

/-- How deep the brackets in the items of a list are nested. -/
def itemDepth : List Data → Nat
  | [] => 0
  | d :: rest => max (depth d) (itemDepth rest)

/-- How deep the brackets in the members of an object are nested. -/
def memberDepth : List (String × Data) → Nat
  | [] => 0
  | (_, d) :: rest => max (depth d) (memberDepth rest)

end

/-- The tree holds no floating-point number. -/
def IsExact (d : Data) : Prop := ∀ v ∈ d.scalars, v.isFloat = false

end Data

namespace Json

/-! ## 2. The lexemes of a tree -/

/-- The kind of lexeme a tree begins with. -/
def opener : Data → Lexeme
  | .scalar v => .scalar v
  | .array _ => .openBracket
  | .object _ => .openBrace

theorem lexemes_eq_cons (d : Data) : ∃ ls, lexemes d = opener d :: ls := by
  cases d with
  | scalar v => exact ⟨[], by rw [lexemes, opener]⟩
  | array items => exact ⟨_, by rw [lexemes, opener, List.cons_append]⟩
  | object members => exact ⟨_, by rw [lexemes, opener, List.cons_append]⟩

/-- Items with and without others behind them, in one equation. -/
theorem itemLexemes_cons (d : Data) (rest : List Data) :
    itemLexemes (d :: rest)
      = lexemes d ++ if rest = [] then [] else .comma :: itemLexemes rest := by
  cases rest with
  | nil => simp [itemLexemes]
  | cons e rest => simp [itemLexemes]

/-- Members with and without others behind them, in one equation. -/
theorem memberLexemes_cons (key : String) (d : Data) (rest : List (String × Data)) :
    memberLexemes ((key, d) :: rest)
      = .scalar (.text key) :: .colon :: (lexemes d
        ++ if rest = [] then [] else .comma :: memberLexemes rest) := by
  cases rest with
  | nil => simp [memberLexemes]
  | cons e rest => simp [memberLexemes]

mutual

theorem exact_lexemes : (d : Data) → d.IsExact → ∀ l ∈ lexemes d, l.IsExact
  | .scalar v, exact => by
    simpa [lexemes, Lexeme.IsExact, Data.IsExact, Data.scalars] using exact
  | .array items, exact => by
    have inside := exact_itemLexemes items fun v hv => exact v (by rwa [Data.scalars])
    simpa [lexemes, Lexeme.IsExact, or_imp, forall_and] using inside
  | .object members, exact => by
    have inside := exact_memberLexemes members fun v hv => exact v (by rwa [Data.scalars])
    simpa [lexemes, Lexeme.IsExact, or_imp, forall_and] using inside

theorem exact_itemLexemes : (items : List Data) →
    (∀ v ∈ Data.itemScalars items, v.isFloat = false) → ∀ l ∈ itemLexemes items, l.IsExact
  | [], _ => by simp [itemLexemes]
  | d :: rest, exact => by
    simp only [Data.itemScalars, List.mem_append, or_imp, forall_and] at exact
    have first := exact_lexemes d exact.1
    have others := exact_itemLexemes rest exact.2
    rw [itemLexemes_cons]
    split <;> simp_all [Lexeme.IsExact, or_imp]

theorem exact_memberLexemes : (members : List (String × Data)) →
    (∀ v ∈ Data.memberScalars members, v.isFloat = false) →
    ∀ l ∈ memberLexemes members, l.IsExact
  | [], _ => by simp [memberLexemes]
  | (key, d) :: rest, exact => by
    simp only [Data.memberScalars, List.mem_append, or_imp, forall_and] at exact
    have first := exact_lexemes d exact.1
    have others := exact_memberLexemes rest exact.2
    rw [memberLexemes_cons]
    split <;> simp_all [Lexeme.IsExact, or_imp]

end

/-- The sequence is empty or begins with a bracket or a separator. -/
def BeginsWithMark (ls : List Lexeme) : Prop := ∀ l ∈ ls.head?, l.isMark = true

theorem Apart.cons {l : Lexeme} {ls : List Lexeme}
    (h : ∀ m ∈ ls.head?, l.isMark = true ∨ m.isMark = true) (apart : Apart ls) : Apart (l :: ls) := by
  cases ls with
  | nil => exact .singleton l
  | cons m ls => exact .cons_cons (h m rfl) apart

theorem Apart.mark {l : Lexeme} {ls : List Lexeme} (mark : l.isMark = true) (apart : Apart ls) :
    Apart (l :: ls) :=
  apart.cons fun _ _ => .inl mark

theorem Apart.single {l : Lexeme} {ls : List Lexeme} (begins : BeginsWithMark ls)
    (apart : Apart ls) : Apart (l :: ls) :=
  apart.cons fun m hm => .inr (begins m hm)

theorem BeginsWithMark.cons {l : Lexeme} (mark : l.isMark = true) (ls : List Lexeme) :
    BeginsWithMark (l :: ls) := by
  intro m hm
  cases hm
  exact mark

mutual

theorem apart_lexemes_append : (d : Data) → {rest : List Lexeme} → BeginsWithMark rest →
    Apart rest → Apart (lexemes d ++ rest)
  | .scalar v, rest, begins, apart => by
    rw [lexemes]
    exact .single begins apart
  | .array items, rest, begins, apart => by
    have closed : Apart (.closeBracket :: rest) := .mark rfl apart
    rw [lexemes, List.cons_append, List.cons_append, List.append_assoc]
    exact .mark rfl (apart_itemLexemes_append items (.cons rfl rest) closed)
  | .object members, rest, begins, apart => by
    have closed : Apart (.closeBrace :: rest) := .mark rfl apart
    rw [lexemes, List.cons_append, List.cons_append, List.append_assoc]
    exact .mark rfl (apart_memberLexemes_append members (.cons rfl rest) closed)

theorem apart_itemLexemes_append : (items : List Data) → {rest : List Lexeme} →
    BeginsWithMark rest → Apart rest → Apart (itemLexemes items ++ rest)
  | [], rest, begins, apart => by
    rw [itemLexemes]
    exact apart
  | d :: others, rest, begins, apart => by
    have behind := apart_itemLexemes_append others begins apart
    rw [itemLexemes_cons, List.append_assoc]
    split
    · exact apart_lexemes_append d begins apart
    · exact apart_lexemes_append d (.cons rfl _) (.mark rfl behind)

theorem apart_memberLexemes_append : (members : List (String × Data)) → {rest : List Lexeme} →
    BeginsWithMark rest → Apart rest → Apart (memberLexemes members ++ rest)
  | [], rest, begins, apart => by
    rw [memberLexemes]
    exact apart
  | (key, d) :: others, rest, begins, apart => by
    have behind := apart_memberLexemes_append others begins apart
    rw [memberLexemes_cons, List.cons_append, List.cons_append, List.append_assoc]
    refine .single (.cons rfl _) (.mark rfl ?_)
    split
    · exact apart_lexemes_append d begins apart
    · exact apart_lexemes_append d (.cons rfl _) (.mark rfl behind)

end

/-- Between two single values of a tree there is a bracket or a separator. -/
theorem apart_lexemes (d : Data) : Apart (lexemes d) := by
  have whole : Apart (lexemes d ++ []) := apart_lexemes_append d (fun l hl => by cases hl) .nil
  rwa [List.append_nil] at whole

/-- **The text of a tree is cut into its lexemes again.** -/
theorem lex_compact {d : Data} (exact : d.IsExact) : lex (compact d) = some (lexemes d) :=
  lex_join (apart_lexemes d) (exact_lexemes d exact)

/-! ## 3. The machine -/

/-- The machine gets from one state to another by taking the lexemes. -/
def Takes (limit : Nat) (s : State) (ls : List Lexeme) (s' : State) : Prop :=
  ls.foldlM (State.step limit) s = some s'

section Machine

variable {limit : Nat} {s s₁ s' : State} {l : Lexeme} {ls ls' : List Lexeme}

theorem Takes.nil : Takes limit s [] s := rfl

theorem Takes.cons (first : State.step limit s l = some s₁) (others : Takes limit s₁ ls s') :
    Takes limit s (l :: ls) s' := by
  rw [Takes, List.foldlM_cons, first]
  exact others

theorem Takes.append (first : Takes limit s ls s₁) (others : Takes limit s₁ ls' s') :
    Takes limit s (ls ++ ls') s' := by
  rw [Takes, List.foldlM_append, show ls.foldlM _ s = some s₁ from first]
  exact others

theorem Takes.one (h : State.step limit s l = some s') : Takes limit s [l] s' := .cons h .nil

end Machine

/-- Behind an opening bracket a value is taken as anywhere else. -/
theorem takes_valueOrClose {limit : Nat} {d : Data} {ls : List Lexeme} {stack : List Frame}
    {s : State} (h : Takes limit { stack, expected := .value } (lexemes d ++ ls) s) :
    Takes limit { stack, expected := .valueOrClose } (lexemes d ++ ls) s := by
  obtain ⟨others, written⟩ := lexemes_eq_cons d
  rw [written, List.cons_append] at h ⊢
  have same : State.step limit { stack, expected := .valueOrClose } (opener d)
      = State.step limit { stack, expected := .value } (opener d) := by
    cases d <;> rcases stack with - | ⟨- | -, stack⟩ <;> rfl
  rwa [Takes, List.foldlM_cons, same]

theorem opening_of_lt {limit : Nat} {stack : List Frame} (room : stack.length < limit)
    (frame : Frame) (expected : Expected) :
    State.opening limit frame expected stack = some { stack := frame :: stack, expected } :=
  if_pos room

theorem step_closeBracket (limit : Nat) (items : List Data) (stack : List Frame) :
    State.step limit { stack := .array items :: stack, expected := .separator } .closeBracket
      = some (State.complete (.array items.reverse) stack) := rfl

theorem step_closeBrace (limit : Nat) (members : List (String × Data)) (key : String)
    (stack : List Frame) :
    State.step limit { stack := .object members key :: stack, expected := .separator } .closeBrace
      = some (State.complete (.object members.reverse) stack) := rfl

mutual

/-- **The machine takes the lexemes of a tree**, inside any brackets that leave room for its own. -/
theorem takes_lexemes (limit : Nat) : (d : Data) → (stack : List Frame) →
    stack.length + d.depth ≤ limit →
    Takes limit { stack, expected := .value } (lexemes d) (State.complete d stack)
  | .scalar v, stack, _ => by
    rw [lexemes]
    exact .one rfl
  | .array items, stack, room => by
    rw [Data.depth] at room
    have below : stack.length < limit := by omega
    rw [lexemes, List.cons_append]
    refine .cons (opening_of_lt below _ _) ?_
    cases items with
    | nil => exact .one rfl
    | cons d others =>
      have inside := takes_itemLexemes limit (d :: others) (List.cons_ne_nil d others) [] stack
        (by omega)
      rw [List.append_nil] at inside
      have close : State.step limit
          { stack := .array (d :: others).reverse :: stack, expected := .separator } .closeBracket
          = some (State.complete (.array (d :: others)) stack) := by
        rw [step_closeBracket, List.reverse_reverse]
      rw [itemLexemes_cons] at inside ⊢
      exact (takes_valueOrClose inside).append (.one close)
  | .object members, stack, room => by
    rw [Data.depth] at room
    have below : stack.length < limit := by omega
    rw [lexemes, List.cons_append]
    refine .cons (opening_of_lt below _ _) ?_
    cases members with
    | nil => exact .one rfl
    | cons m others =>
      obtain ⟨last, inside⟩ := takes_memberLexemes limit (m :: others) (List.cons_ne_nil m others)
        [] "" stack (by omega)
      rw [List.append_nil] at inside
      have close : State.step limit
          { stack := .object (m :: others).reverse last :: stack, expected := .separator } .closeBrace
          = some (State.complete (.object (m :: others)) stack) := by
        rw [step_closeBrace, List.reverse_reverse]
      rw [memberLexemes_cons] at inside ⊢
      exact Takes.append inside (.one close)

theorem takes_itemLexemes (limit : Nat) : (items : List Data) → items ≠ [] →
    (done : List Data) → (stack : List Frame) →
    stack.length + 1 + Data.itemDepth items ≤ limit →
    Takes limit { stack := .array done :: stack, expected := .value } (itemLexemes items)
      { stack := .array (items.reverse ++ done) :: stack, expected := .separator }
  | [], ne, _, _, _ => absurd rfl ne
  | d :: others, _, done, stack, room => by
    rw [Data.itemDepth] at room
    have first := takes_lexemes limit d (.array done :: stack) (by rw [List.length_cons]; omega)
    rw [itemLexemes_cons]
    split
    · next none =>
      subst none
      rw [List.append_nil]
      exact first
    · next some =>
      have behind := takes_itemLexemes limit others some (d :: done) stack (by omega)
      rw [List.reverse_cons, List.append_assoc]
      exact first.append (.cons rfl behind)

theorem takes_memberLexemes (limit : Nat) : (members : List (String × Data)) → members ≠ [] →
    (done : List (String × Data)) → (last : String) → (stack : List Frame) →
    stack.length + 1 + Data.memberDepth members ≤ limit →
    ∃ last', Takes limit { stack := .object done last :: stack, expected := .key }
      (memberLexemes members)
      { stack := .object (members.reverse ++ done) last' :: stack, expected := .separator }
  | [], ne, _, _, _, _ => absurd rfl ne
  | (key, d) :: others, _, done, last, stack, room => by
    rw [Data.memberDepth] at room
    have first := takes_lexemes limit d (.object done key :: stack)
      (by rw [List.length_cons]; omega)
    rw [memberLexemes_cons]
    split
    · next none =>
      subst none
      rw [List.append_nil]
      exact ⟨key, .cons rfl (.cons rfl first)⟩
    · next some =>
      obtain ⟨last', behind⟩ := takes_memberLexemes limit others some ((key, d) :: done) key stack
        (by omega)
      rw [List.reverse_cons, List.append_assoc]
      exact ⟨last', .cons rfl (.cons rfl (first.append (.cons rfl behind)))⟩

end

/-- A text that has the lexemes of a tree holds the tree, if it is not nested too deep. -/
theorem readWithin_of_lex {limit : Nat} {d : Data} {s : String} (h : lex s = some (lexemes d))
    (room : d.depth ≤ limit) : readWithin limit s = some d := by
  have taken := takes_lexemes limit d [] (by rw [List.length_nil]; omega)
  rw [readWithin, h]
  show ((lexemes d).foldlM (State.step limit) .start).bind State.result? = some d
  rw [show (lexemes d).foldlM (State.step limit) .start = some _ from taken]
  rfl

/-- **A tree is read back from its compact text**, if it is not nested too deep. -/
theorem readWithin_compact {limit : Nat} {d : Data} (exact : d.IsExact) (room : d.depth ≤ limit) :
    readWithin limit (compact d) = some d :=
  readWithin_of_lex (lex_compact exact) room

end Json

end SqlSelect
