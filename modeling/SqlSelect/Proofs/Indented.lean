import SqlSelect.Proofs.Compact
/-!
# Indented trees are read back

A tree that was written over several lines is read again as it was, like one that was written on one
line: it has the same lexemes, and all that stands between them are blanks.

* `spaced_indented` -- a tree is written as its lexemes with blanks between them, in front of anything
  that is written so;
* `readWithin_pretty` -- the tree is read back, also with blanks behind it.
-/

namespace SqlSelect.Json

/-! ## 1. Lines -/

theorem blank_newline (depth : Nat) : Blank (newline depth).toList := by
  intro c hc
  rw [newline, String.toList_ofList, List.mem_cons, List.mem_replicate] at hc
  rcases hc with rfl | ⟨-, rfl⟩
  · decide
  · decide

/-- Blanks do not continue an integer. -/
theorem Blank.endsInteger {cs : List Char} (h : Blank cs) : EndsInteger cs := by
  intro c hc
  have space := h c (List.mem_of_mem_head? hc)
  simp only [isSpace, Bool.or_eq_true, beq_iff_eq] at space
  rcases space with ((rfl | rfl) | rfl) | rfl <;> decide

/-- Nor does a new line, whatever stands on it. -/
theorem endsInteger_newline (depth : Nat) (cs : List Char) :
    EndsInteger ((newline depth).toList ++ cs) := by
  rw [newline, String.toList_ofList]
  exact .cons (by decide) _

/-- Items with and without others behind them, in one equation. -/
theorem indentedItems_cons (depth : Nat) (d : Data) (rest : List Data) :
    indentedItems depth (d :: rest) = newline (depth + 1) ++ indented (depth + 1) d ++
      if rest = [] then "" else "," ++ indentedItems depth rest := by
  cases rest with
  | nil => simp [indentedItems]
  | cons e rest => simp [indentedItems, String.append_assoc]

/-- Members with and without others behind them, in one equation. -/
theorem indentedMembers_cons (depth : Nat) (key : String) (d : Data)
    (rest : List (String × Data)) :
    indentedMembers depth ((key, d) :: rest)
      = newline (depth + 1) ++ stringText key ++ ": " ++ indented (depth + 1) d ++
        if rest = [] then "" else "," ++ indentedMembers depth rest := by
  cases rest with
  | nil => simp [indentedMembers]
  | cons e rest => simp [indentedMembers, String.append_assoc]

/-! ## 2. Trees -/

/-- The name of a member with its colon and a space, in front of a value. -/
theorem Spaced.named {ls : List Lexeme} {cs : List Char} (key : String) (value : Spaced ls cs) :
    Spaced (.scalar (.text key) :: .colon :: ls)
      ((stringText key).toList ++ ((": " : String).toList ++ cs)) := by
  have space : Blank [' '] := List.forall_mem_singleton.2 rfl
  exact .single (l := .scalar (.text key)) (.cons (by decide) _)
    (.mark (l := .colon) rfl (value.blanks space))

mutual

/-- **A tree is written as its lexemes with blanks between them**, whatever is written so behind it. -/
theorem spaced_indented : (d : Data) → (depth : Nat) → {ls : List Lexeme} → {cs : List Char} →
    EndsInteger cs → Spaced ls cs → Spaced (lexemes d ++ ls) ((indented depth d).toList ++ cs)
  | .scalar v, depth, ls, cs, ends, behind => by
    rw [lexemes, indented]
    exact .single ends behind
  | .array [], depth, ls, cs, ends, behind => by
    rw [lexemes, itemLexemes, indented]
    exact .mark (l := .openBracket) rfl (.mark (l := .closeBracket) rfl behind)
  | .array (d :: others), depth, ls, cs, ends, behind => by
    have closed := (Spaced.mark (l := .closeBracket) rfl behind).blanks (blank_newline depth)
    have inside := spaced_indentedItems (d :: others) depth (endsInteger_newline depth _) closed
    have whole := Spaced.mark (l := .openBracket) rfl inside
    simpa [lexemes, indented, Lexeme.text] using whole
  | .object [], depth, ls, cs, ends, behind => by
    rw [lexemes, memberLexemes, indented]
    exact .mark (l := .openBrace) rfl (.mark (l := .closeBrace) rfl behind)
  | .object (m :: others), depth, ls, cs, ends, behind => by
    have closed := (Spaced.mark (l := .closeBrace) rfl behind).blanks (blank_newline depth)
    have inside := spaced_indentedMembers (m :: others) depth (endsInteger_newline depth _) closed
    have whole := Spaced.mark (l := .openBrace) rfl inside
    simpa [lexemes, indented, Lexeme.text] using whole

theorem spaced_indentedItems : (items : List Data) → (depth : Nat) → {ls : List Lexeme} →
    {cs : List Char} → EndsInteger cs → Spaced ls cs →
    Spaced (itemLexemes items ++ ls) ((indentedItems depth items).toList ++ cs)
  | [], depth, ls, cs, ends, behind => by
    rw [itemLexemes, indentedItems]
    exact behind
  | d :: others, depth, ls, cs, ends, behind => by
    rw [itemLexemes_cons, indentedItems_cons]
    split
    · have first := spaced_indented d (depth + 1) ends behind
      simpa using first.blanks (blank_newline (depth + 1))
    · have rest := Spaced.mark (l := .comma) rfl (spaced_indentedItems others depth ends behind)
      have first := spaced_indented d (depth + 1) (endsInteger_mark (l := .comma) rfl _) rest
      simpa [Lexeme.text] using first.blanks (blank_newline (depth + 1))

theorem spaced_indentedMembers : (members : List (String × Data)) → (depth : Nat) →
    {ls : List Lexeme} → {cs : List Char} → EndsInteger cs → Spaced ls cs →
    Spaced (memberLexemes members ++ ls) ((indentedMembers depth members).toList ++ cs)
  | [], depth, ls, cs, ends, behind => by
    rw [memberLexemes, indentedMembers]
    exact behind
  | (key, d) :: others, depth, ls, cs, ends, behind => by
    rw [memberLexemes_cons, indentedMembers_cons]
    split
    · have member := (spaced_indented d (depth + 1) ends behind).named key
      simpa using member.blanks (blank_newline (depth + 1))
    · have rest := Spaced.mark (l := .comma) rfl (spaced_indentedMembers others depth ends behind)
      have value := spaced_indented d (depth + 1) (endsInteger_mark (l := .comma) rfl _) rest
      simpa [Lexeme.text] using (value.named key).blanks (blank_newline (depth + 1))

end

/-- **A tree is read back from its indented text**, also with blanks behind it, if it is not nested too
deep. -/
theorem readWithin_pretty {limit : Nat} {d : Data} (exact : d.IsExact) (room : d.depth ≤ limit)
    {blanks : String} (hblanks : Blank blanks.toList) :
    readWithin limit (pretty d ++ blanks) = some d := by
  have spaced := spaced_indented d 0 hblanks.endsInteger (.nil hblanks)
  rw [List.append_nil, ← String.toList_append] at spaced
  exact readWithin_of_lex (spaced.lex (exact_lexemes d exact)) room

end SqlSelect.Json
