import Mathlib.Data.List.Basic
import SqlSelect.Json.Lexeme
/-!
# Lexemes are read back

A lexeme that was written is read again, whatever stands behind it; only behind an integer no digit,
point or exponent may follow, for it would belong to the integer. A floating-point number may be read
as its neighbour, so nothing is said of lexemes that hold one.

* `read?_intDigits`, `value?_ofInt` -- the digits of an integer are one literal, which stands for
  the integer;
* `character?_escaped`, `stringTail?_escaped` -- each character of a string is undone by one step of the
  reader;
* `lexeme?_text` -- one lexeme;
* `Spaced.lexWithin` -- several lexemes with blanks around them;
* `lex_join` -- several lexemes with nothing between them, no two single values side by side.
-/

namespace SqlSelect

/-- The value is a floating-point number. -/
def Value.isFloat : Value → Bool
  | .float _ => true
  | _ => false

@[simp] theorem Value.isFloat_null : Value.null.isFloat = false := rfl

@[simp] theorem Value.isFloat_int (n : Int64) : (Value.int n).isFloat = false := rfl

@[simp] theorem Value.isFloat_text (s : String) : (Value.text s).isFloat = false := rfl

namespace Json

/-! ## 1. Integers -/

/-- The text does not continue an integer. -/
def EndsInteger (cs : List Char) : Prop :=
  ∀ c ∈ cs.head?, c.isDigit = false ∧ c ≠ '.' ∧ c ≠ 'e' ∧ c ≠ 'E'

theorem endsInteger_nil : EndsInteger [] := by
  intro c h
  cases h

theorem EndsInteger.cons {c : Char} (h : c.isDigit = false ∧ c ≠ '.' ∧ c ≠ 'e' ∧ c ≠ 'E')
    (rest : List Char) : EndsInteger (c :: rest) := by
  intro d hd
  cases hd
  exact h

theorem isDigit_of_mem_toDigits {n : Nat} {c : Char} (h : c ∈ Nat.toDigits 10 n) :
    c.isDigit = true :=
  Nat.isDigit_of_mem_toDigits (by decide) (by decide) h

/-- Only zero is written with a zero in front. -/
theorem head?_toDigits_ne_zero {n : Nat} (h : n ≠ 0) : (Nat.toDigits 10 n).head? ≠ some '0' := by
  induction n using Nat.strongRecOn with
  | _ n ih =>
    by_cases small : n < 10
    · rw [Nat.toDigits_of_lt_base small, List.head?_cons, ne_eq, Option.some.injEq,
        Nat.digitChar_eq_zero]
      exact h
    · have shorter : n / 10 < n := by omega
      have positive : n / 10 ≠ 0 := by omega
      rw [Nat.toDigits_of_base_le (by decide) (by omega), List.head?_append_of_ne_nil _ Nat.toDigits_ne_nil]
      exact ih (n / 10) shorter positive

namespace Literal

theorem digits?_append {ds rest : List Char} (hds : ∀ c ∈ ds, c.isDigit = true) (hne : ds ≠ [])
    (hrest : EndsInteger rest) : digits? (ds ++ rest) = some (ds, rest) := by
  have stop : rest.takeWhile Char.isDigit = [] ∧ rest.dropWhile Char.isDigit = rest := by
    cases rest with
    | nil => exact ⟨rfl, rfl⟩
    | cons c rest =>
      have hc := (hrest c rfl).1
      simp [hc]
  unfold digits?
  rw [List.takeWhile_append_of_pos hds, List.dropWhile_append_of_pos hds, stop.1, stop.2,
    List.append_nil]
  cases ds with
  | nil => exact absurd rfl hne
  | cons d ds => rfl

theorem whole?_toDigits (n : Nat) {rest : List Char} (hrest : EndsInteger rest) :
    whole? (Nat.toDigits 10 n ++ rest) = some (Nat.toDigits 10 n, rest) := by
  by_cases h : n = 0
  · subst h
    rw [Nat.toDigits_zero]
    rfl
  · have read := digits?_append (fun _ => isDigit_of_mem_toDigits) (Nat.toDigits_ne_nil (n := n)) hrest
    have first := head?_toDigits_ne_zero h
    cases hds : Nat.toDigits 10 n with
    | nil => exact absurd hds Nat.toDigits_ne_nil
    | cons d ds =>
      rw [hds] at read first
      rw [← read]
      unfold whole?
      split
      · next e =>
        obtain ⟨rfl, -⟩ := List.cons.inj e
        exact absurd rfl first
      · rfl

/-- The literal that an integer is written as. -/
def ofInt (n : Int64) : Literal where
  negative := n.toInt < 0
  whole := Nat.toDigits 10 n.toInt.natAbs
  fraction := none
  exponent := none

theorem unsigned?_toDigits (negative : Bool) (n : Nat) {rest : List Char} (hrest : EndsInteger rest) :
    unsigned? negative (Nat.toDigits 10 n ++ rest)
      = some ({ negative, whole := Nat.toDigits 10 n, fraction := none, exponent := none }, rest) := by
  have noFraction : fraction? rest = some (none, rest) := by
    unfold fraction?
    split
    · exact absurd rfl (hrest '.' rfl).2.1
    · rfl
  have noExponent : exponent? rest = some (none, rest) := by
    unfold exponent?
    split
    · exact absurd rfl (hrest 'e' rfl).2.2.1
    · exact absurd rfl (hrest 'E' rfl).2.2.2
    · rfl
  simp only [unsigned?, whole?_toDigits n hrest, noFraction, noExponent, bind, Option.bind_some]

/-- **The digits of an integer are read as one literal.** -/
theorem read?_intDigits (n : Int64) {rest : List Char} (hrest : EndsInteger rest) :
    read? (Value.intDigits n ++ rest) = some (ofInt n, rest) := by
  by_cases negative : n.toInt < 0
  · simp only [Value.intDigits, negative, if_true, List.cons_append, read?, ofInt, decide_true]
    exact unsigned?_toDigits true _ hrest
  · simp only [Value.intDigits, negative, if_false, ofInt, decide_false]
    rw [← unsigned?_toDigits false _ hrest]
    unfold read?
    split
    · next e =>
      have digit : '-' ∈ Nat.toDigits 10 n.toInt.natAbs := by
        cases hds : Nat.toDigits 10 n.toInt.natAbs with
        | nil => exact absurd hds Nat.toDigits_ne_nil
        | cons d ds =>
          rw [hds] at e
          obtain ⟨rfl, -⟩ := List.cons.inj e
          exact List.mem_cons_self
      exact absurd (isDigit_of_mem_toDigits digit) (by decide)
    · rfl

/-- **The literal of an integer stands for the integer.** -/
theorem value?_ofInt (n : Int64) : (ofInt n).value? = some (.int n) := by
  have low : -(2 : Int) ^ 63 ≤ n.toInt := n.le_toInt
  have high : n.toInt < (2 : Int) ^ 63 := n.toInt_lt
  simp only [value?, ofInt, Nat.ofDigitChars_ten_toDigits, ofNat]
  rw [if_pos (by omega)]
  by_cases negative : n.toInt < 0
  · have magnitude : -(n.toInt.natAbs : Int) = n.toInt := by omega
    simp only [negative, decide_true, if_true, magnitude, Int64.ofInt_toInt]
    rw [if_pos (by omega)]
  · have magnitude : (n.toInt.natAbs : Int) = n.toInt := by omega
    simp only [negative, decide_false, Bool.false_eq_true, if_false]
    rw [if_pos (by omega), ← Int64.ofInt_eq_ofNat, magnitude, Int64.ofInt_toInt]

end Literal

/-! ## 2. Strings -/

/-- The escape of a control character names it by its number. -/
theorem hexUnit?_control : ∀ n < 0x20,
    hexUnit? '0' '0' (Nat.digitChar (n / 16)) (Nat.digitChar (n % 16)) = some n := by
  decide

/-- **One step of the reader undoes what a character is written as.** -/
theorem character?_escaped (c : Char) (rest : List Char) :
    character? (escaped c ++ rest) = some (c, rest) := by
  unfold escaped
  split
  · next h => subst h; rfl
  split
  · next h => subst h; rfl
  split
  · next h => subst h; rfl
  split
  · next h => subst h; rfl
  split
  · next h => subst h; rfl
  split
  · next h => subst h; rfl
  split
  · next h => subst h; rfl
  split
  · next control =>
    have unit := hexUnit?_control c.toNat control
    have noSurrogate : ¬ (0xD800 ≤ c.toNat ∧ c.toNat ≤ 0xDBFF) ∧ ¬ (0xDC00 ≤ c.toNat ∧ c.toNat ≤ 0xDFFF) := by
      omega
    simp only [List.cons_append, List.nil_append, character?, unicodeEscape?, unit, bind, Option.bind_some,
      if_neg noSurrogate.1, if_neg noSurrogate.2, Char.ofNat_toNat]
  · next noBackslash _ _ _ _ _ printed =>
    have plain : ¬ (c.toNat < 0x20 ∨ c = '\\') := not_or.2 ⟨printed, noBackslash⟩
    simp only [List.cons_append, List.nil_append]
    unfold character?
    split
    · next e => exact absurd (List.cons.inj e).1 noBackslash
    · next e => exact absurd (List.cons.inj e).1 noBackslash
    · next e =>
      obtain ⟨rfl, rfl⟩ := List.cons.inj e
      rw [if_neg plain]
    · next e => cases e

/-- No character is written with a quote in front. -/
theorem escaped_eq_cons (c : Char) : ∃ d ds, escaped c = d :: ds ∧ d ≠ '"' := by
  unfold escaped
  by_cases quote : c = '"'
  · exact ⟨'\\', ['"'], if_pos quote, by decide⟩
  · rw [if_neg quote]
    split_ifs
    case neg => exact ⟨c, [], rfl, quote⟩
    all_goals exact ⟨'\\', _, rfl, by decide⟩

/-- **The inside of a string is read up to the closing quote.** -/
theorem stringTail?_escaped (cs rest : List Char) :
    stringTail? (cs.flatMap escaped ++ '"' :: rest) = some (cs, rest) := by
  induction cs with
  | nil => rw [List.flatMap_nil, List.nil_append, stringTail?]
  | cons c cs ih =>
    have read := character?_escaped c (cs.flatMap escaped ++ '"' :: rest)
    obtain ⟨d, ds, written, noQuote⟩ := escaped_eq_cons c
    rw [List.flatMap_cons, List.append_assoc, stringTail?]
    · split
      · next e => cases read.symm.trans e
      · next e =>
        cases read.symm.trans e
        rw [ih]
        rfl
    · rw [written]
      exact fun more e => noQuote (List.cons.inj e).1

/-! ## 3. Lexemes -/

namespace Lexeme

/-- The lexeme is a bracket or a separator. -/
def isMark : Lexeme → Bool
  | scalar _ => false
  | _ => true

/-- The lexeme holds no floating-point number. -/
def IsExact : Lexeme → Prop
  | scalar v => v.isFloat = false
  | _ => True

end Lexeme

/-- An integer begins with a digit or a sign. -/
theorem intDigits_eq_cons (n : Int64) :
    ∃ c cs, Value.intDigits n = c :: cs ∧ (c.isDigit = true ∨ c = '-') := by
  unfold Value.intDigits
  by_cases negative : n.toInt < 0
  · exact ⟨'-', Nat.toDigits 10 n.toInt.natAbs, if_pos negative, .inr rfl⟩
  · simp only [negative, if_false]
    cases hds : Nat.toDigits 10 n.toInt.natAbs with
    | nil => exact absurd hds Nat.toDigits_ne_nil
    | cons d ds => exact ⟨d, ds, rfl, .inl (isDigit_of_mem_toDigits (hds ▸ List.mem_cons_self))⟩

/-- What begins like an integer is neither a blank nor another lexeme. -/
theorem lexeme?_of_number {c : Char} (h : c.isDigit = true ∨ c = '-') (cs : List Char) :
    isSpace c = false ∧ lexeme? (c :: cs)
      = (Literal.read? (c :: cs)).bind fun r => r.1.value?.bind fun v => some (.scalar v, r.2) := by
  have apart : ∀ d : Char, d.isDigit = false → d ≠ '-' → c ≠ d := by
    rintro d noDigit noSign rfl
    rcases h with digit | sign
    · exact absurd digit (by simp [noDigit])
    · exact noSign sign
  constructor
  · simp [isSpace, apart]
  · unfold lexeme?
    split
    case h_11 => rfl
    all_goals
      next e => exact absurd (List.cons.inj e).1 (apart _ (by decide) (by decide))

theorem toList_text_text (s : String) :
    (Lexeme.scalar (.text s)).text.toList = '"' :: (s.toList.flatMap escaped ++ ['"']) := by
  simp [Lexeme.text, scalarText, stringText]

/-- **A lexeme is read back**, whatever stands behind it; behind an integer it must not continue it. -/
theorem lexeme?_text {l : Lexeme} (hl : l.IsExact) {rest : List Char}
    (hrest : l.isMark = false → EndsInteger rest) :
    lexeme? (l.text.toList ++ rest) = some (l, rest) := by
  cases l with
  | scalar v =>
    have ends := hrest rfl
    cases v with
    | null => rfl
    | bool b => cases b <;> rfl
    | int n =>
      obtain ⟨c, cs, written, first⟩ := intDigits_eq_cons n
      have read := Literal.read?_intDigits n ends
      rw [written, List.cons_append] at read
      have text : (Lexeme.scalar (.int n)).text.toList = c :: cs := by
        simp [Lexeme.text, scalarText, written]
      rw [text, List.cons_append, (lexeme?_of_number first _).2, read]
      simp only [Option.bind_some, Literal.value?_ofInt]
    | float x => cases hl
    | text s =>
      have inside := stringTail?_escaped s.toList rest
      simp only [toList_text_text, List.cons_append, List.append_assoc, List.nil_append, lexeme?, inside,
        Option.map_some, String.ofList_toList]
  | openBrace => rfl
  | closeBrace => rfl
  | openBracket => rfl
  | closeBracket => rfl
  | comma => rfl
  | colon => rfl

/-- What is written of a lexeme does not begin with a blank. -/
theorem text_eq_cons {l : Lexeme} (hl : l.IsExact) :
    ∃ c cs, l.text.toList = c :: cs ∧ isSpace c = false := by
  cases l with
  | scalar v =>
    cases v with
    | null => exact ⟨_, _, rfl, by decide⟩
    | bool b => cases b <;> exact ⟨_, _, rfl, by decide⟩
    | int n =>
      obtain ⟨c, cs, written, first⟩ := intDigits_eq_cons n
      exact ⟨c, cs, by simp [Lexeme.text, scalarText, written], (lexeme?_of_number first cs).1⟩
    | float x => cases hl
    | text s => exact ⟨_, _, toList_text_text s, by decide⟩
  | openBrace => exact ⟨_, _, rfl, by decide⟩
  | closeBrace => exact ⟨_, _, rfl, by decide⟩
  | openBracket => exact ⟨_, _, rfl, by decide⟩
  | closeBracket => exact ⟨_, _, rfl, by decide⟩
  | comma => exact ⟨_, _, rfl, by decide⟩
  | colon => exact ⟨_, _, rfl, by decide⟩

/-! ## 4. Sequences of lexemes -/

/-- A bracket or a separator does not continue an integer. -/
theorem endsInteger_mark {l : Lexeme} (h : l.isMark = true) (rest : List Char) :
    EndsInteger (l.text.toList ++ rest) := by
  cases l with
  | scalar v => cases h
  | openBrace => exact .cons (by decide) rest
  | closeBrace => exact .cons (by decide) rest
  | openBracket => exact .cons (by decide) rest
  | closeBracket => exact .cons (by decide) rest
  | comma => exact .cons (by decide) rest
  | colon => exact .cons (by decide) rest

/-- **One step of the reader**: blanks are passed over and the lexeme behind them is taken. -/
theorem lexWithin_succ {l : Lexeme} (hl : l.IsExact) {blanks rest : List Char}
    (hblanks : ∀ c ∈ blanks, isSpace c = true) (hrest : l.isMark = false → EndsInteger rest)
    (fuel : Nat) :
    lexWithin (fuel + 1) (blanks ++ (l.text.toList ++ rest)) = (lexWithin fuel rest).map (l :: ·) := by
  obtain ⟨c, cs, written, noBlank⟩ := text_eq_cons hl
  have read := lexeme?_text hl hrest
  rw [written, List.cons_append] at read
  simp only [lexWithin, List.dropWhile_append_of_pos hblanks, written, List.cons_append,
    List.dropWhile_cons_of_neg (Bool.eq_false_iff.1 noBlank), read, bind, Option.bind_some,
    Option.map_eq_bind]
  rfl

/-- The text consists of blanks. -/
def Blank (cs : List Char) : Prop := ∀ c ∈ cs, isSpace c = true

theorem blank_nil : Blank [] := List.forall_mem_nil _

theorem Blank.append {cs ds : List Char} (hc : Blank cs) (hd : Blank ds) : Blank (cs ++ ds) :=
  List.forall_mem_append.2 ⟨hc, hd⟩

/-- The text consists of the lexemes, with blanks before each and behind the last. What follows a
single value does not continue an integer. -/
inductive Spaced : List Lexeme → List Char → Prop
  | nil {blanks : List Char} (h : Blank blanks) : Spaced [] blanks
  | cons {l : Lexeme} {ls : List Lexeme} {blanks cs : List Char} (h : Blank blanks)
    (ends : l.isMark = false → EndsInteger cs) (others : Spaced ls cs) :
    Spaced (l :: ls) (blanks ++ (l.text.toList ++ cs))

namespace Spaced

variable {l : Lexeme} {ls : List Lexeme} {cs : List Char}

theorem mark (h : l.isMark = true) (others : Spaced ls cs) :
    Spaced (l :: ls) (l.text.toList ++ cs) :=
  .cons blank_nil (fun single => absurd h (Bool.eq_false_iff.1 single)) others

theorem single (ends : EndsInteger cs) (others : Spaced ls cs) :
    Spaced (l :: ls) (l.text.toList ++ cs) :=
  .cons blank_nil (fun _ => ends) others

/-- More blanks can stand in front. -/
theorem blanks {bs : List Char} (hb : Blank bs) (h : Spaced ls cs) : Spaced ls (bs ++ cs) := by
  cases h with
  | nil hc => exact .nil (hb.append hc)
  | cons hc ends others =>
    rw [← List.append_assoc]
    exact .cons (hb.append hc) ends others

/-- **A sequence of lexemes is read back**, with any blanks around them. -/
theorem lexWithin (h : Spaced ls cs) (exact : ∀ l ∈ ls, l.IsExact) {fuel : Nat}
    (enough : ls.length < fuel) : Json.lexWithin fuel cs = some ls := by
  induction h generalizing fuel with
  | @nil blanks hb =>
    cases fuel with
    | zero => cases enough
    | succ fuel =>
      have passed : blanks.dropWhile isSpace = [] := by
        rw [← List.append_nil blanks, List.dropWhile_append_of_pos hb, List.dropWhile_nil]
      rw [Json.lexWithin, passed]
  | @cons l ls blanks cs hb ends others ih =>
    cases fuel with
    | zero => cases enough
    | succ fuel =>
      rw [lexWithin_succ (exact l List.mem_cons_self) hb ends,
        ih (fun m hm => exact m (List.mem_cons_of_mem l hm)) (Nat.lt_of_succ_lt_succ enough)]
      rfl

/-- Every lexeme takes a character at least. -/
theorem length_le (h : Spaced ls cs) (exact : ∀ l ∈ ls, l.IsExact) : ls.length ≤ cs.length := by
  induction h with
  | nil hb => exact Nat.zero_le _
  | @cons l ls blanks cs hb ends others ih =>
    obtain ⟨c, text, written, -⟩ := text_eq_cons (exact l List.mem_cons_self)
    have behind := ih fun m hm => exact m (List.mem_cons_of_mem l hm)
    simp only [written, List.length_append, List.length_cons]
    omega

theorem lex {s : String} (h : Spaced ls s.toList) (exact : ∀ l ∈ ls, l.IsExact) :
    Json.lex s = some ls :=
  h.lexWithin exact (Nat.lt_succ_of_le (h.length_le exact))

end Spaced

/-- No two single values stand side by side. -/
def Apart (ls : List Lexeme) : Prop := ls.IsChain fun a b => a.isMark = true ∨ b.isMark = true

/-- Such lexemes need no blanks between them. -/
theorem Apart.spaced {ls : List Lexeme} (apart : Apart ls) :
    Spaced ls (ls.flatMap (·.text.toList)) := by
  induction ls with
  | nil => exact .nil blank_nil
  | cons l ls ih =>
    have ends : l.isMark = false → EndsInteger (ls.flatMap (·.text.toList)) := by
      intro single
      cases ls with
      | nil => exact endsInteger_nil
      | cons m ls =>
        rcases (List.isChain_cons_cons.1 apart).1 with mark | mark
        · rw [mark] at single
          cases single
        · exact endsInteger_mark mark _
    exact .cons blank_nil ends (ih (List.IsChain.of_cons apart))

/-- **The text of a sequence of lexemes has these lexemes.** -/
theorem lex_join {ls : List Lexeme} (apart : Apart ls) (exact : ∀ l ∈ ls, l.IsExact) :
    lex (String.join (ls.map Lexeme.text)) = some ls := by
  have chars : (String.join (ls.map Lexeme.text)).toList = ls.flatMap (·.text.toList) := by
    rw [String.toList_join, List.flatMap_map]
  have spaced := apart.spaced
  rw [← chars] at spaced
  exact spaced.lex exact

end Json

end SqlSelect
