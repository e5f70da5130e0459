import SqlSelect.Proofs.Lexing
import SqlSelect.Text.Quoted
/-!
# Shown values are told apart

A value that is shown to a reader can be told from every other one, and it can be told where it ends:
its first character announces its kind, an integer goes on as far as its digits do, and a text ends at
the first quote that is not escaped. No shown value goes on to a further line. A floating-point number
without a fraction is shown as the integer is, so nothing is said of these.

* `OnOneLine` -- a text without line breaks;
* `Text.character?_escaped` -- what is written for a character inside a quoted text is read as the
  character;
* `Text.escapes_cancel` -- so the insides of quoted texts cancel;
* `Value.onOneLine_display`, `Value.display_cancel` -- shown values stand on one line, and they cancel.
-/

namespace SqlSelect

namespace Text

/-! ## 1. Quoted texts -/

/-- The text stands on one line. -/
def OnOneLine (cs : List Char) : Prop := ∀ c ∈ cs, c ≠ '\n' ∧ c ≠ '\r'

instance (cs : List Char) : Decidable (OnOneLine cs) :=
  List.decidableBAll (fun c => c ≠ '\n' ∧ c ≠ '\r') cs

theorem OnOneLine.append {cs ds : List Char} (hc : OnOneLine cs) (hd : OnOneLine ds) :
    OnOneLine (cs ++ ds) :=
  List.forall_mem_append.2 ⟨hc, hd⟩

/-- Characters of a kind that line breaks are not of stand on one line. -/
theorem OnOneLine.of_forall {p : Char → Bool} {cs : List Char} (feed : p '\n' = false)
    (ret : p '\r' = false) (h : ∀ c ∈ cs, p c = true) : OnOneLine cs := by
  intro c hc
  have kind := h c hc
  constructor
  · rintro rfl
    exact Bool.false_ne_true (feed.symm.trans kind)
  · rintro rfl
    exact Bool.false_ne_true (ret.symm.trans kind)

theorem hexDigit?_digitChar : ∀ d < 16, hexDigit? (Nat.digitChar d) = some d := by
  decide

/-- The digits of a number in base 16 are hexadecimal digits. -/
theorem hexDigit?_isSome_of_mem {n : Nat} {c : Char} (h : c ∈ Nat.toDigits 16 n) :
    (hexDigit? c).isSome = true := by
  induction n using Nat.strongRecOn with
  | _ n ih =>
    by_cases small : n < 16
    · rw [Nat.toDigits_of_lt_base small, List.mem_singleton] at h
      rw [h, hexDigit?_digitChar n small]
      rfl
    · rw [Nat.toDigits_of_base_le (by decide) (by omega), List.mem_append, List.mem_singleton] at h
      rcases h with front | rfl
      · exact ih (n / 16) (by omega) front
      · rw [hexDigit?_digitChar (n % 16) (by omega)]
        rfl

/-- **A number is read back from its digits in base 16.** -/
theorem hexNumber?_toDigits (n : Nat) : hexNumber? (Nat.toDigits 16 n) = some n := by
  induction n using Nat.strongRecOn with
  | _ n ih =>
    by_cases small : n < 16
    · rw [Nat.toDigits_of_lt_base small]
      simp [hexNumber?, hexDigit?_digitChar n small]
    · have front := ih (n / 16) (by omega)
      have last := hexDigit?_digitChar (n % 16) (by omega)
      rw [hexNumber?] at front
      rw [Nat.toDigits_of_base_le (by decide) (by omega), hexNumber?, List.foldlM_append, front]
      simp only [Option.bind_eq_bind, Option.bind_some, List.foldlM_cons, List.foldlM_nil, last,
        Option.map_some, pure]
      congr 1
      omega

/-- The first character that was written inside a quoted text, and what follows it. -/
def character? : List Char → Option (Char × List Char)
  | '\\' :: 'u' :: '\x7b' :: rest =>
    (hexNumber? (rest.takeWhile (· ≠ '\x7d'))).map fun n =>
      (.ofNat n, (rest.dropWhile (· ≠ '\x7d')).tail)
  | '\\' :: '0' :: rest => some ('\x00', rest)
  | '\\' :: 'n' :: rest => some ('\n', rest)
  | '\\' :: 'r' :: rest => some ('\r', rest)
  | '\\' :: 't' :: rest => some ('\t', rest)
  | '\\' :: c :: rest => some (c, rest)
  | c :: rest => some (c, rest)
  | [] => none

theorem character?_escaped (c : Char) (rest : List Char) :
    character? (escaped c ++ rest) = some (c, rest) := by
  unfold escaped
  split
  · next h => subst h; rfl
  split
  · next h => subst h; rfl
  split
  · next h => subst h; rfl
  split
  · next h => subst h; rfl
  split
  · next h => subst h; rfl
  split
  · next zero =>
    have same : c = '\x00' := Char.toNat_inj.1 zero
    subst same
    rfl
  split
  · have digits : ∀ d ∈ Nat.toDigits 16 c.toNat, decide (d ≠ '\x7d') = true := by
      intro d hd
      refine decide_eq_true fun brace => ?_
      have digit := hexDigit?_isSome_of_mem hd
      rw [brace] at digit
      cases digit
    simp only [List.cons_append, List.nil_append, List.append_assoc, character?,
      List.takeWhile_append_of_pos digits, List.dropWhile_append_of_pos digits]
    simp [hexNumber?_toDigits]
  · next noBackslash _ _ _ _ _ =>
    simp only [List.cons_append, List.nil_append]
    unfold character?
    split <;> simp_all

/-- No character is written with a quote in front. -/
theorem escaped_eq_cons (c : Char) : ∃ d ds, escaped c = d :: ds ∧ d ≠ '"' := by
  unfold escaped
  by_cases quote : c = '"'
  · exact ⟨'\\', ['"'], if_pos quote, by decide⟩
  · rw [if_neg quote]
    split_ifs
    case neg => exact ⟨c, [], rfl, quote⟩
    all_goals exact ⟨'\\', _, rfl, by decide⟩

/-- **The insides of quoted texts cancel**: each ends at its first quote. -/
theorem escapes_cancel {cs ds rest rest' : List Char}
    (h : cs.flatMap escaped ++ '"' :: rest = ds.flatMap escaped ++ '"' :: rest') :
    cs = ds ∧ rest = rest' := by
  induction cs generalizing ds with
  | nil =>
    cases ds with
    | nil => exact ⟨rfl, (List.cons.inj h).2⟩
    | cons d ds =>
      obtain ⟨first, others, written, noQuote⟩ := escaped_eq_cons d
      rw [List.flatMap_cons, written] at h
      exact absurd (List.cons.inj h).1.symm noQuote
  | cons c cs ih =>
    cases ds with
    | nil =>
      obtain ⟨first, others, written, noQuote⟩ := escaped_eq_cons c
      rw [List.flatMap_cons, written] at h
      exact absurd (List.cons.inj h).1 noQuote
    | cons d ds =>
      rw [List.flatMap_cons, List.flatMap_cons, List.append_assoc, List.append_assoc] at h
      have read := congrArg character? h
      rw [character?_escaped, character?_escaped] at read
      obtain ⟨rfl, behind⟩ := Prod.mk.inj (Option.some.inj read)
      obtain ⟨rfl, rfl⟩ := ih behind
      exact ⟨rfl, rfl⟩

theorem toList_quoted (s : String) :
    (quoted s).toList = '"' :: (s.toList.flatMap escaped ++ ['"']) := by
  rw [quoted, String.toList_ofList, List.cons_append]

/-- What is written for a character stands on one line, also for a line break. -/
theorem onOneLine_escaped (c : Char) : OnOneLine (escaped c) := by
  unfold escaped
  split
  · decide
  split
  · decide
  split
  · decide
  split
  · decide
  split
  · decide
  split
  · decide
  split
  · have digits : OnOneLine (Nat.toDigits 16 c.toNat) :=
      .of_forall (p := fun d => (hexDigit? d).isSome) rfl rfl fun _ => hexDigit?_isSome_of_mem
    have opening : OnOneLine ['\\', 'u', '\x7b'] := by decide
    have closing : OnOneLine ['\x7d'] := by decide
    exact (opening.append digits).append closing
  · next noFeed noReturn _ _ _ => exact List.forall_mem_singleton.2 ⟨noFeed, noReturn⟩

theorem onOneLine_quoted (s : String) : OnOneLine (quoted s).toList := by
  have inside : OnOneLine (s.toList.flatMap escaped) :=
    List.forall_mem_flatMap.2 fun c _ => onOneLine_escaped c
  have mark : OnOneLine ['"'] := by decide
  rw [toList_quoted]
  exact mark.append (inside.append mark)

end Text

open Text (OnOneLine)

/-! ## 2. Shown values -/

namespace Value

/-- What kind of value a first character announces. -/
inductive Kind
  | null
  | bool
  | int
  | float
  | text

/-- The kind of a value. -/
def kind : Value → Kind
  | null => .null
  | bool _ => .bool
  | int _ => .int
  | float _ => .float
  | text _ => .text

/-- The kind of value that is shown with the character in front. -/
def announced (c : Char) : Kind :=
  if c = 'N' then .null
  else if c = 't' ∨ c = 'f' then .bool
  else if c = '"' then .text
  else .int

theorem toList_display_int (n : Int64) : (display (.int n)).toList = intDigits n :=
  String.toList_ofList

theorem announced_of_number {c : Char} (h : c.isDigit = true ∨ c = '-') : announced c = .int := by
  have apart : ∀ d : Char, d.isDigit = false → d ≠ '-' → c ≠ d := by
    rintro d noDigit noSign rfl
    rcases h with digit | sign
    · exact absurd digit (by simp [noDigit])
    · exact noSign sign
  simp [announced, apart]

theorem onOneLine_intDigits (n : Int64) : OnOneLine (intDigits n) := by
  have digits : OnOneLine (Nat.toDigits 10 n.toInt.natAbs) :=
    .of_forall (by decide) (by decide) fun _ => Json.isDigit_of_mem_toDigits
  have sign : OnOneLine ['-'] := by decide
  simp only [intDigits]
  split
  · exact sign.append digits
  · exact digits

/-- The first character of what is shown tells the kind of the value. -/
theorem display_eq_cons {v : Value} (exact : v.isFloat = false) :
    ∃ c cs, v.display.toList = c :: cs ∧ announced c = v.kind := by
  cases v with
  | null => exact ⟨_, _, rfl, rfl⟩
  | bool b => cases b <;> exact ⟨_, _, rfl, rfl⟩
  | int n =>
    obtain ⟨c, cs, written, first⟩ := Json.intDigits_eq_cons n
    exact ⟨c, cs, (toList_display_int n).trans written, announced_of_number first⟩
  | float x => cases exact
  | text s => exact ⟨_, _, Text.toList_quoted s, rfl⟩

theorem onOneLine_display {v : Value} (exact : v.isFloat = false) : OnOneLine v.display.toList := by
  cases v with
  | null => decide
  | bool b => cases b <;> decide
  | int n =>
    rw [toList_display_int]
    exact onOneLine_intDigits n
  | float x => cases exact
  | text s => exact Text.onOneLine_quoted s

/-- **Shown values cancel**, where nothing follows that would continue an integer. -/
theorem display_cancel {v w : Value} (hv : v.isFloat = false) (hw : w.isFloat = false)
    {rest rest' : List Char} (ends : Json.EndsInteger rest) (ends' : Json.EndsInteger rest')
    (h : v.display.toList ++ rest = w.display.toList ++ rest') : v = w ∧ rest = rest' := by
  have kinds : v.kind = w.kind := by
    obtain ⟨c, cs, written, hc⟩ := display_eq_cons hv
    obtain ⟨d, ds, written', hd⟩ := display_eq_cons hw
    rw [written, written'] at h
    rw [← hc, ← hd, (List.cons.inj h).1]
  cases v <;> cases w <;> cases kinds
  case null.null => exact ⟨rfl, List.append_cancel_left h⟩
  case bool.bool b b' =>
    cases b <;> cases b'
    case false.false => exact ⟨rfl, List.append_cancel_left h⟩
    case true.true => exact ⟨rfl, List.append_cancel_left h⟩
    all_goals cases h
  case int.int n n' =>
    rw [toList_display_int, toList_display_int] at h
    have read := congrArg Json.Literal.read? h
    rw [Json.Literal.read?_intDigits n ends, Json.Literal.read?_intDigits n' ends'] at read
    obtain ⟨literals, behind⟩ := Prod.mk.inj (Option.some.inj read)
    have values := congrArg Json.Literal.value? literals
    rw [Json.Literal.value?_ofInt, Json.Literal.value?_ofInt] at values
    exact ⟨Option.some.inj values, behind⟩
  case float.float => cases hv
  case text.text s s' =>
    have inside : s.toList.flatMap Text.escaped ++ '"' :: rest
        = s'.toList.flatMap Text.escaped ++ '"' :: rest' := by
      simpa [display, Text.toList_quoted] using h
    obtain ⟨same, behind⟩ := Text.escapes_cancel inside
    exact ⟨congrArg text (String.toList_inj.1 same), behind⟩

end Value

end SqlSelect
