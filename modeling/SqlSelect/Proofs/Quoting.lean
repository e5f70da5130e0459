import SqlSelect.Dialect
/-!
# Reading quoted names back

A reader of a statement knows a name by its quotes: the name begins behind a quote character and
ends at the next one that is not doubled, and a doubled quote inside stands for one.

* `closing` -- the reader of one name, begun behind the opening quote;
* `closing_doubled` -- it finds any name at all, provided that no further quote follows at once;
* `scan` -- the reader of a whole text: the quoted regions and what is outside of them;
* `scan_quoteWith`, `scan_append_of_not_mem` -- a quoted name is one region, and a text without
  quotes is outside;
* `Dialect.unquote?_quoteIdentifier` -- what every dialect quotes is read back.
-/

namespace SqlSelect

/-! ## 1. One name -/

/-- The name that ends at the first quote character that is not doubled, and the text behind that
quote; nothing if there is no such quote. -/
def closing (quote : Char) : List Char → Option (List Char × List Char)
  | [] => none
  | [c] => if c = quote then some ([], []) else none
  | c :: d :: rest =>
    if c ≠ quote then (closing quote (d :: rest)).map fun (name, rest) => (c :: name, rest)
    else if d = quote then (closing quote rest).map fun (name, rest) => (quote :: name, rest)
    else some ([], d :: rest)

/-- A text with every quote character doubled. -/
def doubled (quote : Char) (name : List Char) : List Char :=
  name.flatMap fun c => if c = quote then [c, c] else [c]

theorem toList_quoteWith (quote : Char) (name : String) :
    (quoteWith quote name).toList = quote :: (doubled quote name.toList ++ [quote]) := by
  simp only [quoteWith, String.toList_ofList, doubled, List.cons_append]

section Closing

variable {quote : Char}

theorem closing_cons_of_ne {c : Char} (h : c ≠ quote) (cs : List Char) :
    closing quote (c :: cs) = (closing quote cs).map fun (name, rest) => (c :: name, rest) := by
  cases cs with
  | nil => simp [closing, h]
  | cons d rest => rw [closing, if_pos h]

theorem closing_doubled_cons (cs : List Char) :
    closing quote (quote :: quote :: cs)
      = (closing quote cs).map fun (name, rest) => (quote :: name, rest) := by
  simp [closing]

theorem closing_quote_cons {rest : List Char} (h : rest.head? ≠ some quote) :
    closing quote (quote :: rest) = some ([], rest) := by
  cases rest with
  | nil => simp [closing]
  | cons d rest =>
    have hd : d ≠ quote := fun hd => h (hd ▸ rfl)
    simp [closing, hd]

/-- Doubled quotes are read through, whatever comes behind them. -/
theorem closing_doubled_append (name cs : List Char) :
    closing quote (doubled quote name ++ cs)
      = (closing quote cs).map fun (more, rest) => (name ++ more, rest) := by
  induction name with
  | nil =>
    rw [doubled, List.flatMap_nil, List.nil_append]
    cases closing quote cs <;> rfl
  | cons c name ih =>
    rw [doubled, List.flatMap_cons, ← doubled]
    split
    · next hc =>
      subst hc
      have unfolded : [c, c] ++ doubled c name ++ cs = c :: c :: (doubled c name ++ cs) := rfl
      rw [unfolded, closing_doubled_cons, ih, Option.map_map]
      rfl
    · next hc =>
      have unfolded : [c] ++ doubled quote name ++ cs = c :: (doubled quote name ++ cs) := rfl
      rw [unfolded, closing_cons_of_ne hc, ih, Option.map_map]
      rfl

/-- **Every name is found between its quotes**, and the reader stops right behind it. -/
theorem closing_doubled (name : List Char) {rest : List Char} (h : rest.head? ≠ some quote) :
    closing quote (doubled quote name ++ quote :: rest) = some (name, rest) := by
  simp [closing_doubled_append, closing_quote_cons h]

/-- What is left behind a name is shorter than what there was. -/
theorem length_lt_of_closing {cs name rest : List Char} (h : closing quote cs = some (name, rest)) :
    rest.length < cs.length := by
  fun_induction closing quote cs generalizing name rest with
  | case1 => cases h
  | case2 =>
    cases h
    exact Nat.zero_lt_one
  | case3 => cases h
  | case4 c d tail hc ih =>
    obtain ⟨⟨name', rest'⟩, hclosing, hpair⟩ := Option.map_eq_some_iff.1 h
    cases hpair
    exact Nat.lt_succ_of_lt (ih hclosing)
  | case5 c tail hc ih =>
    obtain ⟨⟨name', rest'⟩, hclosing, hpair⟩ := Option.map_eq_some_iff.1 h
    cases hpair
    exact Nat.lt_succ_of_lt (Nat.lt_succ_of_lt (ih hclosing))
  | case6 =>
    cases h
    exact Nat.lt_succ_self _

end Closing

/-! ## 2. A whole text -/

/-- What a reader finds in a text: the contents of the quoted regions, in order, and the text outside
of them. -/
structure Scan where
  regions : List String
  outside : List Char
  deriving DecidableEq, Repr

/-- What is found in a text behind some regions and some text outside. -/
def Scan.behind (names : List String) (text : List Char) (r : Scan) : Scan :=
  { regions := names ++ r.regions, outside := text ++ r.outside }

/-- The quoted regions of a text, from left to right; nothing if the last one is not closed. -/
def scan (quote : Char) : List Char → Option Scan
  | [] => some { regions := [], outside := [] }
  | c :: cs =>
    if c = quote then
      match _h : closing quote cs with
      | some (name, rest) => (scan quote rest).map (.behind [.ofList name] [])
      | none => none
    else (scan quote cs).map (.behind [] [c])
termination_by cs => cs.length
decreasing_by
  · exact Nat.lt_succ_of_lt (length_lt_of_closing _h)
  · exact Nat.lt_succ_self _

section Scan

variable {quote : Char}

theorem scan_cons_of_ne {c : Char} (h : c ≠ quote) (cs : List Char) :
    scan quote (c :: cs) = (scan quote cs).map (.behind [] [c]) := by
  rw [scan, if_neg h]

theorem scan_cons_quote {cs name rest : List Char} (h : closing quote cs = some (name, rest)) :
    scan quote (quote :: cs) = (scan quote rest).map (.behind [.ofList name] []) := by
  rw [scan, if_pos rfl]
  split
  · next name' rest' h' =>
    cases h.symm.trans h'
    rfl
  · next h' => cases h.symm.trans h'

theorem Scan.behind_behind (names more : List String) (text tail : List Char) (r : Scan) :
    (r.behind more tail).behind names text = r.behind (names ++ more) (text ++ tail) := by
  simp only [Scan.behind, List.append_assoc]

theorem map_behind_behind (names more : List String) (text tail : List Char) (r : Option Scan) :
    (r.map (Scan.behind more tail)).map (Scan.behind names text)
      = r.map (Scan.behind (names ++ more) (text ++ tail)) := by
  simp only [Option.map_map, Function.comp_def, Scan.behind_behind]

/-- **A text without quotes is outside.** -/
theorem scan_append_of_not_mem {text : List Char} (h : quote ∉ text) (rest : List Char) :
    scan quote (text ++ rest) = (scan quote rest).map (.behind [] text) := by
  induction text with
  | nil =>
    rw [List.nil_append]
    cases scan quote rest <;> rfl
  | cons c text ih =>
    rw [List.mem_cons, not_or] at h
    rw [List.cons_append, scan_cons_of_ne (Ne.symm h.1), ih h.2, map_behind_behind]
    rfl

/-- Where a text without quotes is put in front, no quote comes first, if none did before. -/
theorem head?_append_ne {text rest : List Char} (h : quote ∉ text)
    (hrest : rest.head? ≠ some quote) : (text ++ rest).head? ≠ some quote := by
  cases text with
  | nil => exact hrest
  | cons c text => exact fun hc => h (Option.some.inj hc ▸ List.mem_cons_self)

/-- In front of anything a text without quotes that is not empty begins with no quote. -/
theorem head?_append_ne_of_ne_nil {text : List Char} (h : quote ∉ text) (hne : text ≠ [])
    (rest : List Char) : (text ++ rest).head? ≠ some quote := by
  obtain ⟨c, text, rfl⟩ := List.exists_cons_of_ne_nil hne
  exact fun hc => h (Option.some.inj hc ▸ List.mem_cons_self)

/-- **A quoted name is one region**, whatever the name, provided that no further quote follows at
once. -/
theorem scan_quoteWith (name : String) {rest : List Char} (h : rest.head? ≠ some quote) :
    scan quote ((quoteWith quote name).toList ++ rest)
      = (scan quote rest).map (.behind [name] []) := by
  have hc : closing quote (doubled quote name.toList ++ [quote] ++ rest)
      = some (name.toList, rest) := by
    rw [List.append_assoc, List.singleton_append]
    exact closing_doubled name.toList h
  rw [toList_quoteWith, List.cons_append, scan_cons_quote hc, String.ofList_toList]

end Scan

/-! ## 3. Names in every dialect -/

/-- The name between quotes that a text begins with, and the text behind it. -/
def unquote? (quote : Char) (s : String) : Option (String × String) :=
  match s.toList with
  | [] => none
  | c :: cs =>
    if c = quote then (closing quote cs).map fun (name, rest) => (.ofList name, .ofList rest)
    else none

section Unquote

variable {quote : Char}

theorem unquote?_quoteWith_append (name rest : String) :
    unquote? quote (quoteWith quote name ++ rest)
      = (closing quote (quote :: rest.toList)).map fun (more, rest) =>
        (.ofList (name.toList ++ more), .ofList rest) := by
  have text : (quoteWith quote name ++ rest).toList
      = quote :: (doubled quote name.toList ++ quote :: rest.toList) := by
    simp [toList_quoteWith]
  rw [unquote?, text]
  simp only [if_true, closing_doubled_append, Option.map_map]
  rfl

/-- **A quoted name is read back** just if no further quote follows at once. -/
theorem unquote?_quoteWith_iff (name rest : String) :
    unquote? quote (quoteWith quote name ++ rest) = some (name, rest)
      ↔ rest.toList.head? ≠ some quote := by
  rw [unquote?_quoteWith_append]
  constructor
  · -- a further quote would be part of the name, which gets longer
    intro read first
    obtain ⟨tail, htail⟩ := List.head?_eq_some_iff.1 first
    rw [htail, closing_doubled_cons, Option.map_map] at read
    obtain ⟨⟨more, behind⟩, -, pair⟩ := Option.map_eq_some_iff.1 read
    have longer : name.toList ++ quote :: more = name.toList := by
      simpa [← String.toList_inj] using (Prod.mk.inj pair).1
    simpa using congrArg List.length longer
  · intro h
    rw [closing_quote_cons h]
    simp

end Unquote

/-- **Quoting can be read back in every dialect.** The reader of a dialect's quote character finds a
quoted identifier again, whatever the identifier is, and stops right behind it, just if no further
quote follows at once. So quoting is injective, and a dialect quotes with its own quote character. -/
theorem Dialect.unquote?_quoteIdentifier (d : Dialect) :
    (∀ name rest, unquote? d.quoteChar (d.quoteIdentifier name ++ rest) = some (name, rest)
      ↔ rest.toList.head? ≠ some d.quoteChar) ∧
    Function.Injective d.quoteIdentifier ∧
    ∀ name, d.quoteIdentifier name = quoteWith d.quoteChar name := by
  have reads (name rest : String) :
      unquote? d.quoteChar (d.quoteIdentifier name ++ rest) = some (name, rest)
        ↔ rest.toList.head? ≠ some d.quoteChar := by
    rw [d.quoteIdentifier_eq]
    exact unquote?_quoteWith_iff name rest
  refine ⟨reads, fun name name' same => ?_, d.quoteIdentifier_eq⟩
  have first := (reads name "").2 (by simp)
  have second := (reads name' "").2 (by simp)
  rw [same, second] at first
  exact (Prod.mk.inj (Option.some.inj first)).1.symm

end SqlSelect
