import SqlSelect.Settings
/-!
# Respelling one operator

Settings name spellings by the keys of operators. One more key respells its operator and leaves the
spellings of all others and the quotes as they are: since every replacement decides one operator only,
it does not matter where among the other keys the new one stands. What it can change besides is the
dialect that the replacements start from, because a built-in name with nothing replaced stands for that
built-in dialect, even where another base is given.

* `Dialect.RespelledAt` -- two dialects that differ in the spelling of one operator;
* `RespelledAt.respell` -- replacing the spellings of other operators keeps to this;
* `respell_insert` -- one more key among the replacements;
* `DialectSettings.IgnoresBase` -- settings with a base that is not looked at, until something is
  replaced;
* `Settings.dialect_withOperator` -- one more key in settings, with those and with all others;
* `Settings.base_comes_into_view` -- a key for one operator that changes the quotes, and one that is an
  error.
-/

namespace SqlSelect

/-! ## 1. Dialects that differ in one spelling -/

namespace Dialect

/-- The second dialect spells `op` as `text`, and all else as the first one does. -/
structure RespelledAt (op : Operator) (text : String) (d d' : Dialect) : Prop where
  spelled : d'.spelling op = text
  others : ∀ p, p ≠ op → d'.spelling p = d.spelling p
  quotes : ∀ name, d'.quoteIdentifier name = d.quoteIdentifier name

variable {op : Operator} {text : String} {d d' : Dialect}

theorem respelledAt_withSpelling (d : Dialect) (op : Operator) (text : String) :
    d.RespelledAt op text (d.withSpelling op text) where
  spelled := spelling_withSpelling_self d op text
  others _ h := spelling_withSpelling_of_ne d text h
  quotes _ := rfl

/-- The spelling of another operator can be replaced in both. -/
theorem RespelledAt.withSpelling (h : d.RespelledAt op text d') {other : Operator} (hne : other ≠ op)
    (t : String) : (d.withSpelling other t).RespelledAt op text (d'.withSpelling other t) where
  spelled := (spelling_withSpelling_of_ne d' t hne.symm).trans h.spelled
  others p hp := by
    by_cases same : p = other
    · rw [same, spelling_withSpelling_self, spelling_withSpelling_self]
    · rw [spelling_withSpelling_of_ne d' t same, spelling_withSpelling_of_ne d t same, h.others p hp]
  quotes := h.quotes

/-- The name of a dialect has no part in what it writes. -/
theorem RespelledAt.ofBase {base : BaseDialect} {name : String}
    (h : RespelledAt op text { name, base } d') : base.toDialect.RespelledAt op text d' :=
  ⟨h.spelled, h.others, h.quotes⟩

end Dialect

/-! ## 2. One more replacement -/

namespace KeyMap

variable {α : Type}

theorem insertEntry_eq_cons (key : String) (value : α) (entries : List (String × α)) :
    ∃ e rest, insertEntry key value entries = e :: rest := by
  cases entries with
  | nil => exact ⟨_, _, rfl⟩
  | cons head rest =>
    simp only [insertEntry]
    split
    · exact ⟨_, _, rfl⟩
    · split
      · exact ⟨_, _, rfl⟩
      · exact ⟨_, _, rfl⟩

/-- A key that is new to a map comes to stand between two parts of its entries. -/
theorem exists_insertEntry_eq {key : String} {entries : List (String × α)}
    (fresh : ∀ e ∈ entries, e.1 ≠ key) (value : α) :
    ∃ before behind, entries = before ++ behind ∧
      insertEntry key value entries = before ++ (key, value) :: behind := by
  induction entries with
  | nil => exact ⟨[], [], rfl, rfl⟩
  | cons head rest ih =>
    obtain ⟨k, v⟩ := head
    simp only [insertEntry]
    split
    · exact ⟨[], (k, v) :: rest, rfl, rfl⟩
    · next notLt =>
      split
      · have further : ∀ e ∈ rest, e.1 ≠ key := fun e he => fresh e (List.mem_cons_of_mem _ he)
        obtain ⟨before, behind, whole, inserted⟩ := ih further
        refine ⟨(k, v) :: before, behind, ?_, ?_⟩
        · rw [whole, List.cons_append]
        · rw [inserted, List.cons_append]
      · next notGt =>
        have same : k = key := String.le_antisymm (String.not_lt.1 notLt) (String.not_lt.1 notGt)
        exact absurd same (fresh (k, v) List.mem_cons_self)

end KeyMap

namespace DialectSettings

open Dialect (RespelledAt)

variable {op : Operator} {text : String} {d d' r : Dialect}

theorem respell_cons_ok {key t : String} {rest : List (String × String)}
    (h : respell d ((key, t) :: rest) = .ok r) :
    ∃ other, Operator.ofText? key = some other ∧ respell (d.withSpelling other t) rest = .ok r := by
  rw [respell] at h
  cases hkey : Operator.ofText? key with
  | none =>
    rw [hkey] at h
    cases h
  | some other =>
    rw [hkey] at h
    exact ⟨other, rfl, h⟩

theorem respell_cons_of_key {key : String} (hkey : Operator.ofText? key = some op) (t : String)
    (rest : List (String × String)) :
    respell d ((key, t) :: rest) = respell (d.withSpelling op t) rest := by
  rw [respell, hkey]

/-- **Replacing the spellings of other operators** keeps two dialects apart in the one spelling, and it
succeeds for the second if it does for the first. -/
theorem RespelledAt.respell {entries : List (String × String)} (h : d.RespelledAt op text d')
    (others : ∀ e ∈ entries, Operator.ofText? e.1 ≠ some op)
    (hr : DialectSettings.respell d entries = .ok r) :
    ∃ r', DialectSettings.respell d' entries = .ok r' ∧ r.RespelledAt op text r' := by
  induction entries generalizing d d' with
  | nil =>
    cases hr
    exact ⟨d', rfl, h⟩
  | cons head rest ih =>
    -- the other operator gets its spelling in both dialects, and they still differ in the one
    obtain ⟨key, t⟩ := head
    obtain ⟨other, hkey, hrest⟩ := respell_cons_ok hr
    have hne : other ≠ op := fun same =>
      others (key, t) List.mem_cons_self (hkey.trans (congrArg some same))
    rw [respell_cons_of_key hkey]
    exact ih (h.withSpelling hne t) (fun e he => others e (List.mem_cons_of_mem _ he)) hrest

/-- A replacement behind others, and before others, that are all for other operators. -/
theorem respell_append_cons {key : String} {before behind : List (String × String)}
    (hkey : Operator.ofText? key = some op)
    (others : ∀ e ∈ before ++ behind, Operator.ofText? e.1 ≠ some op)
    (hr : respell d (before ++ behind) = .ok r) :
    ∃ r', respell d (before ++ (key, text) :: behind) = .ok r' ∧ r.RespelledAt op text r' := by
  induction before generalizing d with
  | nil =>
    rw [List.nil_append, respell_cons_of_key hkey]
    exact RespelledAt.respell (d.respelledAt_withSpelling op text) others hr
  | cons head rest ih =>
    obtain ⟨k, t⟩ := head
    obtain ⟨other, hk, hrest⟩ := respell_cons_ok hr
    rw [List.cons_append, respell_cons_of_key hk]
    exact ih (fun e he => others e (List.mem_cons_of_mem _ he)) hrest

/-- **One more key among the replacements** respells its operator and no other. -/
theorem respell_insert (text : String) {key : String} {operators : KeyMap String}
    (hkey : Operator.ofText? key = some op)
    (others : ∀ k ∈ operators.keys, Operator.ofText? k ≠ some op)
    (hr : respell d operators.entries = .ok r) :
    ∃ r', respell d (operators.insert key text).entries = .ok r' ∧ r.RespelledAt op text r' := by
  have others' : ∀ e ∈ operators.entries, Operator.ofText? e.1 ≠ some op :=
    fun e he => others e.1 (List.mem_map_of_mem he)
  have fresh : ∀ e ∈ operators.entries, e.1 ≠ key := fun e he same => others' e he (same ▸ hkey)
  obtain ⟨before, behind, whole, inserted⟩ := KeyMap.exists_insertEntry_eq fresh text
  rw [whole] at others' hr
  rw [show (operators.insert key text).entries = _ from inserted]
  exact respell_append_cons hkey others' hr

/-! ## 3. Settings -/

/-- A base is given but not looked at: the name is that of a built-in dialect, nothing is replaced in
it, and the base is another dialect or none. -/
def IgnoresBase (s : DialectSettings) : Prop :=
  s.quote = none ∧ s.operators.entries = [] ∧
    ∃ named base, BaseDialect.ofText? s.name = some named ∧ s.base = some base ∧
      BaseDialect.ofText? base ≠ some named

/-- The settings with one more spelling. -/
def withOperator (s : DialectSettings) (key text : String) : DialectSettings :=
  { s with operators := s.operators.insert key text }

variable {s : DialectSettings} {key : String}

theorem custom_eq_ok {base : BaseDialect} (hbase : s.base? = .ok base)
    (hr : respell { name := s.name, base, quote := s.quote } s.operators.entries = .ok r) :
    s.custom? = .ok r := by
  rw [custom?, hbase]
  exact hr

theorem custom_ok_elim (h : s.custom? = .ok r) :
    ∃ base, s.base? = .ok base ∧
      respell { name := s.name, base, quote := s.quote } s.operators.entries = .ok r := by
  cases hbase : s.base? with
  | error e =>
    rw [custom?, hbase] at h
    cases h
  | ok base =>
    rw [custom?, hbase] at h
    exact ⟨base, rfl, h⟩

/-- With one more spelling something is replaced, so that the built-in dialect itself is out. -/
theorem dialect_withOperator_eq (s : DialectSettings) (key text : String) :
    (s.withOperator key text).dialect? = (s.withOperator key text).custom? := by
  have replaced : (s.withOperator key text).operators.entries.isEmpty = false := by
    obtain ⟨e, rest, he⟩ := KeyMap.insertEntry_eq_cons key text s.operators.entries
    rw [show (s.withOperator key text).operators.entries = _ from he, List.isEmpty_cons]
  rw [dialect?, replaced, Bool.and_false]
  cases BaseDialect.ofText? (s.withOperator key text).name <;> rfl

/-- One more spelling does not change where the replacements start from. -/
theorem dialect_withOperator_of_base (text : String) {base : BaseDialect} (hbase : s.base? = .ok base)
    (hkey : Operator.ofText? key = some op)
    (others : ∀ k ∈ s.operators.keys, Operator.ofText? k ≠ some op)
    (hr : respell { name := s.name, base, quote := s.quote } s.operators.entries = .ok r) :
    ∃ r', (s.withOperator key text).dialect? = .ok r' ∧ r.RespelledAt op text r' := by
  obtain ⟨r', hr', respelled⟩ := respell_insert text hkey others hr
  exact ⟨r', (dialect_withOperator_eq s key text).trans
    (custom_eq_ok (s := s.withOperator key text) hbase hr'), respelled⟩

/-- The first replacement of all, in a dialect that starts from the base. -/
theorem dialect_withOperator_first (text : String) {base : BaseDialect} (hbase : s.base? = .ok base)
    (hkey : Operator.ofText? key = some op) (unquoted : s.quote = none)
    (unspelled : s.operators.entries = []) :
    ∃ d', (s.withOperator key text).dialect? = .ok d' ∧ base.toDialect.RespelledAt op text d' := by
  have others : ∀ k ∈ s.operators.keys, Operator.ofText? k ≠ some op := fun k hk => by
    rw [KeyMap.keys, unspelled] at hk
    cases hk
  have start : respell { name := s.name, base, quote := s.quote } s.operators.entries
      = .ok { name := s.name, base } := by
    rw [unquoted, unspelled, respell]
  obtain ⟨d', hd', respelled⟩ := dialect_withOperator_of_base text hbase hkey others start
  exact ⟨d', hd', respelled.ofBase⟩

/-- The dialect is the built-in one of the name with nothing replaced, or it is put together. -/
theorem dialect_ok_elim (h : s.dialect? = .ok d) :
    (s.quote = none ∧ s.operators.entries = [] ∧
      ∃ named, BaseDialect.ofText? s.name = some named ∧ d = named.toDialect) ∨
    s.custom? = .ok d := by
  rw [dialect?] at h
  cases hname : BaseDialect.ofText? s.name with
  | none =>
    rw [hname] at h
    exact .inr h
  | some named =>
    simp only [hname] at h
    split at h
    · next bare =>
      obtain ⟨unquoted, unspelled⟩ := Bool.and_eq_true_iff.1 bare
      cases h
      exact .inl ⟨Option.isNone_iff_eq_none.1 unquoted, List.isEmpty_iff.1 unspelled, named, rfl, rfl⟩
    · exact .inr h

/-- A base that is looked at, or none at all, leaves a built-in name to what it stands for. -/
theorem base_of_named (unquoted : s.quote = none) (unspelled : s.operators.entries = [])
    {named : BaseDialect} (hname : BaseDialect.ofText? s.name = some named)
    (looked : ¬ s.IgnoresBase) : s.base? = .ok named := by
  rw [base?]
  cases hbase : s.base with
  | none => rw [hname, Option.getD_some]
  | some base =>
    have same : BaseDialect.ofText? base = some named := by
      refine Decidable.byContradiction fun other => ?_
      exact looked ⟨unquoted, unspelled, named, base, hname, hbase, other⟩
    simp only [same]

end DialectSettings

namespace Settings

/-- The settings with one more spelling in their dialect part. -/
def withOperator (s : Settings) (key text : String) : Settings :=
  { s with dialect := s.dialect.withOperator key text }

/-- **One more key for an operator that no other key names.** Settings that give a dialect give one with
it too, which spells the operator as the key says and all else as before. Where a base was not looked
at, the new key brings it into view: it has to name a built-in dialect then, and that dialect is the one
that differs in nothing but the operator. -/
theorem dialect_withOperator (s : Settings) {d : Dialect} (hd : s.dialect? = .ok d) {key : String}
    {op : Operator} (hkey : Operator.ofText? key = some op)
    (others : ∀ k ∈ s.dialect.operators.keys, Operator.ofText? k ≠ some op) (text : String) :
    (¬ s.dialect.IgnoresBase → ∃ d', (s.withOperator key text).dialect? = .ok d' ∧
      d.RespelledAt op text d') ∧
    (s.dialect.IgnoresBase → ∀ base, s.dialect.base = some base →
      (BaseDialect.ofText? base = none →
        (s.withOperator key text).dialect? = .error (.unknownDialect base)) ∧
      ∀ b, BaseDialect.ofText? base = some b →
        ∃ d', (s.withOperator key text).dialect? = .ok d' ∧ b.toDialect.RespelledAt op text d') := by
  refine ⟨fun looked => ?_, fun ⟨unquoted, unspelled, _⟩ base hbase =>
    ⟨fun unknown => ?_, fun b hb => ?_⟩⟩
  · rcases DialectSettings.dialect_ok_elim hd with ⟨unquoted, unspelled, named, hname, rfl⟩ | custom
    · -- the early answer for a built-in name is gone now, but its base is the same dialect
      exact DialectSettings.dialect_withOperator_first text
        (DialectSettings.base_of_named unquoted unspelled hname looked) hkey unquoted unspelled
    · obtain ⟨base, hbase, hr⟩ := DialectSettings.custom_ok_elim custom
      exact DialectSettings.dialect_withOperator_of_base text hbase hkey others hr
  · have absent : (s.dialect.withOperator key text).base? = .error (.unknownDialect base) := by
      rw [DialectSettings.base?, show (s.dialect.withOperator key text).base = _ from hbase]
      simp only [unknown]
    rw [dialect?, show (s.withOperator key text).dialect = s.dialect.withOperator key text from rfl,
      DialectSettings.dialect_withOperator_eq, DialectSettings.custom?, absent]
    rfl
  · have given : s.dialect.base? = .ok b := by
      rw [DialectSettings.base?, hbase]
      simp only [hb]
    exact DialectSettings.dialect_withOperator_first text given hkey unquoted unspelled

/-- Settings with an own dialect, which starts from a built-in one and respells an operator. -/
def legacy : Settings :=
  { dialect := { name := "legacy", base := some "Postgres", operators := .ofList [("ne", "!=")] } }

/-- Settings with the name of one built-in dialect and the name of another as the base. -/
def twoNames (base : String) : Settings := { dialect := { name := "mysql", base := some base } }

theorem dialect_withOperator_legacy :
    (∃ d', (legacy.withOperator "Is_Null" "ISNULL").dialect? = .ok d' ∧
      Dialect.RespelledAt .isNull "ISNULL"
        { name := "legacy", base := .postgres, spellings := [(.ne, "!=")] } d') ∧
    ∃ d', ((twoNames "postgres").withOperator "eq" "==").dialect? = .ok d' ∧
      BaseDialect.postgres.toDialect.RespelledAt .eq "==" d' :=
  ⟨(dialect_withOperator legacy (by rfl) (by decide +kernel) (by decide +kernel) _).1
      fun ignored => absurd ignored.2.1 (by decide +kernel),
    ((dialect_withOperator (twoNames "postgres") (d := BaseDialect.mysql.toDialect) (by rfl)
      (show Operator.ofText? "eq" = some .eq by decide +kernel) (by decide +kernel) "==").2
      ⟨rfl, rfl, .mysql, "postgres", by decide +kernel, rfl, by decide +kernel⟩ "postgres" rfl).2
      .postgres (by decide +kernel)⟩

/-- **One key that changes more than its operator.** Under the name of one built-in dialect and with
another as the base, the first key for an operator changes the quotes; with a base that is no dialect,
there is none any more. -/
theorem base_comes_into_view :
    (twoNames "postgres").dialect? = .ok BaseDialect.mysql.toDialect ∧
    (twoNames "nonsense").dialect? = .ok BaseDialect.mysql.toDialect ∧
    Operator.ofText? "eq" = some .eq ∧
    (∀ base, ∀ k ∈ (twoNames base).dialect.operators.keys, Operator.ofText? k ≠ some .eq) ∧
    (∃ d', ((twoNames "postgres").withOperator "eq" "==").dialect? = .ok d' ∧
      d'.quoteIdentifier "id" = "\"id\"" ∧
      BaseDialect.mysql.toDialect.quoteIdentifier "id" = "\x60id\x60" ∧
      ¬ BaseDialect.mysql.toDialect.RespelledAt .eq "==" d') ∧
    ((twoNames "nonsense").withOperator "eq" "==").dialect? = .error (.unknownDialect "nonsense") := by
  refine ⟨by rfl, by rfl, by decide +kernel, ?_,
    ⟨{ name := "mysql", base := .postgres, spellings := [(.eq, "==")] }, by rfl,
      by decide +kernel, by decide +kernel, fun respelled => ?_⟩, by rfl⟩
  · intro base k hk
    cases hk
  · exact absurd (respelled.quotes "id") (by decide +kernel)

end Settings

end SqlSelect
