import Mathlib.Control.Monad.Basic
import Mathlib.Logic.Relation
import SqlSelect.Proofs.Mentions
/-!
# Defects of documents

A document may name its statements in any way, also in circles. What can go wrong in lowering it is
said here without lowering: the part of the document that is met from its own statement on
(`QueryDocument.Meets`) holds a text that means nothing, a name without a statement, or a name that
leads back to itself (`QueryDocument.Defect`). Names that are met twice on different ways are no
defect.

* `QueryDocument.lookUp_error` -- an error names a defect: the names that are being lowered all lead
  to the one that is looked up;
* `QueryDocument.Lowerable`, `QueryDocument.lookUp_ok` -- a name that has been lowered leads to no
  defect, and not to itself, because `Lowerable` is inductive;
* `LowerM.agree_lookUp` -- the session has no part in any of this;
* `QueryDocument.lower_fails_at_defects` -- all together.
-/

namespace SqlSelect

/-! ## 1. Defects -/

namespace QueryDocument

variable (q : QueryDocument)

/-- The statement of the first name mentions the second. -/
def Refers (a b : String) : Prop :=
  ∃ doc, q.subqueries.get? a = some doc ∧ .subquery b ∈ doc.statement.mentions

/-- The part of a document that is reached from its own statement: what this mentions, and what the
statements of names in this part mention. -/
inductive Meets : Mention → Prop
  | here {m : Mention} (h : m ∈ q.statement.mentions) : Meets m
  | inside {name : String} {doc : SubqueryDoc} {m : Mention} (met : Meets (.subquery name))
    (defined : q.subqueries.get? name = some doc) (h : m ∈ doc.statement.mentions) : Meets m

/-- What is wrong with a document, and the error that says so. -/
inductive Defect : DocumentError → Prop
  | operator {text : String} (met : q.Meets (.operator text))
    (unknown : Operator.ofText? text = none) : Defect (.unknownOperator text)
  | direction {text : String} (met : q.Meets (.direction text))
    (unknown : text ≠ "ASC" ∧ text ≠ "DESC") : Defect (.unknownSortDirection text)
  | undefined {name : String} (met : q.Meets (.subquery name))
    (undefined : q.subqueries.get? name = none) : Defect (.unknownSubquery name)
  /-- The name leads back to itself by one reference or more. -/
  | cycle {name : String} (met : q.Meets (.subquery name))
    (back : Relation.TransGen q.Refers name name) : Defect (.subqueryCycle name)

/-- An induction over the names that are met, from those in the document's own statement inwards. -/
theorem Meets.name_induction {q : QueryDocument} {P : String → Prop}
    (here : ∀ name, .subquery name ∈ q.statement.mentions → P name)
    (inside : ∀ outer doc name, P outer → q.subqueries.get? outer = some doc →
      .subquery name ∈ doc.statement.mentions → P name)
    {name : String} (met : q.Meets (.subquery name)) : P name := by
  -- operators and directions are met too, so the goal is stated of all mentions
  have names : ∀ m, q.Meets m → ∀ name, m = .subquery name → P name := by
    intro m met
    induction met with
    | here hm =>
      rintro name rfl
      exact here name hm
    | inside _ defined hm ih =>
      rintro name rfl
      exact inside _ _ name (ih _ rfl) defined hm
  exact names _ met name rfl

end QueryDocument

theorem SortDir.ofText?_eq_none_iff {text : String} :
    SortDir.ofText? text = none ↔ text ≠ "ASC" ∧ text ≠ "DESC" := by
  unfold SortDir.ofText?
  split
  · simp
  · simp
  · next asc desc => exact ⟨fun _ => ⟨asc, desc⟩, fun _ => rfl⟩

/-! ## 2. An error names a defect -/

namespace QueryDocument

open LowerM (follow lookUp)

variable {q : QueryDocument} {db : Db}

/-- Some of the named statements of a document. -/
def Part (q : QueryDocument) (part : KeyMap SubqueryDoc) : Prop :=
  ∀ name doc, part.get? name = some doc → q.subqueries.get? name = some doc

theorem Part.erase {unvisited : KeyMap SubqueryDoc} (h : q.Part unvisited) (name : String) :
    q.Part (unvisited.erase name) := by
  intro n doc hn
  rw [KeyMap.get?_erase] at hn
  split at hn
  · cases hn
  · exact h n doc hn

/-- Where following a mention fails, the mention itself is a defect or the look-up of its name has
failed. -/
theorem defect_of_follow {lookUp : String → LowerM Subquery} {m : Mention} (met : q.Meets m)
    {e : DocumentError}
    (names : ∀ name st, m = .subquery name → (lookUp name).run st = .error e → q.Defect e)
    {st : Lowered} (h : (follow lookUp m).run st = .error e) : q.Defect e := by
  cases m with
  | operator text =>
    simp only [follow, LowerM.operator] at h
    cases hop : Operator.ofText? text with
    | some op =>
      rw [hop] at h
      cases h
    | none =>
      rw [hop] at h
      cases h
      exact .operator met hop
  | direction text =>
    simp only [follow] at h
    cases hdir : SortDir.ofText? text with
    | some dir =>
      rw [hdir] at h
      cases h
    | none =>
      rw [hdir] at h
      cases h
      exact .direction met (SortDir.ofText?_eq_none_iff.1 hdir)
  | subquery name =>
    simp only [follow, voidly, StateT.run_map] at h
    cases hn : (lookUp name).run st with
    | error e' =>
      rw [hn] at h
      cases h
      exact names name st rfl hn
    | ok r =>
      rw [hn] at h
      cases h

/-- **An error of a look-up names a defect.** The names on the way are those that are defined and not
unvisited; each of them leads to the name that is looked up. -/
theorem lookUp_error {unvisited : KeyMap SubqueryDoc} {name : String} {st : Lowered}
    {e : DocumentError}
    (defined : q.Part unvisited)
    (onTheWay : ∀ n, q.subqueries.contains n → unvisited.get? n = none →
      Relation.TransGen q.Refers n name)
    (met : q.Meets (.subquery name))
    (h : (lookUp db q.subqueries unvisited name).run st = .error e) : q.Defect e := by
  induction hsize : unvisited.size using Nat.strongRecOn generalizing unvisited name st with
  | _ size ih =>
    cases hbuilt : st.built.get? name with
    | some reference => cases (LowerM.run_lookUp_built hbuilt).symm.trans h
    | none =>
      cases hdoc : unvisited.get? name with
      | none =>
        cases (LowerM.run_lookUp_visited hbuilt hdoc).symm.trans h
        split
        · next hname => exact .cycle met (onTheWay name hname hdoc)
        · next hname => exact .undefined met (by simpa [KeyMap.contains] using hname)
      | some doc =>
        have refers : ∀ n, .subquery n ∈ doc.statement.mentions → q.Refers name n :=
          fun n hn => ⟨doc, defined name doc hdoc, hn⟩
        cases hs : (LowerM.statement (lookUp db q.subqueries (unvisited.erase name)) db
            doc.statement).run st with
        | ok r =>
          obtain ⟨reference, hlook⟩ := LowerM.run_lookUp_ok hbuilt hdoc hs
          cases hlook.symm.trans h
        | error e' =>
          cases (LowerM.run_lookUp_error hbuilt hdoc hs).symm.trans h
          obtain ⟨m, hm, st', hst'⟩ := LowerM.statement_error hs
          refine defect_of_follow (met.inside (defined name doc hdoc) hm) ?_ hst'
          rintro n st'' rfl hn
          refine ih _ (hsize ▸ KeyMap.size_erase_lt hdoc) (defined.erase name) ?_
            (met.inside (defined name doc hdoc) hm) hn rfl
          intro k hk hvisited
          rw [KeyMap.get?_erase] at hvisited
          split at hvisited
          · next same => exact same ▸ .single (refers n hm)
          · exact (onTheWay k hk hvisited).tail (refers n hm)

/-! ## 3. A name that has been lowered leads to no defect -/

variable (q) in
/-- A name can be lowered: it is defined, the texts of its statement mean something, and the names
in its statement can be lowered. No name on a circle can be. -/
inductive Lowerable : String → Prop
  | intro {name : String} {doc : SubqueryDoc} (defined : q.subqueries.get? name = some doc)
    (operators : ∀ text, .operator text ∈ doc.statement.mentions → Operator.ofText? text ≠ none)
    (directions : ∀ text, .direction text ∈ doc.statement.mentions → SortDir.ofText? text ≠ none)
    (names : ∀ n, .subquery n ∈ doc.statement.mentions → Lowerable n) : Lowerable name

/-- A mention that can be followed. -/
def Followable (q : QueryDocument) : Mention → Prop
  | .operator text => Operator.ofText? text ≠ none
  | .direction text => SortDir.ofText? text ≠ none
  | .subquery name => q.Lowerable name

theorem Lowerable.of_followable {name : String} {doc : SubqueryDoc}
    (defined : q.subqueries.get? name = some doc)
    (h : ∀ m ∈ doc.statement.mentions, q.Followable m) : q.Lowerable name :=
  .intro defined (fun _ hm => h _ hm) (fun _ hm => h _ hm) (fun _ hm => h _ hm)

/-- What is mentioned by a statement whose name can be lowered can be followed. -/
theorem Lowerable.followable {name : String} (h : q.Lowerable name) {doc : SubqueryDoc}
    (defined : q.subqueries.get? name = some doc) {m : Mention}
    (hm : m ∈ doc.statement.mentions) : q.Followable m := by
  cases h with
  | @intro _ doc' defined' operators directions names =>
    obtain rfl : doc' = doc := Option.some.inj (defined'.symm.trans defined)
    cases m with
    | operator text => exact operators text hm
    | direction text => exact directions text hm
    | subquery n => exact names n hm

/-- **A name that can be lowered does not lead back to itself.** -/
theorem Lowerable.not_cycle {name : String} (h : q.Lowerable name) :
    ¬ Relation.TransGen q.Refers name name := by
  induction h with
  | @intro name doc defined operators directions names ih =>
    intro back
    obtain ⟨next, ⟨doc', defined', hnext⟩, onward⟩ := Relation.TransGen.head'_iff.1 back
    obtain rfl : doc' = doc := Option.some.inj (defined'.symm.trans defined)
    exact ih next hnext (Relation.TransGen.tail' onward ⟨doc', defined', hnext⟩)

/-- Everything that is lowered so far can be lowered. -/
def Settled (q : QueryDocument) (st : Lowered) : Prop :=
  ∀ name reference, st.built.get? name = some reference → q.Lowerable name

/-- A mention that was followed can be followed, if looking up names keeps to this. -/
theorem followable_of_follow {lookUp : String → LowerM Subquery}
    (names : ∀ name st r, q.Settled st → (lookUp name).run st = .ok r →
      q.Settled r.2 ∧ q.Lowerable name)
    {m : Mention} {st st' : Lowered} (hst : q.Settled st)
    (h : (follow lookUp m).run st = .ok ((), st')) : q.Settled st' ∧ q.Followable m := by
  cases m with
  | operator text =>
    simp only [follow, LowerM.operator] at h
    cases hop : Operator.ofText? text with
    | none =>
      rw [hop] at h
      cases h
    | some op =>
      rw [hop] at h
      cases h
      exact ⟨hst, by simp [Followable, hop]⟩
  | direction text =>
    simp only [follow] at h
    cases hdir : SortDir.ofText? text with
    | none =>
      rw [hdir] at h
      cases h
    | some dir =>
      rw [hdir] at h
      cases h
      exact ⟨hst, by simp [Followable, hdir]⟩
  | subquery name =>
    simp only [follow, voidly, StateT.run_map] at h
    cases hn : (lookUp name).run st with
    | error e =>
      rw [hn] at h
      cases h
    | ok r =>
      rw [hn] at h
      cases h
      exact names name st r hst hn

/-- **A statement that was lowered mentions only what can be followed**, if looking up names keeps to
this. -/
theorem statement_ok {lookUp : String → LowerM Subquery}
    (names : ∀ name st r, q.Settled st → (lookUp name).run st = .ok r →
      q.Settled r.2 ∧ q.Lowerable name)
    {doc : StatementDoc} {st : Lowered} {r : Selector × Lowered} (hst : q.Settled st)
    (h : (LowerM.statement lookUp db doc).run st = .ok r) :
    q.Settled r.2 ∧ ∀ m ∈ doc.mentions, q.Followable m :=
  LowerM.follow_ok (fun _ _ _ _ => followable_of_follow names) hst
    (LowerM.run_ok_of_follows (LowerM.follows_statement db doc) h)

/-- **A name that was looked up can be lowered.** -/
theorem lookUp_ok {unvisited : KeyMap SubqueryDoc} {name : String} {st : Lowered}
    {r : Subquery × Lowered}
    (defined : q.Part unvisited)
    (hst : q.Settled st) (h : (lookUp db q.subqueries unvisited name).run st = .ok r) :
    q.Settled r.2 ∧ q.Lowerable name := by
  induction hsize : unvisited.size using Nat.strongRecOn generalizing unvisited name st r with
  | _ size ih =>
    cases hbuilt : st.built.get? name with
    | some reference =>
      cases (LowerM.run_lookUp_built hbuilt).symm.trans h
      exact ⟨hst, hst name reference hbuilt⟩
    | none =>
      cases hdoc : unvisited.get? name with
      | none => cases (LowerM.run_lookUp_visited hbuilt hdoc).symm.trans h
      | some doc =>
        cases hs : (LowerM.statement (lookUp db q.subqueries (unvisited.erase name)) db
            doc.statement).run st with
        | error e => cases (LowerM.run_lookUp_error hbuilt hdoc hs).symm.trans h
        | ok s =>
          obtain ⟨reference, hlook⟩ := LowerM.run_lookUp_ok hbuilt hdoc hs
          cases hlook.symm.trans h
          obtain ⟨settled, followable⟩ := statement_ok
            (fun n _ _ hst hn =>
              ih _ (hsize ▸ KeyMap.size_erase_lt hdoc) (defined.erase name) hst hn rfl) hst hs
          have lowerable : q.Lowerable name := .of_followable (defined name doc hdoc) followable
          refine ⟨fun n reference' hn => ?_, lowerable⟩
          rw [KeyMap.get?_insert] at hn
          split at hn
          · next same => exact same ▸ lowerable
          · exact settled n reference' hn

/-- If everything the document's own statement mentions can be followed, so can everything that is
met. -/
theorem Meets.followable (h : ∀ m ∈ q.statement.mentions, q.Followable m) {m : Mention}
    (met : q.Meets m) : q.Followable m := by
  induction met with
  | here hm => exact h _ hm
  | inside _ defined hm ih => exact Lowerable.followable ih defined hm

/-- Where everything that is met can be followed there is no defect. -/
theorem not_defect (h : ∀ m, q.Meets m → q.Followable m) (e : DocumentError) : ¬ q.Defect e := by
  intro defect
  cases defect with
  | operator met unknown => exact h _ met unknown
  | direction met unknown => exact h _ met (SortDir.ofText?_eq_none_iff.2 unknown)
  | undefined met undefined =>
    cases h _ met with
    | intro defined => cases defined.symm.trans undefined
  | cycle met back => exact Lowerable.not_cycle (h _ met) back

end QueryDocument

/-! ## 4. Errors do not depend on the session -/

/-- The same names have been lowered. -/
def Lowered.Alike (a b : Lowered) : Prop :=
  ∀ name, (a.built.get? name).isSome = (b.built.get? name).isSome

namespace LowerM

/-- From states in which the same names have been lowered, two computations fail with one error, or
both succeed and leave such states. -/
def Agree {α β : Type} (x : LowerM α) (y : LowerM β) : Prop :=
  ∀ st st', st.Alike st' →
    (∃ e, x.run st = .error e ∧ y.run st' = .error e) ∨
      ∃ r r', x.run st = .ok r ∧ y.run st' = .ok r' ∧ r.2.Alike r'.2

section Agree

variable {α β : Type} {x : LowerM α} {y : LowerM β} {lookUp lookUp' : String → LowerM Subquery}

theorem run_void (st : Lowered) :
    (voidly x).run st = (x.run st).map fun r => ((), r.2) :=
  StateT.run_map _ x st

/-- Results do not matter. -/
theorem agree_void : Agree (voidly x) (voidly y) ↔ Agree x y := by
  refine forall_congr' fun st => forall_congr' fun st' => imp_congr_right fun _ => ?_
  rw [run_void, run_void]
  cases x.run st <;> cases y.run st' <;> simp [Except.map]

theorem agree_follow (h : ∀ name, Agree (lookUp name) (lookUp' name)) (m : Mention) :
    Agree (follow lookUp m) (follow lookUp' m) := by
  cases m with
  | operator text =>
    intro st st' hst
    simp only [follow, operator]
    cases Operator.ofText? text with
    | some op => exact .inr ⟨_, _, rfl, rfl, hst⟩
    | none => exact .inl ⟨_, rfl, rfl⟩
  | direction text =>
    intro st st' hst
    simp only [follow]
    cases SortDir.ofText? text with
    | some dir => exact .inr ⟨_, _, rfl, rfl, hst⟩
    | none => exact .inl ⟨_, rfl, rfl⟩
  | subquery name => exact agree_void.2 (h name)

theorem agree_forM (h : ∀ name, Agree (lookUp name) (lookUp' name)) (ms : List Mention) :
    Agree (forM ms (follow lookUp)) (forM ms (follow lookUp')) := by
  induction ms with
  | nil => exact fun st st' hst => .inr ⟨_, _, rfl, rfl, hst⟩
  | cons m ms ih =>
    intro st st' hst
    rw [List.forM_cons, List.forM_cons, run_bind, run_bind]
    obtain ⟨e, hx, hy⟩ | ⟨r, r', hx, hy, hr⟩ := agree_follow h m st st' hst
    · rw [hx, hy]
      exact .inl ⟨e, rfl, rfl⟩
    · rw [hx, hy]
      exact ih r.2 r'.2 hr

theorem agree_statement (h : ∀ name, Agree (lookUp name) (lookUp' name)) (db db' : Db)
    (doc : StatementDoc) : Agree (statement lookUp db doc) (statement lookUp' db' doc) := by
  have both := agree_forM h doc.mentions
  rwa [← follows_statement db doc, ← follows_statement db' doc, agree_void] at both

/-- **A name is lowered in two sessions alike.** -/
theorem agree_lookUp (db db' : Db) (docs unvisited : KeyMap SubqueryDoc) (name : String) :
    Agree (LowerM.lookUp db docs unvisited name) (LowerM.lookUp db' docs unvisited name) := by
  induction hsize : unvisited.size using Nat.strongRecOn generalizing unvisited name with
  | _ size ih =>
    intro st st' hst
    cases hbuilt : st.built.get? name with
    | some reference =>
      have same := hst name
      rw [hbuilt] at same
      obtain ⟨reference', hbuilt'⟩ := Option.isSome_iff_exists.1 same.symm
      exact .inr ⟨_, _, run_lookUp_built hbuilt, run_lookUp_built hbuilt', hst⟩
    | none =>
      have hbuilt' : st'.built.get? name = none := by
        have same := hst name
        rw [hbuilt] at same
        exact Option.not_isSome_iff_eq_none.1 (by simp [← same])
      cases hdoc : unvisited.get? name with
      | none => exact .inl ⟨_, run_lookUp_visited hbuilt hdoc, run_lookUp_visited hbuilt' hdoc⟩
      | some doc =>
        have agree := agree_statement (fun n =>
          ih _ (hsize ▸ KeyMap.size_erase_lt hdoc) (unvisited.erase name) n rfl) db db' doc.statement
        obtain ⟨e, hs, hs'⟩ | ⟨r, r', hs, hs', hr⟩ := agree st st' hst
        · exact .inl ⟨e, run_lookUp_error hbuilt hdoc hs, run_lookUp_error hbuilt' hdoc hs'⟩
        · obtain ⟨reference, hlook⟩ := run_lookUp_ok hbuilt hdoc hs
          obtain ⟨reference', hlook'⟩ := run_lookUp_ok hbuilt' hdoc hs'
          refine .inr ⟨_, _, hlook, hlook', fun n => ?_⟩
          simp only [KeyMap.get?_insert]
          split
          · rfl
          · exact hr n

end Agree

end LowerM

/-! ## 5. Documents -/

namespace QueryDocument

theorem lower_eq_map (q : QueryDocument) (db : Db) :
    q.lower db = Except.map (fun r => (r.1, r.2.nested))
      ((LowerM.statement (LowerM.lookUp db q.subqueries q.subqueries) db q.statement).run {}) := by
  unfold lower
  cases (LowerM.statement (LowerM.lookUp db q.subqueries q.subqueries) db q.statement).run {} with
  | error e => rfl
  | ok r => rfl

theorem lower_eq_error_iff {q : QueryDocument} {db : Db} {e : DocumentError} :
    q.lower db = .error e ↔
      (LowerM.statement (LowerM.lookUp db q.subqueries q.subqueries) db q.statement).run {}
        = .error e := by
  rw [lower_eq_map]
  cases (LowerM.statement (LowerM.lookUp db q.subqueries q.subqueries) db q.statement).run {} with
  | error e' => simp [Except.map]
  | ok r => simp [Except.map]

/-- Whether a document can be lowered, and why not, does not depend on the session. -/
theorem lower_error_congr {q : QueryDocument} {db : Db} {e : DocumentError}
    (h : q.lower db = .error e) (db' : Db) : q.lower db' = .error e := by
  rw [lower_eq_error_iff] at h ⊢
  obtain ⟨e', hx, hy⟩ | ⟨r, r', hx, -, -⟩ := LowerM.agree_statement
    (LowerM.agree_lookUp db db' q.subqueries q.subqueries) db db' q.statement {} {} fun _ => rfl
  · cases hx.symm.trans h
    exact hy
  · cases hx.symm.trans h

/-- An error of lowering names a defect. -/
theorem defect_of_lower {q : QueryDocument} {db : Db} {e : DocumentError}
    (h : q.lower db = .error e) : q.Defect e := by
  obtain ⟨m, hm, st, hst⟩ := LowerM.statement_error (lower_eq_error_iff.1 h)
  refine defect_of_follow (.here hm) ?_ hst
  rintro name st' rfl hname
  -- at the beginning every named statement is unvisited, and no name is on the way
  refine lookUp_error (fun _ _ h => h) (fun n hn hvisited => ?_) (.here hm) hname
  rw [KeyMap.contains, hvisited] at hn
  cases hn

/-- A document that can be lowered has no defect. -/
theorem not_defect_of_lower {q : QueryDocument} {db : Db} {r : Selector × List Selector}
    (h : q.lower db = .ok r) (e : DocumentError) : ¬ q.Defect e := by
  rw [lower_eq_map] at h
  cases hs : (LowerM.statement (LowerM.lookUp db q.subqueries q.subqueries) db q.statement).run {} with
  | error e' =>
    rw [hs] at h
    cases h
  | ok s =>
    have settled : q.Settled {} := fun name reference hname => nomatch hname
    have followable := (statement_ok (fun name st r hst hr =>
      lookUp_ok (fun _ _ h => h) hst hr) settled hs).2
    exact not_defect (fun m met => met.followable followable) e

/-- **Lowering fails at the defects of a document, and at nothing else.** It ends for every document;
it fails exactly if the document has a defect, and the error names one that is there. Rendering
answers with this error, whatever stands in the registry. -/
theorem lower_fails_at_defects (q : QueryDocument) (db : Db) :
    ((∃ e, q.lower db = .error e) ↔ ∃ e, q.Defect e) ∧
      ∀ e, q.lower db = .error e →
        q.Defect e ∧ ∀ registry, q.render registry db.dialect = .error e := by
  refine ⟨⟨fun ⟨e, h⟩ => ⟨e, defect_of_lower h⟩, fun ⟨e, defect⟩ => ?_⟩, fun e h => ?_⟩
  · cases h : q.lower db with
    | error e' => exact ⟨e', rfl⟩
    | ok r => exact absurd defect (not_defect_of_lower h e)
  · refine ⟨defect_of_lower h, fun registry => ?_⟩
    unfold render
    rw [lower_error_congr h { registry := 0, dialect := db.dialect }]
    rfl

/-- Two ways to one name, which can be lowered. -/
def diamond : QueryDocument where
  statement := { filters := [.keyword "exists" "left", .keyword "exists" "right"] }
  subqueries := .ofList [("left", { statement := { filters := [.subquery "base"] } }),
    ("right", { statement := { source := some (.table (.subquery "base")) } }),
    ("base", { statement := {} })]

/-- The same with a reference from the base back to one side. -/
def knot : QueryDocument :=
  { diamond with
    subqueries := diamond.subqueries.insert "base"
      { statement := { select := [.column { name := "Id", table := some (.subquery "left") }] } } }

theorem lower_fails_at_defects_knot :
    (∀ e, ¬ diamond.Defect e) ∧ knot.Defect (.subqueryCycle "left") ∧
      knot.render .empty BaseDialect.mysql.toDialect = .error (.subqueryCycle "left") := by
  let db : Db := { registry := 0, dialect := BaseDialect.mysql.toDialect }
  have lowered : (diamond.lower db).toOption.isSome := by decide +kernel
  have cycle : (knot.lower db).map (fun _ => ()) = .error (.subqueryCycle "left") := by
    decide +kernel
  have refused : knot.lower db = .error (.subqueryCycle "left") := by
    cases h : knot.lower db with
    | error e =>
      rw [h] at cycle
      exact congrArg Except.error (Except.error.inj cycle)
    | ok r =>
      rw [h] at cycle
      cases cycle
  obtain ⟨defect, rendered⟩ := (lower_fails_at_defects knot db).2 _ refused
  refine ⟨fun e h => ?_, defect, rendered .empty⟩
  obtain ⟨e', failed⟩ := (lower_fails_at_defects diamond db).1.2 ⟨e, h⟩
  rw [failed] at lowered
  cases lowered

end QueryDocument

end SqlSelect
