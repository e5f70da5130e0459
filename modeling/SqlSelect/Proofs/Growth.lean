import SqlSelect.Proofs.Filling
import SqlSelect.Proofs.Moments
/-!
# How a session grows

A step may fail half-way, and what it did until then stays done. It has only ever added to the
session: entity types that are mentioned in what it builds, and the results of the nested statements
that it came to and that could be built. So what a failure leaves behind is what a success would have
left of the same parts.

* `Store.Grown` -- what a build may do to the registries of a store; `query_traced`, `build_traced`:
  every build makes them grow by what its statement mentions (`Selector.Mentions`);
* `Session.outcome` -- what a nested statement would be built to; since no build changes an answer of
  its store, it is the same before a step and wherever in the step the statement is met;
* `Session.ComesTo`, `Session.Compiles` -- the nested statements that a step comes to before its first
  flaw, and those that it reaches at all;
* `Session.Growth`, `Session.Sharing` -- what one step does, and which references share a cell;
* `growth_in_runs` -- both at every moment of every run, by two invariants: cells are sound for what
  they hold (`Session.Consistent`), and where one is filled, so are all that its statement reaches
  (`Session.Closed`).
-/

namespace SqlSelect

/-! ## 1. Growth of registries -/

/-- What a build may do to the registries of a store. Registered descriptions stay as they are; entity
types are only added, those that `mentioned` holds of. -/
structure Store.Grown (mentioned : Nat → EntityKey → Prop) (st st' : Store) : Prop where
  named : ∀ k, (st'.registries k).named = (st.registries k).named
  typed : ∀ k type, type ∈ (st.registries k).typed → type ∈ (st'.registries k).typed
  taken : ∀ k type, type ∈ (st'.registries k).typed →
    type ∈ (st.registries k).typed ∨ mentioned k (.typed type)

namespace Store.Grown

variable {mentioned mentioned' : Nat → EntityKey → Prop} {st st' st'' : Store}

theorem refl (st : Store) : st.Grown mentioned st where
  named _ := rfl
  typed _ _ h := h
  taken _ _ h := .inl h

theorem mono (h : st.Grown mentioned st') (hm : ∀ k key, mentioned k key → mentioned' k key) :
    st.Grown mentioned' st' where
  named := h.named
  typed := h.typed
  taken k type htype := (h.taken k type htype).imp_right (hm k _)

theorem trans (h : st.Grown mentioned st') (h' : st'.Grown mentioned st'') :
    st.Grown mentioned st'' where
  named k := (h'.named k).trans (h.named k)
  typed k type htype := h'.typed k type (h.typed k type htype)
  taken k type htype := by
    rcases h'.taken k type htype with htype | htype
    · exact h.taken k type htype
    · exact .inr htype

/-- Taking up an entity that is mentioned. -/
theorem resolve (st : Store) {registry : Nat} {key : EntityKey} (hkey : mentioned registry key) :
    st.Grown mentioned (st.setRegistry registry ((st.registries registry).resolve key).2) where
  named k := by
    by_cases hk : k = registry
    · subst hk
      simp only [Store.setRegistry, Store.update_self, Registry.named_resolve]
    · simp only [Store.setRegistry, Store.update_of_ne _ _ hk]
  typed k type htype := by
    by_cases hk : k = registry
    · subst hk
      simp only [Store.setRegistry, Store.update_self]
      exact Registry.mem_typed_resolve.2 (.inl htype)
    · simp only [Store.setRegistry, Store.update_of_ne _ _ hk]
      exact htype
  taken k type htype := by
    by_cases hk : k = registry
    · subst hk
      simp only [Store.setRegistry, Store.update_self] at htype
      rcases Registry.mem_typed_resolve.1 htype with htype | ⟨rfl, -⟩
      · exact .inl htype
      · exact .inr hkey
    · simp only [Store.setRegistry, Store.update_of_ne _ _ hk] at htype
      exact .inl htype

end Store.Grown

/-! ## 2. Builds let registries grow -/

variable {nested : List Selector} {mentioned mentioned' : Nat → EntityKey → Prop}

/-- **What a build does to the registries of its store.** Only the first of the two computations
counts. -/
def tracing (mentioned : Nat → EntityKey → Prop) : Correspondence BuildM BuildM where
  Holds b _ := ∀ st : Store, st.Grown mentioned (b.run.run st).2
  ofPure _ st := .refl st
  ofThrow _ st := .refl st
  ofBind := by
    intro α β x _ f _ hx hf st
    have grown := hx st
    rw [run_bind]
    rcases h : x.run.run st with ⟨e | a, st'⟩
    · rw [h] at grown
      exact grown
    · rw [h] at grown
      exact grown.trans (hf a st')

/-- A computation makes the registries of its store grow. -/
def Traced {α : Type} (mentioned : Nat → EntityKey → Prop) (b : BuildM α) : Prop :=
  (tracing mentioned).Holds b b

namespace Traced

variable {α : Type} {b : BuildM α}

theorem mono (h : Traced mentioned b) (hm : ∀ k key, mentioned k key → mentioned' k key) :
    Traced mentioned' b :=
  fun st => (h st).mono hm

theorem ofVoidly (h : Traced mentioned (voidly b)) : Traced mentioned b := by
  intro st
  have hv := h st
  rw [run_voidly] at hv
  exact hv

theorem resolve {registry : Nat} {key : EntityKey} (hkey : mentioned registry key) :
    Traced mentioned (SqlSelect.resolve registry key) := by
  intro st
  rw [run_resolve]
  exact .resolve st hkey

/-- The entity of a statement, if it is mentioned. -/
theorem entity {s : Selector} (h : ∀ key, s.entity = some key → mentioned s.db.registry key) :
    Traced mentioned (s.metadata SqlSelect.resolve) := by
  unfold Selector.metadata
  split
  · exact (tracing mentioned).ofThrow _
  · next key hkey => exact resolve (h key hkey)

/-- Keeping in cells is nothing to a registry. -/
theorem inCells (n : Nat) {b : BuildM Query} (h : Traced mentioned b) :
    Traced mentioned (Keeping.inCells n b) := by
  intro st
  rw [run_inCells]
  cases st.cells n with
  | some q => exact .refl st
  | none =>
    have grown := h (st.note n)
    rcases hb : b.run.run (st.note n) with ⟨e | q, st'⟩
    · rw [hb] at grown
      exact ⟨grown.named, grown.typed, grown.taken⟩
    · rw [hb] at grown
      exact ⟨grown.named, grown.typed, grown.taken⟩

end Traced

/-- A statement behind the first `bound` nested ones, if these make their registries grow. -/
theorem serves_traced {bound : Nat} (hbound : bound ≤ nested.length) {s : Selector}
    (before : ∀ k t, k < bound → nested[k]? = some t →
      Traced (t.Mentions nested k) ((Inner.ofList .inCells resolve nested).query k)) :
    (tracing (s.Mentions nested bound)).Serves s (.ofList .inCells resolve (nested.take bound))
      (.ofList .inCells resolve (nested.take bound)) where
  own := by
    rw [describe_ofList]
    exact Traced.entity fun key hkey => .own hkey
  entity i hi key hkey := by
    rw [describe_ofList]
    exact Traced.resolve (.item hi hkey)
  bound i hi k hk := by
    cases ht : (nested.take bound)[k]? with
    | none =>
      rw [metadata_of_length_le (List.getElem?_eq_none_iff.1 ht)]
      exact (tracing _).ofThrow _
    | some t =>
      rw [metadata_of_getElem? ht]
      rw [List.getElem?_take] at ht
      split at ht
      · next below => exact Traced.entity fun key hkey => .inside hi (.inl hk) below ht (.own hkey)
      · cases ht
  written i hi k hk := by
    refine Correspondence.ofVoidly ?_
    by_cases below : k < bound
    · obtain ⟨t, ht⟩ : ∃ t, nested[k]? = some t :=
        ⟨_, List.getElem?_eq_getElem (Nat.lt_of_lt_of_le below hbound)⟩
      rw [query_take below hbound]
      exact (before k t below ht).mono fun _ _ => .inside hi (.inr hk) below ht
    · rw [query_of_length_le (by rw [List.length_take_of_le hbound]; exact Nat.not_lt.1 below)]
      exact (tracing _).ofThrow _

/-- **A nested statement makes its registries grow** by what it mentions. -/
theorem query_traced {n : Nat} {s : Selector} (hs : nested[n]? = some s) :
    Traced (s.Mentions nested n) ((Inner.ofList .inCells resolve nested).query n) := by
  induction n using Nat.strongRecOn generalizing s with
  | _ n ih =>
    have hn : n < nested.length := (List.getElem?_eq_some_iff.1 hs).1
    have served : (tracing (s.Mentions nested n)).Serves s
        (.ofList .inCells resolve (nested.take n)) (.ofList .inCells resolve (nested.take n)) :=
      serves_traced (Nat.le_of_lt hn) fun k t below ht => ih k below ht
    rw [query_of_getElem? hs]
    refine .inCells n (.ofVoidly ?_)
    rw [voidly_buildNested]
    exact served.voidly_build

/-- **A build makes its registries grow.** -/
theorem build_traced (s : Selector) :
    Traced (s.Mentions nested nested.length) (s.build (.ofList .inCells resolve nested)) := by
  have served : (tracing (s.Mentions nested nested.length)).Serves s
      (.ofList .inCells resolve (nested.take nested.length))
      (.ofList .inCells resolve (nested.take nested.length)) :=
    serves_traced (Nat.le_refl nested.length) fun k t _ ht => query_traced ht
  rw [List.take_length] at served
  exact .ofVoidly served.voidly_build

/-! ## 3. Growth of a session -/

namespace Session

/-- What the statement of a nested number would be built to now. -/
def outcome (s : Session) (n : Nat) : Except BuildError Query :=
  match s.nested[n]? with
  | some t => ((t.build (.ofList .inCells SqlSelect.resolve (s.nested.take n))).run.run s.store).1
  | none => .error .nilEntity

/-- The nested statements that a step compiles: the one it is asked for, and those that are reached
from what it builds. -/
def Compiles (s : Session) : Step → Nat → Prop
  | .build selector, n => selector.Reaches s.nested s.nested.length n
  | .compiled subquery, n => n = subquery.node ∨
      ∃ t, s.nested[subquery.node]? = some t ∧ t.Reaches s.nested subquery.node n
  | _, _ => False

/-- The nested statements that a step comes to: those that it asks for before its first flaw, and
unless their cells are filled, those that their builds come to before the first flaw of each. -/
def ComesTo (s : Session) : Step → Nat → Prop
  | .build selector, n =>
      selector.ComesTo s.store.cells s.store.answer s.nested s.nested.length n
  | .compiled subquery, n => AskComesTo s.store.cells s.store.answer s.nested subquery.node n
  | _, _ => False

/-- The entities that a step resolves directly, or that are mentioned in what it builds. -/
def Resolves (s : Session) : Step → Nat → EntityKey → Prop
  | .resolve registry key, k, other => k = registry ∧ other = key
  | .build selector, k, key => selector.Mentions s.nested s.nested.length k key
  | .compiled subquery, k, key =>
      ∃ t, s.nested[subquery.node]? = some t ∧ t.Mentions s.nested subquery.node k key
  | .metadata subquery, k, key =>
      ∃ t, s.nested[subquery.node]? = some t ∧ t.entity = some key ∧ t.db.registry = k
  | _, _, _ => False

/-- What a step does to the registries of a session, whether the step succeeds or fails. -/
structure RegistryGrowth (s : Session) (st : Step) : Prop where
  /-- A registered description changes only by a registration that succeeds, under its name. -/
  named : ∀ k name, ((s.step st).2.registry k).get? name = (s.registry k).get? name ∨
    ∃ m, st = .register k name m ∧ (s.step st).1 = .done
  /-- What a registration that succeeds registers is there afterwards. -/
  registered : ∀ k name m, st = .register k name m → (s.step st).1 = .done →
    ((s.step st).2.registry k).get? name = some m
  /-- Entity types stay. -/
  typed : ∀ k type, type ∈ (s.registry k).typed → type ∈ ((s.step st).2.registry k).typed
  /-- Only entity types that the step resolves are taken up. -/
  taken : ∀ k type, type ∈ ((s.step st).2.registry k).typed →
    type ∈ (s.registry k).typed ∨ s.Resolves st k (.typed type)

/-- What a step does to the cells of a session, whether the step succeeds or fails. -/
structure CellGrowth (s : Session) (st : Step) : Prop where
  /-- Filled cells stay as they are. -/
  kept : ∀ n q, s.store.cells n = some q → (s.step st).2.store.cells n = some q
  /-- A cell is filled only by a step that compiles its statement, after a successful build of which
  it holds the result without the final semicolon. -/
  filled : ∀ n q, (s.step st).2.store.cells n = some q → s.store.cells n = some q ∨
    s.Compiles st n ∧ s.outcome n = .ok { sql := q.sql ++ ";", args := q.args }
  /-- Of the statements that the step comes to, those that can be built are in their cells afterwards,
  even if the step fails, and the cells of those that cannot are still empty. -/
  come : ∀ n, s.ComesTo st n → s.store.cells n = none →
    (s.step st).2.store.cells n = (s.outcome n).toOption.map Query.unterminated
  /-- All other cells are as they were. -/
  passed : ∀ n, ¬ s.ComesTo st n → (s.step st).2.store.cells n = s.store.cells n
  /-- After a step that succeeds, all statements that it compiles are in their cells. -/
  succeeded : (∀ e, (s.step st).1 ≠ .failed e) → ∀ n, s.Compiles st n →
    ∃ q, (s.step st).2.store.cells n = some q

/-- **What a step does to what a session holds.** -/
structure Growth (s : Session) (st : Step) : Prop extends RegistryGrowth s st, CellGrowth s st

/-- **How nested statements share their cells.** -/
structure Sharing (s : Session) : Prop where
  /-- Copies of a reference answer alike, and with the text in their cell as soon as it is there. -/
  clones : ∀ a b : Subquery, a.node = b.node → s.isCompiled a = s.isCompiled b ∧
    s.step (.compiled a) = s.step (.compiled b) ∧
    ∀ q, s.store.cells a.node = some q → (s.step (.compiled b)).1 = .query q
  /-- A statement that is nested gets a number of its own, and an empty cell. -/
  fresh : ∀ st sub, (s.step st).1 = .subquery sub → sub.node = s.nested.length ∧
    (s.step st).2.isCompiled sub = false
  /-- Two nested statements made from copies of one statement have cells of their own: compiling the
  one leaves the cell of the other as it is. -/
  copies : ∀ (a b : Subquery) (t : Selector), a.node ≠ b.node → s.nested[a.node]? = some t →
    s.nested[b.node]? = some t → (∀ i ∈ t.items, ∀ n ∈ i.written, n < b.node) →
    (s.step (.compiled a)).2.isCompiled b = s.isCompiled b

/-! ## 4. Each step lets a session grow -/

/-- The session's store is sound for what its cells hold. -/
abbrev Consistent (s : Session) : Prop := s.store.Sound s.store.cells s.store.answer s.nested

/-- Where a cell of the session is filled, so are the cells of all that its statement reaches. -/
abbrev Closed (s : Session) : Prop := ClosedCells s.nested s.store.cells

section Step

variable {s : Session}

/-- **All steps but registrations make the registries grow**, by what they resolve. -/
theorem step_grown {st : Step} (hst : ∀ k name m, st ≠ .register k name m) :
    s.store.Grown (s.Resolves st) (s.step st).2.store := by
  cases st with
  | openRegistry => exact .refl _
  | register k name m => exact absurd rfl (hst k name m)
  | resolve registry key =>
    have traced : Traced (s.Resolves (.resolve registry key)) (SqlSelect.resolve registry key) :=
      .resolve ⟨rfl, rfl⟩
    exact traced s.store
  | nest selector columns aliasName => exact .refl _
  | build selector => exact build_traced selector s.store
  | compiled subquery =>
    cases ht : s.nested[subquery.node]? with
    | none =>
      have absent : s.inner.query subquery.node = throw .nilEntity :=
        query_of_length_le (List.getElem?_eq_none_iff.1 ht)
      simp only [step, absent]
      exact .refl _
    | some t => exact ((query_traced ht).mono fun _ _ further => ⟨t, ht, further⟩) s.store
  | metadata subquery =>
    cases ht : s.nested[subquery.node]? with
    | none =>
      have absent : s.inner.metadata subquery.node = throw .nilEntity :=
        metadata_of_length_le (List.getElem?_eq_none_iff.1 ht)
      simp only [step, absent]
      exact .refl _
    | some t =>
      have present : s.inner.metadata subquery.node = t.metadata SqlSelect.resolve :=
        metadata_of_getElem? ht
      have traced : Traced (s.Resolves (.metadata subquery)) (t.metadata SqlSelect.resolve) :=
        .entity fun key hkey => ⟨t, ht, hkey, rfl⟩
      simp only [step, present]
      exact traced s.store

/-- **All steps but registrations fill the cells of what they come to**, and no others. -/
theorem step_filled (h : s.Consistent) {st : Step} (hst : ∀ k name m, st ≠ .register k name m) :
    s.store.FilledBy s.store.cells s.store.answer s.nested (s.ComesTo st) (s.step st).2.store := by
  have idly {α : Type} {b : BuildM α}
      (hb : (idle s.store.cells s.store.answer s.nested).Holds b b) := hb s.store h.complete
  cases st with
  | openRegistry => exact .unchanged h.complete rfl
  | register k name m => exact absurd rfl (hst k name m)
  | resolve registry key => exact idly (idle_resolve registry key)
  | nest selector columns aliasName => exact .unchanged h.complete rfl
  | build selector => exact build_fills selector s.store h.complete
  | compiled subquery => exact query_fills subquery.node s.store h.complete
  | metadata subquery => exact idly (idle_metadata s.nested subquery.node)

theorem map_unterminated_build {t : Selector} {inner : Inner (Except BuildError)} :
    t.buildNested inner = (t.build inner).map Query.unterminated := by
  unfold Selector.buildNested
  cases t.build inner <;> rfl

/-- What is frozen of a statement whose cell is empty is its outcome. -/
theorem frozen_query_eq_outcome (h : s.Consistent) {n : Nat} (hn : s.store.cells n = none) :
    (frozen s.store.cells s.store.answer s.nested).query n
      = (s.outcome n).map Query.unterminated := by
  unfold outcome
  cases ht : s.nested[n]? with
  | none => exact query_of_length_le (List.getElem?_eq_none_iff.1 ht)
  | some t =>
    rw [frozen_query ht hn, map_unterminated_build,
      ← (Correspondence.build (inCells_take n) t s.store h).1]

/-- A build ends in a semicolon, which is what is taken away from a nested statement. -/
theorem unterminated_of_build {t : Selector} {inner : Inner (Except BuildError)} {p : Query}
    (h : t.build inner = .ok p) :
    p = { sql := p.unterminated.sql ++ ";", args := p.unterminated.args } := by
  obtain ⟨ts, hts, h⟩ := bind_eq_ok h
  cases h
  obtain ⟨m, -, hts⟩ := bind_eq_ok hts
  obtain ⟨columns, -, hts⟩ := bind_eq_ok hts
  obtain ⟨source, -, hts⟩ := bind_eq_ok hts
  obtain ⟨filters, -, hts⟩ := bind_eq_ok hts
  obtain ⟨groupBy, -, hts⟩ := bind_eq_ok hts
  obtain ⟨having, -, hts⟩ := bind_eq_ok hts
  obtain ⟨orderBy, -, hts⟩ := bind_eq_ok hts
  cases hts
  have last : Token.render t.db.dialect [.semicolon] = { sql := ";", args := [] } := rfl
  rw [Token.render_append, last, Query.unterminated_append]
  simp only [Query.append, List.append_nil]

/-- The outcome of a statement whose cell is empty, from what is frozen of it. -/
theorem outcome_of_frozen_query (h : s.Consistent) {n : Nat} (hn : s.store.cells n = none) {q : Query}
    (hq : (frozen s.store.cells s.store.answer s.nested).query n = .ok q) :
    s.outcome n = .ok { sql := q.sql ++ ";", args := q.args } := by
  cases ht : s.nested[n]? with
  | none =>
    rw [query_of_length_le (List.getElem?_eq_none_iff.1 ht)] at hq
    cases hq
  | some t =>
    have same : s.outcome n = t.build (frozen s.store.cells s.store.answer (s.nested.take n)) := by
      simp only [outcome, ht]
      exact (Correspondence.build (inCells_take n) t s.store h).1
    rw [frozen_query_eq_outcome h hn, same] at hq
    cases hp : t.build (frozen s.store.cells s.store.answer (s.nested.take n)) with
    | error e =>
      rw [hp] at hq
      cases hq
    | ok p =>
      rw [hp] at hq
      cases hq
      rw [same, hp, ← unterminated_of_build hp]

/-- What a step comes to is compiled by it. -/
theorem ComesTo.compiles {st : Step} {n : Nat} (h : s.ComesTo st n) : s.Compiles st n := by
  cases st with
  | build selector => exact Selector.ComesTo.reaches h
  | compiled subquery => exact h.imp_right fun ⟨_, t, ht, further⟩ => ⟨t, ht, further.reaches⟩
  | _ => exact h.elim

/-- A run that does not answer with an error has a result. -/
theorem exists_run_eq_ok {α : Type} {b : BuildM α} {answer : α → Answer}
    (h : ∀ e, (s.run b answer).1 ≠ .failed e) : ∃ a, (b.run.run s.store).1 = .ok a := by
  unfold Session.run at h
  rcases hb : b.run.run s.store with ⟨e | a, st⟩
  · rw [hb] at h
    exact absurd rfl (h e)
  · exact ⟨a, rfl⟩

/-- Compiling a nested statement whose cell is filled answers with what is in it. -/
theorem compiled_of_filled (h : s.Consistent) {sub : Subquery} {q : Query}
    (hq : s.store.cells sub.node = some q) : (s.step (.compiled sub)).1 = .query q := by
  obtain ⟨t, ht⟩ : ∃ t, s.nested[sub.node]? = some t :=
    ⟨_, List.getElem?_eq_getElem (h.lt_length hq)⟩
  have found : (s.inner.query sub.node).run.run s.store = (.ok q, s.store) := by
    rw [inner, query_of_getElem? ht, run_inCells, hq]
  simp only [step, Session.run, found]

/-- A run answers with what its computation gave or with an error, and neither is a reference. -/
theorem run_fst_ne_subquery {α : Type} {b : BuildM α} {answer : α → Answer} {sub : Subquery}
    (h : ∀ a, answer a ≠ .subquery sub) : (s.run b answer).1 ≠ .subquery sub := by
  unfold Session.run
  rcases b.run.run s.store with ⟨e | a, st⟩
  · exact Answer.noConfusion
  · exact h a

/-- What is reached from a statement whose references are all below a number is below it. -/
theorem reaches_lt {nested : List Selector} {bound k n : Nat} {t : Selector}
    (h : ∀ i ∈ t.items, ∀ j ∈ i.written, j < k) (hn : t.Reaches nested bound n) : n < k := by
  cases hn with
  | direct hi hn below => exact h _ hi _ hn
  | through hi hj below ht further => exact Nat.lt_trans further.lt (h _ hi _ hj)

end Step

/-- What a registration leaves as it is, and what it changes. -/
theorem step_register (s : Session) (k : Nat) (name : String) (m : EntityMetadata) :
    (s.step (.register k name m)).2.store.cells = s.store.cells ∧
    (∀ j, ((s.step (.register k name m)).2.registry j).typed = (s.registry j).typed) ∧
    (∀ j other, ((s.step (.register k name m)).2.registry j).get? other = (s.registry j).get? other ∨
      j = k ∧ other = name ∧ (s.step (.register k name m)).1 = .done) ∧
    ((s.step (.register k name m)).1 = .done →
      ((s.step (.register k name m)).2.registry k).get? name = some m) := by
  simp only [step]
  cases hr : (s.store.registries k).register name m with
  | error e =>
    refine ⟨rfl, fun _ => rfl, fun _ _ => .inl rfl, fun done => ?_⟩
    cases done
  | ok r =>
    have changed : r = { s.store.registries k with
        named := (s.store.registries k).named.insert name m } := by
      unfold Registry.register at hr
      split at hr
      · cases hr
        rfl
      · cases hr
    refine ⟨rfl, fun j => ?_, fun j other => ?_, fun _ => ?_⟩
    · by_cases hj : j = k
      · subst hj
        simp only [registry, Store.setRegistry, Store.update_self, changed]
      · simp only [registry, Store.setRegistry, Store.update_of_ne _ _ hj]
    · by_cases hj : j = k
      · subst hj
        simp only [registry, Store.setRegistry, Store.update_self, changed, Registry.get?,
          KeyMap.get?_insert, true_and]
        by_cases ho : other = name
        · exact .inr ⟨ho, trivial⟩
        · exact .inl (if_neg ho)
      · exact .inl (by simp only [registry, Store.setRegistry, Store.update_of_ne _ _ hj])
    · simp only [registry, Store.setRegistry, Store.update_self, changed, Registry.get?,
        KeyMap.get?_insert, if_true]

/-- **Each step lets the registries grow.** -/
theorem registryGrowth (s : Session) (st : Step) : s.RegistryGrowth st := by
  by_cases hst : ∃ k name m, st = .register k name m
  · obtain ⟨k, name, m, rfl⟩ := hst
    obtain ⟨-, htyped, hnamed, hnow⟩ := s.step_register k name m
    refine ⟨fun j other => ?_, fun j other m' he done => ?_, fun j type h => ?_, fun j type h => ?_⟩
    · refine (hnamed j other).imp_right ?_
      rintro ⟨rfl, rfl, done⟩
      exact ⟨m, rfl, done⟩
    · cases he
      exact hnow done
    · rw [htyped]
      exact h
    · rw [htyped] at h
      exact .inl h
  · have other k name m (e : st = .register k name m) : False := hst ⟨k, name, m, e⟩
    have grown := s.step_grown other
    refine ⟨fun k name => ?_, fun k name m e => (other k name m e).elim, grown.typed, grown.taken⟩
    exact .inl (congrArg (KeyMap.get? · name) (grown.named k))

/-- **After a step that succeeds, all that it compiles is in its cell.** A statement without a flaw
comes to all that it reaches but for what is behind filled cells, and that is there already. -/
theorem Consistent.succeeded {s : Session} (h : s.Consistent) (hc : s.Closed) {st : Step}
    (success : ∀ e, (s.step st).1 ≠ .failed e) {n : Nat} (hn : s.Compiles st n) :
    (s.step st).2.store.cells n ≠ none := by
  cases st with
  | build selector =>
    have filled := build_fills selector s.store h.complete
    obtain ⟨q, hq⟩ := exists_run_eq_ok success
    rw [inner, (build_inCells h selector).1] at hq
    have unflawed := flaw?_of_frozen_build hq
    have reached : selector.Reaches s.nested s.nested.length n := hn
    rcases comesTo_of_reaches hc (Nat.le_refl _) reached (by rwa [List.take_length]) with
      there | ⟨come, clean⟩
    · obtain ⟨p, hp⟩ := Option.ne_none_iff_exists'.1 there
      have stays := filled.keeps n p hp
      exact fun empty => nomatch stays.symm.trans empty
    · obtain ⟨p, hp⟩ := exists_frozen_query_iff.2 clean
      have there := filled.full n come p hp
      exact fun empty => nomatch there.symm.trans empty
  | compiled subquery =>
    have filled := query_fills subquery.node s.store h.complete
    obtain ⟨q, hq⟩ := exists_run_eq_ok success
    rw [inner, ((inCells_inners s.nested).query subquery.node s.store h).1] at hq
    have there := filled.full subquery.node (.inl rfl) q hq
    have own : (s.step (.compiled subquery)).2.store.cells subquery.node ≠ none :=
      fun empty => nomatch there.symm.trans empty
    rcases hn with rfl | ⟨t, ht, reached⟩
    · exact own
    · exact filled.complete.closed hc subquery.node t own ht n reached
  | _ => exact hn.elim

/-- A registration changes no cell. -/
theorem CellGrowth.register (s : Session) (k : Nat) (name : String) (m : EntityMetadata) :
    s.CellGrowth (.register k name m) := by
  obtain ⟨hcells, -⟩ := s.step_register k name m
  refine ⟨fun n q hq => ?_, fun n q hq => ?_, fun _ come => come.elim,
    fun n _ => congrFun hcells n, fun _ _ hn => hn.elim⟩
  · rw [hcells]
    exact hq
  · rw [hcells] at hq
    exact .inl hq

/-- **Each step of a consistent session fills the cells of what it comes to.** -/
theorem Consistent.cellGrowth {s : Session} (h : s.Consistent) (hc : s.Closed) (st : Step) :
    s.CellGrowth st := by
  by_cases hst : ∃ k name m, st = .register k name m
  · obtain ⟨k, name, m, rfl⟩ := hst
    exact .register s k name m
  · have filled := step_filled h fun k name m e => hst ⟨k, name, m, e⟩
    have sound := filled.complete.sound.cells
    refine ⟨filled.keeps, fun n q hq => ?_, fun n come empty => ?_, filled.passed,
      fun success n hn => ?_⟩
    · by_cases come : s.ComesTo st n
      · cases before : s.store.cells n with
        | some p => exact .inl ((filled.keeps n p before).symm.trans hq)
        | none => exact .inr ⟨come.compiles, outcome_of_frozen_query h before (sound n q hq)⟩
      · exact .inl ((filled.passed n come).symm.trans hq)
    · have full := filled.full n come
      have sound := sound n
      rw [Store.Full, frozen_query_eq_outcome h empty] at full
      rw [frozen_query_eq_outcome h empty] at sound
      cases ho : s.outcome n with
      | ok p => exact full _ (by rw [ho]; rfl)
      | error e =>
        -- what is in a sound cell could be built
        rw [ho] at sound
        cases hq : (s.step st).2.store.cells n with
        | none => rfl
        | some q => cases sound q hq
    · exact Option.ne_none_iff_exists'.1 (h.succeeded hc success hn)

/-- **Cells of a consistent session are shared by number and by nothing else.** -/
theorem Consistent.sharing {s : Session} (h : s.Consistent) : s.Sharing where
  clones a b hab := by
    refine ⟨by rw [isCompiled, isCompiled, hab], by simp only [step, hab], fun q hq => ?_⟩
    exact compiled_of_filled h (hab ▸ hq)
  fresh st sub hsub := by
    cases st with
    | nest selector columns aliasName =>
      cases hsub
      refine ⟨rfl, ?_⟩
      cases hc : s.store.cells s.nested.length with
      | none => simp only [step, isCompiled, hc, Option.isSome_none]
      | some q => exact absurd (h.lt_length hc) (Nat.lt_irrefl _)
    | openRegistry => cases hsub
    | register k name m =>
      simp only [step] at hsub
      split at hsub <;> cases hsub
    | resolve registry key => exact absurd hsub (run_fst_ne_subquery fun _ => Answer.noConfusion)
    | build selector => exact absurd hsub (run_fst_ne_subquery fun _ => Answer.noConfusion)
    | compiled subquery => exact absurd hsub (run_fst_ne_subquery fun _ => Answer.noConfusion)
    | metadata subquery => exact absurd hsub (run_fst_ne_subquery fun _ => Answer.noConfusion)
  copies a b t hab ha hb hrefs := by
    have other : ∀ k name m, Step.compiled a ≠ .register k name m := fun _ _ _ => Step.noConfusion
    have filled := step_filled h other
    have apart : ¬ s.Compiles (.compiled a) b.node := by
      rintro (same | ⟨t', ht', further⟩)
      · exact hab same.symm
      · cases ha.symm.trans ht'
        exact Nat.lt_irrefl _ (reaches_lt hrefs further)
    rw [isCompiled, isCompiled, filled.passed b.node fun come => apart come.compiles]

/-! ## 5. Runs -/

/-- What is held for good by a session is held by a later one. -/
structure Outlasts (s later : Session) : Prop where
  typed : ∀ k type, type ∈ (s.registry k).typed → type ∈ (later.registry k).typed
  cells : ∀ n q, s.store.cells n = some q → later.store.cells n = some q

/-- A run keeps its session consistent. -/
theorem consistent_steps (run : List Step) : (start.steps run).2.Consistent :=
  (worded_steps run).sound

/-- Each step of a consistent session leaves its cells closed. -/
theorem Consistent.closed_step {s : Session} (h : s.Consistent) (hc : s.Closed) (st : Step) :
    (s.step st).2.Closed := by
  cases st with
  | register k name m =>
    obtain ⟨hcells, -⟩ := s.step_register k name m
    have hnested : (s.step (.register k name m)).2.nested = s.nested := by
      simp only [step]
      split <;> rfl
    rw [Closed, hcells, hnested]
    exact hc
  | nest selector columns aliasName =>
    refine hc.concat (fun n filled => ?_) selector
    obtain ⟨q, hq⟩ := Option.ne_none_iff_exists'.1 filled
    exact h.lt_length hq
  | openRegistry => exact hc
  | resolve registry key => exact (step_filled h fun _ _ _ => Step.noConfusion).complete.closed hc
  | build selector => exact (step_filled h fun _ _ _ => Step.noConfusion).complete.closed hc
  | compiled subquery => exact (step_filled h fun _ _ _ => Step.noConfusion).complete.closed hc
  | metadata subquery => exact (step_filled h fun _ _ _ => Step.noConfusion).complete.closed hc

/-- A run leaves the cells of its session closed. -/
theorem closed_steps (run : List Step) : (start.steps run).2.Closed := by
  induction run using List.reverseRecOn with
  | nil => exact fun _ _ filled => absurd rfl filled
  | append_singleton run st ih =>
    rw [steps_concat]
    exact (consistent_steps run).closed_step ih st

/-- **Each step of a run lets its session grow.** -/
theorem growth_step (run : List Step) (st : Step) : (start.steps run).2.Growth st :=
  ⟨registryGrowth _ st, (consistent_steps run).cellGrowth (closed_steps run) st⟩

theorem outlasts_steps (run more : List Step) :
    (start.steps run).2.Outlasts (start.steps (run ++ more)).2 := by
  induction more using List.reverseRecOn with
  | nil =>
    rw [List.append_nil]
    exact ⟨fun _ _ h => h, fun _ _ h => h⟩
  | append_singleton more st ih =>
    have growth := growth_step (run ++ more) st
    rw [← List.append_assoc, steps_concat]
    exact ⟨fun k type h => growth.typed k type (ih.typed k type h),
      fun n q h => growth.kept n q (ih.cells n q h)⟩

/-- **How sessions grow.** At every moment of every run, each step, successful or failing, does to
the session only what `Growth` says, nested statements share cells as `Sharing` says, and what is
held for good is held to the end of the run. -/
theorem growth_in_runs (run more : List Step) (st : Step) :
    (start.steps run).2.Growth st ∧ (start.steps run).2.Sharing ∧
      (start.steps run).2.Outlasts (start.steps (run ++ more)).2 :=
  ⟨growth_step run st, (consistent_steps run).sharing, outlasts_steps run more⟩

/-- One statement that can be built, one that cannot, and the first one again. -/
def abandonedRun : List Step :=
  [.register 0 "user" { tableName := "users", fields := [("Id", "id"), ("Name", "name")] },
    .nest namesakes [] none, .nest ghosts [] none, .nest namesakes [] none]

/-- A statement that asks for all three of them in their order. -/
def abandonedPage : Selector :=
  { usersPage with
    filters := [.keyword (.exist { node := 0 }), .keyword (.exist { node := 1 }),
      .keyword (.exist { node := 2 })] }

theorem growth_in_runs_abandonedRun :
    let s := (start.steps abandonedRun).2
    let after := s.step (.build abandonedPage)
    after.1 = .failed (.unknownField "Ghost") ∧
      after.2.store.cells 0
        = some { sql := "SELECT `id` FROM `users` WHERE `name` = ?", args := [.text "Ann"] } ∧
      after.2.store.cells 1 = none ∧ after.2.store.cells 2 = none := by
  intro s after
  obtain ⟨growth, -⟩ := growth_in_runs abandonedRun [] (.build abandonedPage)
  have flaws : flawsBeside s.store.cells s.store.answer s.nested 0 = none ∧
      flawsBeside s.store.cells s.store.answer s.nested 1 = some (.unknownField "Ghost") := by
    decide +kernel
  have first : s.ComesTo (.build abandonedPage) 0 :=
    .direct ⟨_, rfl, [], _, rfl, List.forall_mem_nil _⟩ rfl (by decide)
  have second : s.ComesTo (.build abandonedPage) 1 :=
    .direct ⟨_, rfl, [.nested { node := 0 }], _, rfl, List.forall_mem_singleton.2 flaws.1⟩ rfl
      (by decide)
  have third : ¬ s.ComesTo (.build abandonedPage) 2 := by
    intro come
    obtain ⟨i, ⟨primary, -, met⟩, k, hk, -, asked⟩ := Selector.comesTo_iff.1 come
    have le : 2 ≤ k := asked.le
    rcases unblocked_cons.1 met with rfl | ⟨-, met⟩
    · cases hk
      exact absurd le (by decide)
    · rcases unblocked_cons.1 met with rfl | ⟨clean, -⟩
      · cases hk
        exact absurd le (by decide)
      · cases flaws.2.symm.trans clean
  refine ⟨rfl, (growth.come 0 first rfl).trans ?_, (growth.come 1 second rfl).trans ?_,
    (growth.passed 2 third).trans rfl⟩
  · rfl
  · rfl

end Session

end SqlSelect
