import Mathlib.Data.List.Induction
import SqlSelect.Proofs.Correspondence
/-!
# Builds over stores and frozen builds

A frozen build runs in `Except BuildError`: entities are described by a function, some nested
statements may have their results already, and every reference to another one builds it anew. It
has no store, so equal frozen builds give equal results, and this is where properties of statements
are proved.

* `Store.answer` -- the function by which a store describes entities; no step of a build changes it
  (`Store.answer_setRegistry`), although entity types are taken up on the way;
* `Store.Sound` -- the invariant of a store: every filled cell holds what the frozen build of its
  statement gives. Every store is sound for the results that are in its cells
  (`Store.Sound.of_cells`), and a store with empty cells for none at all (`Store.Sound.of_empty`);
* `build_inCells` -- from a sound store a build gives what the frozen build gives, success or
  failure, and leaves a sound store with the same answers;
* `never_answers` -- so does a build that keeps nothing, from any store.
-/

namespace SqlSelect

/-! ## 1. Runs of a build -/

section Run

variable {α β : Type}

theorem run_bind (x : BuildM α) (f : α → BuildM β) (st : Store) :
    (x >>= f).run.run st = match x.run.run st with
      | (.ok a, st') => (f a).run.run st'
      | (.error e, st') => (.error e, st') := by
  unfold ExceptT.run StateT.run
  simp only [bind, ExceptT.bind, ExceptT.mk, StateT.bind, ExceptT.bindCont]
  cases x st with
  | mk result st' => cases result <;> rfl

theorem run_map (f : α → β) (x : BuildM α) (st : Store) :
    (f <$> x).run.run st = ((x.run.run st).1.map f, (x.run.run st).2) := by
  rw [← bind_pure_comp, run_bind]
  rcases x.run.run st with ⟨e | a, st'⟩ <;> rfl

theorem run_get (st : Store) : (get : BuildM Store).run.run st = (.ok st, st) := rfl

theorem run_modify (f : Store → Store) (st : Store) :
    (modify f : BuildM PUnit).run.run st = (.ok (), f st) := rfl

/-- Keeping in cells asks the cell first and fills it after a success. -/
theorem run_inCells (n : Nat) (b : BuildM Query) (st : Store) :
    (Keeping.inCells n b).run.run st = match st.cells n with
      | some q => (.ok q, st)
      | none => match b.run.run (st.note n) with
        | (.ok q, st') => (.ok q, st'.fill n q)
        | (.error e, st') => (.error e, st') := by
  unfold Keeping.inCells
  rw [run_bind]
  cases hc : st.cells n with
  | some q =>
    simp only [run_get, hc]
    rfl
  | none =>
    simp only [run_get, hc, run_bind, run_modify]
    rcases b.run.run (st.note n) with ⟨e | q, st'⟩ <;> rfl

/-- **What a build answers over the stores of an invariant**: always the same, and the store it
leaves is one of them again. -/
def answering (I : Store → Prop) : Correspondence BuildM (Except BuildError) where
  Holds b r := ∀ st, I st → (b.run.run st).1 = r ∧ I (b.run.run st).2
  ofPure _ _ hst := ⟨rfl, hst⟩
  ofThrow _ _ hst := ⟨rfl, hst⟩
  ofBind := by
    intro α β x r f g hx hf st hst
    obtain ⟨hr, hst'⟩ := hx st hst
    rcases h : x.run.run st with ⟨e | a, st'⟩
    · rw [h] at hr hst'
      rw [run_bind, h, ← hr]
      exact ⟨rfl, hst'⟩
    · rw [h] at hr hst'
      rw [run_bind, h, ← hr]
      exact hf a st' hst'

end Run

/-! ## 2. Descriptions -/

/-- The description of an entity that a store has, by registry. -/
def Store.answer (st : Store) (n : Nat) (key : EntityKey) : Except BuildError EntityMetadata :=
  ((st.registries n).resolve key).1

theorem run_resolve (n : Nat) (key : EntityKey) (st : Store) :
    (resolve n key).run.run st
      = (st.answer n key, st.setRegistry n ((st.registries n).resolve key).2) := by
  have lifted (result : Except BuildError EntityMetadata) (st : Store) :
      (resolve.liftExcept result).run.run st = (result, st) := by cases result <;> rfl
  exact lifted ((st.registries n).resolve key).1 _

/-- Taking up what a registry has described leaves every answer as it is. -/
theorem Store.answer_setRegistry (st : Store) (n : Nat) (key : EntityKey) :
    (st.setRegistry n ((st.registries n).resolve key).2).answer = st.answer := by
  funext k other
  by_cases hk : k = n
  · subst hk
    simp only [answer, setRegistry, update_self, Registry.resolve_resolve_fst]
  · simp only [answer, setRegistry, update_of_ne _ _ hk]

/-- The stores that describe entities as `describe` does. -/
def Store.Describes (describe : Nat → EntityKey → Except BuildError EntityMetadata)
    (st : Store) : Prop :=
  st.answer = describe

variable {describe : Nat → EntityKey → Except BuildError EntityMetadata}

theorem resolve_answers {I : Store → Prop} (hI : ∀ st, I st → st.Describes describe)
    (hkeep : ∀ st n r, I st → (st.setRegistry n r).Describes describe → I (st.setRegistry n r))
    (n : Nat) (key : EntityKey) : (answering I).Holds (resolve n key) (describe n key) := by
  intro st hst
  rw [run_resolve]
  refine ⟨congrFun (congrFun (hI st hst) n) key, hkeep st n _ hst ?_⟩
  exact (st.answer_setRegistry n key).trans (hI st hst)

/-! ## 3. Nested statements by their numbers -/

section Numbers

variable {m : Type → Type} [Monad m] [MonadExcept BuildError m] {keeping : Keeping m}
  {described : Nat → EntityKey → m EntityMetadata}

theorem ofList_concat (nested : List Selector) (s : Selector) :
    Inner.ofList keeping described (nested ++ [s])
      = (Inner.ofList keeping described nested).push keeping s := by
  simp only [Inner.ofList, List.foldl_append, List.foldl_cons, List.foldl_nil]

@[simp] theorem size_ofList (nested : List Selector) :
    (Inner.ofList keeping described nested).size = nested.length := by
  induction nested using List.reverseRecOn with
  | nil => rfl
  | append_singleton nested s ih =>
    rw [ofList_concat, List.length_append, ← ih]
    rfl

@[simp] theorem describe_ofList (nested : List Selector) :
    (Inner.ofList keeping described nested).describe = described := by
  induction nested using List.reverseRecOn with
  | nil => rfl
  | append_singleton nested s ih =>
    rw [ofList_concat]
    exact ih

/-- How results are kept changes no description. -/
theorem metadata_ofList (k : Keeping m) (nested : List Selector) :
    (Inner.ofList k described nested).metadata
      = (Inner.ofList keeping described nested).metadata := by
  induction nested using List.reverseRecOn with
  | nil => rfl
  | append_singleton nested s ih =>
    rw [ofList_concat, ofList_concat]
    simp only [Inner.push, size_ofList, describe_ofList, ih]

/-- The result of the last statement of a list. -/
theorem query_concat_self (nested : List Selector) (s : Selector) :
    (Inner.ofList keeping described (nested ++ [s])).query nested.length
      = keeping nested.length (s.buildNested (.ofList keeping described nested)) := by
  simp only [ofList_concat, Inner.push, size_ofList, if_true]

/-- A statement more at the end changes nothing for the ones before it. -/
theorem query_concat_of_ne {nested : List Selector} {n : Nat} (s : Selector)
    (h : n ≠ nested.length) : (Inner.ofList keeping described (nested ++ [s])).query n
      = (Inner.ofList keeping described nested).query n := by
  simp only [ofList_concat, Inner.push, size_ofList, if_neg h]

/-- A number without a statement stands for a statement without an entity. -/
theorem query_of_length_le {nested : List Selector} {n : Nat} (h : nested.length ≤ n) :
    (Inner.ofList keeping described nested).query n = throw .nilEntity := by
  induction nested using List.reverseRecOn with
  | nil => rfl
  | append_singleton nested s ih =>
    rw [List.length_append, List.length_singleton] at h
    rw [query_concat_of_ne s (by omega), ih (by omega)]

/-- Statements more at the end change nothing for the ones before them. -/
theorem query_append {nested : List Selector} {n : Nat} (more : List Selector)
    (h : n < nested.length) : (Inner.ofList keeping described (nested ++ more)).query n
      = (Inner.ofList keeping described nested).query n := by
  induction more using List.reverseRecOn with
  | nil => rw [List.append_nil]
  | append_singleton more s ih =>
    have hn : n ≠ (nested ++ more).length := by
      rw [List.length_append]
      omega
    rw [← List.append_assoc, query_concat_of_ne s hn, ih]

end Numbers

/-! ## 4. The store invariant -/

/-- Some results are there already; nothing is kept of the other builds. -/
def Keeping.given (kept : Nat → Option Query) : Keeping (Except BuildError) :=
  fun n build => (kept n).elim build .ok

/-- What a statement is compiled against in a frozen build. -/
abbrev frozen (kept : Nat → Option Query)
    (describe : Nat → EntityKey → Except BuildError EntityMetadata) (nested : List Selector) :
    Inner (Except BuildError) :=
  .ofList (.given kept) describe nested

variable {kept : Nat → Option Query} {nested : List Selector}

/-- A result that is there already is the one of a frozen build. -/
theorem query_of_kept {n : Nat} {q : Query} (hn : n < nested.length) (hq : kept n = some q) :
    (frozen kept describe nested).query n = .ok q := by
  induction nested using List.reverseRecOn with
  | nil => cases hn
  | append_singleton nested s ih =>
    by_cases h : n = nested.length
    · subst h
      rw [frozen, query_concat_self, Keeping.given, hq]
      rfl
    · rw [List.length_append, List.length_singleton] at hn
      rw [frozen, query_concat_of_ne s h]
      exact ih (by omega)

/-- **The invariant of a store**: it describes entities as `describe` does, its cells hold the results
that were there already, and every filled cell holds what the frozen build of its statement gives. -/
structure Store.Sound (kept : Nat → Option Query)
    (describe : Nat → EntityKey → Except BuildError EntityMetadata) (nested : List Selector)
    (st : Store) : Prop where
  describes : st.Describes describe
  keeps : ∀ n q, kept n = some q → st.cells n = some q
  cells : ∀ n q, st.cells n = some q → (frozen kept describe nested).query n = .ok q

namespace Store

variable {st : Store}

/-- A store is sound for what its cells hold. -/
theorem Sound.of_cells (h : ∀ n q, st.cells n = some q → n < nested.length) :
    st.Sound st.cells st.answer nested where
  describes := rfl
  keeps _ _ hq := hq
  cells n q hq := query_of_kept (h n q hq) hq

/-- A store with empty cells is sound. -/
theorem Sound.of_empty (h : ∀ n, st.cells n = none) :
    st.Sound (fun _ => none) st.answer nested where
  describes := rfl
  keeps _ _ hq := nomatch hq
  cells n q hq := absurd hq (by simp [h n])

theorem Sound.fill (h : st.Sound kept describe nested) {n : Nat} {q : Query}
    (hq : (frozen kept describe nested).query n = .ok q) :
    (st.fill n q).Sound kept describe nested where
  describes := h.describes
  keeps k p hp := by
    by_cases hk : k = n
    · subst hk
      have same := (h.cells k p (h.keeps k p hp)).symm.trans hq
      cases same
      simp only [Store.fill, update_self]
    · simp only [Store.fill, update_of_ne _ _ hk]
      exact h.keeps k p hp
  cells k p hp := by
    by_cases hk : k = n
    · subst hk
      simp only [Store.fill, update_self, Option.some.injEq] at hp
      exact hp ▸ hq
    · simp only [Store.fill, update_of_ne _ _ hk] at hp
      exact h.cells k p hp

/-- A cell without a statement of its number is empty. -/
theorem Sound.lt_length (h : st.Sound kept describe nested) {n : Nat} {q : Query}
    (hq : st.cells n = some q) : n < nested.length := by
  by_contra hn
  have := h.cells n q hq
  rw [query_of_length_le (Nat.not_lt.1 hn)] at this
  cases this

end Store

/-! ## 5. Builds answer what frozen builds answer -/

/-- Taking up a type keeps a store sound. -/
theorem resolve_sound (n : Nat) (key : EntityKey) :
    (answering (Store.Sound kept describe nested)).Holds (resolve n key) (describe n key) :=
  resolve_answers (fun _ h => h.describes) (fun _ _ _ h hr => ⟨hr, h.keeps, h.cells⟩) n key

/-- **A build that keeps nothing** answers what the frozen build answers. -/
theorem never_answers (nested : List Selector) :
    (answering (Store.Describes describe)).Inners (.ofList .never resolve nested)
      (frozen (fun _ => none) describe nested) :=
  Correspondence.ofList (resolve_answers (fun _ h => h) fun _ _ _ _ h => h) nested

/-- Keeping in cells answers what the frozen build answers, if the build that is kept does. -/
theorem inCells_answers {n : Nat} {b : BuildM Query}
    (h : kept n = none → (answering (Store.Sound kept describe nested)).Holds b
      ((frozen kept describe nested).query n)) :
    (answering (Store.Sound kept describe nested)).Holds (Keeping.inCells n b)
      ((frozen kept describe nested).query n) := by
  intro st hst
  rw [run_inCells]
  cases hc : st.cells n with
  | some q => exact ⟨(hst.cells n q hc).symm, hst⟩
  | none =>
    have hk : kept n = none := by
      cases hk : kept n with
      | none => rfl
      | some q =>
        rw [hst.keeps n q hk] at hc
        cases hc
    obtain ⟨hr, hst'⟩ := h hk (st.note n) ⟨hst.describes, hst.keeps, hst.cells⟩
    rcases hb : b.run.run (st.note n) with ⟨e | q, st'⟩
    · rw [hb] at hr hst'
      exact ⟨hr, hst'⟩
    · rw [hb] at hr hst'
      exact ⟨hr, hst'.fill hr.symm⟩

/-- **Nested statements kept in cells** answer what frozen builds of them answer. -/
theorem inCells_ofList (nested more : List Selector) :
    (answering (Store.Sound kept describe (nested ++ more))).Inners
      (.ofList .inCells resolve nested) (frozen kept describe nested) := by
  have hd : ∀ n key, (answering (Store.Sound kept describe (nested ++ more))).Holds (resolve n key)
      (describe n key) := resolve_sound
  induction nested using List.reverseRecOn generalizing more with
  | nil => exact Correspondence.empty hd
  | append_singleton nested s ih =>
    rw [List.append_assoc] at hd ⊢
    have hi := ih ([s] ++ more) hd
    rw [ofList_concat, frozen, ofList_concat]
    refine Correspondence.push hi ?_
    have hq : (frozen kept describe (nested ++ ([s] ++ more))).query nested.length
        = Keeping.given kept nested.length (s.buildNested (frozen kept describe nested)) := by
      rw [← List.append_assoc, query_append more (by simp), query_concat_self]
    rw [size_ofList]
    refine hq ▸ inCells_answers fun hk => ?_
    have anew : Keeping.given kept nested.length (s.buildNested (frozen kept describe nested))
        = s.buildNested (frozen kept describe nested) := by
      rw [Keeping.given, hk]
      rfl
    rw [hq, anew]
    exact Correspondence.buildNested hi s

/-- What a session's builds are given answers what frozen builds answer. -/
theorem inCells_inners (nested : List Selector) :
    (answering (Store.Sound kept describe nested)).Inners (.ofList .inCells resolve nested)
      (frozen kept describe nested) := by
  have h : (answering (Store.Sound kept describe (nested ++ []))).Inners
      (.ofList .inCells resolve nested) (frozen kept describe nested) := inCells_ofList nested []
  rwa [List.append_nil] at h

/-- **From a sound store a build gives what the frozen build gives**, and leaves a sound store. -/
theorem build_inCells {st : Store} (h : st.Sound kept describe nested) (s : Selector) :
    ((s.build (.ofList .inCells resolve nested)).run.run st).1
        = s.build (frozen kept describe nested)
      ∧ Store.Sound kept describe nested
        ((s.build (.ofList .inCells resolve nested)).run.run st).2 :=
  Correspondence.build (inCells_inners nested) s st h

end SqlSelect
