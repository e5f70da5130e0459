import SqlSelect.Proofs.Growth
/-!
# Building a statement again

A first build takes up entity types and fills cells, and it may stop half-way with an error. A second
build of the same statement takes other paths: it finds the types taken up and the cells filled. It
still answers what the first one answered, and it finds nothing left to do.

* `Store.Within`, `Store.Unchanged` -- another store holds at least as much; it holds the same, whatever
  was begun or asked on the way;
* `settling` -- what a build leaves behind settles it: run again, from any sound store that holds at
  least this, it answers the same and changes nothing (the invariant is that of `Store.Sound`, so it
  is kept by every step in between);
* `inCells_settle` -- the two paths of a cell: a success is found in its cell by the second run, and a
  failure, which left the cell empty, is run into again;
* `Session.build_again` -- both builds in a session, from every state that a run can reach.
-/

namespace SqlSelect

/-! ## 1. What stores hold -/

namespace Store

/-- All that the store holds is held by another one: the types it has taken up, and its filled
cells. -/
structure Within (st st' : Store) : Prop where
  typed : ∀ k type, type ∈ (st.registries k).typed → type ∈ (st'.registries k).typed
  cells : ∀ n q, st.cells n = some q → st'.cells n = some q

/-- Another store holds the same names, types and results. -/
structure Unchanged (st st' : Store) : Prop where
  named : ∀ k, (st'.registries k).named = (st.registries k).named
  typed : ∀ k, (st'.registries k).typed = (st.registries k).typed
  cells : st'.cells = st.cells

variable {st st' st'' : Store}

theorem Within.refl (st : Store) : st.Within st := ⟨fun _ _ h => h, fun _ _ h => h⟩

theorem Within.trans (h : st.Within st') (h' : st'.Within st'') : st.Within st'' :=
  ⟨fun k type ht => h'.typed k type (h.typed k type ht),
    fun n q hq => h'.cells n q (h.cells n q hq)⟩

theorem Within.unchanged (h : st.Within st') (h' : st'.Unchanged st'') : st.Within st'' where
  typed k type ht := by
    rw [h'.typed k]
    exact h.typed k type ht
  cells n q hq := by
    rw [h'.cells]
    exact h.cells n q hq

theorem Unchanged.refl (st : Store) : st.Unchanged st := ⟨fun _ => rfl, fun _ => rfl, rfl⟩

theorem Unchanged.trans (h : st.Unchanged st') (h' : st'.Unchanged st'') : st.Unchanged st'' :=
  ⟨fun k => (h'.named k).trans (h.named k), fun k => (h'.typed k).trans (h.typed k),
    h'.cells.trans h.cells⟩

/-- An answer depends on the names and the types of its registry only. -/
theorem Unchanged.answer (h : st.Unchanged st') : st'.answer = st.answer := by
  funext k key
  cases key with
  | named name => simp only [Store.answer, Registry.resolve_named, Registry.get?, h.named k]
  | typed type => simp only [Store.answer, Registry.resolve_typed_fst, h.typed k]

theorem Unchanged.sound {kept : Nat → Option Query}
    {describe : Nat → EntityKey → Except BuildError EntityMetadata} {nested : List Selector}
    (h : st.Unchanged st') (hst : st.Sound kept describe nested) : st'.Sound kept describe nested where
  describes := h.answer.trans hst.describes
  keeps n q hq := by
    rw [h.cells]
    exact hst.keeps n q hq
  cells n q hq := by
    rw [h.cells] at hq
    exact hst.cells n q hq

end Store

/-- A registry that has taken up all that a key can bring is changed by it in no name and no type. -/
theorem Registry.typed_resolve {r : Registry} {key : EntityKey}
    (h : ∀ type, key = .typed type → type.description.isUsable → type ∈ r.typed) :
    (r.resolve key).2.typed = r.typed := by
  cases key with
  | named name => rw [resolve_named]
  | typed type =>
    simp only [resolve]
    split
    · rfl
    · next new =>
      split
      · next usable => exact absurd (h type rfl usable) new
      · rfl

/-! ## 2. Builds that are settled by what they leave behind -/

section Settling

variable {kept : Nat → Option Query} {describe : Nat → EntityKey → Except BuildError EntityMetadata}
  {nested : List Selector}

/-- **What the first run leaves settles the second one.** From a sound store the first computation
leaves a sound one that holds more. From every sound store that holds at least this, the second one
answers the same and leaves what it found. -/
def settling (kept : Nat → Option Query)
    (describe : Nat → EntityKey → Except BuildError EntityMetadata) (nested : List Selector) :
    Correspondence BuildM BuildM where
  Holds b c := ∀ st : Store, st.Sound kept describe nested →
    (b.run.run st).2.Sound kept describe nested ∧ st.Within (b.run.run st).2 ∧
      ∀ later : Store, later.Sound kept describe nested → (b.run.run st).2.Within later →
        (c.run.run later).1 = (b.run.run st).1 ∧ later.Unchanged (c.run.run later).2
  ofPure _ st hst := ⟨hst, .refl st, fun later _ _ => ⟨rfl, .refl later⟩⟩
  ofThrow _ st hst := ⟨hst, .refl st, fun later _ _ => ⟨rfl, .refl later⟩⟩
  ofBind := by
    intro α β x₁ x₂ f₁ f₂ hx hf st hst
    obtain ⟨hst', hwithin, again⟩ := hx st hst
    rw [run_bind]
    rcases h : x₁.run.run st with ⟨e | a, st'⟩
    · rw [h] at hst' hwithin again
      refine ⟨hst', hwithin, fun later hlater hmore => ?_⟩
      obtain ⟨hr, hsame⟩ := again later hlater hmore
      rcases h₂ : x₂.run.run later with ⟨r, later'⟩
      rw [h₂] at hr hsame
      obtain rfl : r = .error e := hr
      rw [run_bind, h₂]
      exact ⟨rfl, hsame⟩
    · rw [h] at hst' hwithin again
      obtain ⟨hst'', hwithin', again'⟩ := hf a st' hst'
      refine ⟨hst'', hwithin.trans hwithin', fun later hlater hmore => ?_⟩
      obtain ⟨hr, hsame⟩ := again later hlater (hwithin'.trans hmore)
      rcases h₂ : x₂.run.run later with ⟨r, later'⟩
      rw [h₂] at hr hsame
      obtain rfl : r = .ok a := hr
      rw [run_bind, h₂]
      -- the store in between is as good as the one the second run began with
      obtain ⟨hr', hsame'⟩ := again' later' (hsame.sound hlater) (hmore.unchanged hsame)
      exact ⟨hr', hsame.trans hsame'⟩

theorem resolve_settles (registry : Nat) (key : EntityKey) :
    (settling kept describe nested).Holds (resolve registry key) (resolve registry key) := by
  intro st hst
  refine ⟨(resolve_sound registry key st hst).2, ?_, fun later hlater hmore => ⟨?_, ?_⟩⟩
  · rw [run_resolve]
    refine ⟨fun k type htype => ?_, fun _ _ hq => hq⟩
    by_cases hk : k = registry
    · subst hk
      simp only [Store.setRegistry, Store.update_self]
      exact Registry.mem_typed_resolve.2 (.inl htype)
    · simp only [Store.setRegistry, Store.update_of_ne _ _ hk]
      exact htype
  · exact (resolve_sound registry key later hlater).1.trans (resolve_sound registry key st hst).1.symm
  · rw [run_resolve] at hmore ⊢
    have taken : ∀ type, key = .typed type → type.description.isUsable →
        type ∈ (later.registries registry).typed := by
      intro type hkey husable
      refine hmore.typed registry type ?_
      simp only [Store.setRegistry, Store.update_self]
      exact Registry.mem_typed_resolve.2 (.inr ⟨hkey, husable⟩)
    refine ⟨fun k => ?_, fun k => ?_, rfl⟩
    · by_cases hk : k = registry
      · subst hk
        simp only [Store.setRegistry, Store.update_self, Registry.named_resolve]
      · simp only [Store.setRegistry, Store.update_of_ne _ _ hk]
    · by_cases hk : k = registry
      · subst hk
        simp only [Store.setRegistry, Store.update_self, Registry.typed_resolve taken]
      · simp only [Store.setRegistry, Store.update_of_ne _ _ hk]

/-- **The two paths of a cell.** After a success the second run finds the result. After a failure the
cell is empty in every sound store, for the frozen build of its statement fails too, so the second run
builds again, and that build is settled. -/
theorem inCells_settle {n : Nat} {b : BuildM Query}
    (hb : kept n = none → (settling kept describe nested).Holds b b)
    (answers : kept n = none → (answering (Store.Sound kept describe nested)).Holds b
      ((frozen kept describe nested).query n)) :
    (settling kept describe nested).Holds (Keeping.inCells n b) (Keeping.inCells n b) := by
  intro st hst
  refine ⟨(inCells_answers answers st hst).2, ?_⟩
  rw [run_inCells]
  cases hc : st.cells n with
  | some q =>
    refine ⟨.refl st, fun later _ hmore => ?_⟩
    rw [run_inCells, hmore.cells n q hc]
    exact ⟨rfl, .refl later⟩
  | none =>
    have hk : kept n = none := by
      cases hk : kept n with
      | none => rfl
      | some q => cases hc.symm.trans (hst.keeps n q hk)
    have noted {st : Store} (hst : st.Sound kept describe nested) :
        (st.note n).Sound kept describe nested := ⟨hst.describes, hst.keeps, hst.cells⟩
    obtain ⟨-, hwithin, again⟩ := hb hk (st.note n) (noted hst)
    have outcome := (answers hk (st.note n) (noted hst)).1
    rcases h : b.run.run (st.note n) with ⟨e | q, st'⟩
    · rw [h] at hwithin again outcome
      refine ⟨⟨hwithin.typed, hwithin.cells⟩, fun later hlater hmore => ?_⟩
      have empty : later.cells n = none := by
        cases hl : later.cells n with
        | none => rfl
        | some p => cases outcome.trans (hlater.cells n p hl)
      obtain ⟨hr, hsame⟩ := again (later.note n) (noted hlater) ⟨hmore.typed, hmore.cells⟩
      rw [run_inCells, empty]
      rcases h₂ : b.run.run (later.note n) with ⟨r, later'⟩
      rw [h₂] at hr hsame
      obtain rfl : r = .error e := hr
      exact ⟨rfl, hsame.named, hsame.typed, hsame.cells⟩
    · rw [h] at hwithin
      refine ⟨⟨hwithin.typed, fun k p hp => ?_⟩, fun later _ hmore => ?_⟩
      · have hkn : k ≠ n := by
          rintro rfl
          cases hc.symm.trans hp
        simp only [Store.fill, Store.update_of_ne _ _ hkn]
        exact hwithin.cells k p hp
      · have filled : later.cells n = some q := hmore.cells n q (Store.update_self _ _ _)
        rw [run_inCells, filled]
        exact ⟨rfl, .refl later⟩

/-- Nested statements kept in cells settle, over the stores of all statements. By induction on the
list: each statement is settled behind those before it. -/
theorem ofList_settles (nested more : List Selector) :
    (settling kept describe (nested ++ more)).Inners (.ofList .inCells resolve nested)
      (.ofList .inCells resolve nested) := by
  have hd : ∀ n key, (settling kept describe (nested ++ more)).Holds (resolve n key)
      (resolve n key) := resolve_settles
  induction nested using List.reverseRecOn generalizing more with
  | nil => exact Correspondence.empty hd
  | append_singleton nested s ih =>
    rw [List.append_assoc] at hd ⊢
    have hi := ih ([s] ++ more) hd
    have hs : (nested ++ ([s] ++ more))[nested.length]? = some s := by
      rw [List.getElem?_append_right (Nat.le_refl _), Nat.sub_self]
      rfl
    rw [ofList_concat]
    refine Correspondence.push hi ?_
    rw [size_ofList]
    refine inCells_settle (fun _ => Correspondence.buildNested hi s) fun hk => ?_
    rw [frozen_query hs hk, List.take_left]
    exact Correspondence.buildNested (inCells_ofList nested ([s] ++ more)) s

/-- **Every build is settled by what it leaves behind.** -/
theorem build_settles (s : Selector) :
    (settling kept describe nested).Holds (s.build (.ofList .inCells resolve nested))
      (s.build (.ofList .inCells resolve nested)) := by
  have hi : (settling kept describe (nested ++ [])).Inners (.ofList .inCells resolve nested)
      (.ofList .inCells resolve nested) := ofList_settles nested []
  rw [List.append_nil] at hi
  exact Correspondence.build hi s

end Settling

/-! ## 3. Sessions -/

namespace Session

/-- Another session keeps the same: its registries have the same names and the same types, its nested
statements are the same, and so are their cells. -/
structure Unchanged (s s' : Session) : Prop where
  store : s.store.Unchanged s'.store
  nested : s'.nested = s.nested
  opened : s'.opened = s.opened

/-- **Building again.** After every run, with whatever names registered anew and whatever statements
nested and built in between, a statement that is built twice in a row gives the same query or the
same error both times, and the second build changes nothing. -/
theorem build_again (run : List Step) (selector : Selector) :
    let first := (start.steps run).2.step (.build selector)
    let second := first.2.step (.build selector)
    second.1 = first.1 ∧ first.2.Unchanged second.2 := by
  intro first second
  obtain ⟨hst, -, again⟩ := build_settles selector _ (consistent_steps run)
  obtain ⟨hr, hsame⟩ := again _ hst (.refl _)
  exact ⟨run_fst_congr hr _, hsame, rfl, rfl⟩

end Session

end SqlSelect
