import SqlSelect.Proofs.Flaws
/-!
# Which cells a build fills

A build meets the items of its statement up to the first one that has a flaw, that one included. What
it asks for on the way it comes to: nested statements whose cell is empty are built, again up to
their first flaw. So it can be read off the syntax, the descriptions of entities and the cells before
the build which statements are come to, whether the build succeeds or is abandoned half-way; all of
these that can be built are in their cells afterwards, and no other cell is changed.

* `flawsBeside` -- the first flaws of nested statements, of which some are kept already;
* `Selector.Meets`, `Selector.ComesTo` -- the items that are met, and the nested statements that are
  come to, at any depth;
* `Fills` -- a computation fills the cells of what it comes to and no others, with a rule for each way
  to put computations together. The invariant of the store is `Store.Complete`: what a statement
  comes to is in its cell as soon as the statement is;
* `build_fills` -- a build does;
* `comesTo_of_reaches`, `Store.Complete.closed` -- what has been built to its end has brought all into
  their cells that it reaches.
-/

namespace SqlSelect

/-! ## 1. What is come to -/

/-- An element of a list that no element with a flaw stands before. -/
def Unblocked {α : Type} (flaw : α → Option BuildError) (items : List α) (i : α) : Prop :=
  ∃ earlier later, items = earlier ++ i :: later ∧ ∀ j ∈ earlier, flaw j = none

section Unblocked

variable {α : Type} {flaw : α → Option BuildError} {items : List α} {i j : α}

theorem not_unblocked_nil : ¬ Unblocked flaw [] i := by
  rintro ⟨earlier, later, h, -⟩
  cases earlier <;> cases h

theorem unblocked_cons :
    Unblocked flaw (j :: items) i ↔ i = j ∨ flaw j = none ∧ Unblocked flaw items i := by
  constructor
  · rintro ⟨earlier, later, h, clean⟩
    cases earlier with
    | nil =>
      cases h
      exact .inl rfl
    | cons k earlier =>
      cases h
      exact .inr ⟨clean j List.mem_cons_self,
        earlier, later, rfl, fun k hk => clean k (List.mem_cons_of_mem j hk)⟩
  · rintro (rfl | ⟨hj, earlier, later, rfl, clean⟩)
    · exact ⟨[], items, rfl, fun _ h => nomatch h⟩
    · refine ⟨j :: earlier, later, rfl, fun k hk => ?_⟩
      rcases List.mem_cons.1 hk with rfl | hk
      · exact hj
      · exact clean k hk

theorem Unblocked.mem (h : Unblocked flaw items i) : i ∈ items := by
  obtain ⟨earlier, later, rfl, -⟩ := h
  exact List.mem_append_right earlier List.mem_cons_self

theorem unblocked_of_forall (hi : i ∈ items) (clean : ∀ j ∈ items, flaw j = none) :
    Unblocked flaw items i := by
  obtain ⟨earlier, later, rfl⟩ := List.append_of_mem hi
  exact ⟨earlier, later, rfl, fun j hj => clean j (List.mem_append_left _ hj)⟩

end Unblocked

section Coming

variable (kept : Nat → Option Query) (describe : Nat → EntityKey → Except BuildError EntityMetadata)

/-- The first flaws of nested statements by their numbers, if some results are kept already: a
statement whose result is there is not looked at again. -/
def flawsBeside (nested : List Selector) : Nat → Option BuildError :=
  tabulate (some .nilEntity) (fun before inner s =>
    if (kept before.length).isSome then none else s.flaw? describe before inner) nested

/-- The items that a build of a statement behind the statements `before` meets: none if its entity
has no description, and else those up to the first one with a flaw. -/
def Selector.Meets (before : List Selector) (s : Selector) (i : Item) : Prop :=
  ∃ primary, s.described describe = .ok primary ∧
    Unblocked (Item.flaw? describe s.db.registry primary before (flawsBeside kept describe before))
      s.items i

/-- **The nested statements that a build comes to**: those that it asks for at an item which it meets,
and, unless the result of such a one is kept already, those that its build comes to. -/
inductive Selector.ComesTo (nested : List Selector) : Nat → Selector → Nat → Prop
  | direct {bound n : Nat} {s : Selector} {i : Item}
    (hi : s.Meets kept describe (nested.take bound) i) (hn : i.asked? = some n) (below : n < bound) :
    ComesTo nested bound s n
  | through {bound k n : Nat} {s t : Selector} {i : Item}
    (hi : s.Meets kept describe (nested.take bound) i) (hk : i.asked? = some k) (below : k < bound)
    (empty : kept k = none) (ht : nested[k]? = some t) (further : ComesTo nested k t n) :
    ComesTo nested bound s n

/-- What is come to where the nested statement `k` is asked for: itself, and what its build comes to
unless its result is kept already. -/
def AskComesTo (nested : List Selector) (k n : Nat) : Prop :=
  n = k ∨ kept k = none ∧ ∃ t, nested[k]? = some t ∧ t.ComesTo kept describe nested k n

end Coming

variable {kept : Nat → Option Query} {describe : Nat → EntityKey → Except BuildError EntityMetadata}
  {nested : List Selector} {bound k n : Nat} {s t : Selector}

namespace Selector

theorem comesTo_iff : s.ComesTo kept describe nested bound n ↔
    ∃ i, s.Meets kept describe (nested.take bound) i ∧
      ∃ k, i.asked? = some k ∧ k < bound ∧ AskComesTo kept describe nested k n := by
  constructor
  · intro h
    cases h with
    | direct hi hn below => exact ⟨_, hi, n, hn, below, .inl rfl⟩
    | through hi hk below empty ht further => exact ⟨_, hi, _, hk, below, .inr ⟨empty, _, ht, further⟩⟩
  · rintro ⟨i, hi, k, hk, below, rfl | ⟨empty, t, ht, further⟩⟩
    · exact .direct hi hk below
    · exact .through hi hk below empty ht further

/-- What is come to is reached. -/
theorem ComesTo.reaches (h : s.ComesTo kept describe nested bound n) : s.Reaches nested bound n := by
  induction h with
  | direct hi hn below =>
    obtain ⟨primary, -, unblocked⟩ := hi
    exact .direct unblocked.mem (Item.mem_written_of_asked? hn) below
  | through hi hk below empty ht further ih =>
    obtain ⟨primary, -, unblocked⟩ := hi
    exact .through unblocked.mem (Item.mem_written_of_asked? hk) below ht ih

end Selector

theorem askComesTo_iff (ht : nested[k]? = some t) (empty : kept k = none) :
    AskComesTo kept describe nested k n ↔ n = k ∨ t.ComesTo kept describe nested k n := by
  refine or_congr_right ⟨?_, fun further => ⟨empty, t, ht, further⟩⟩
  rintro ⟨-, t', ht', further⟩
  cases ht.symm.trans ht'
  exact further

theorem AskComesTo.le (h : AskComesTo kept describe nested k n) : n ≤ k := by
  rcases h with rfl | ⟨-, t, -, further⟩
  · exact Nat.le_refl _
  · exact Nat.le_of_lt further.reaches.lt

/-! ## 2. Frozen builds and flaws -/

/-- The frozen build of a nested statement that is not kept. -/
theorem frozen_query (hs : nested[n]? = some s) (hk : kept n = none) :
    (frozen kept describe nested).query n = s.buildNested (frozen kept describe (nested.take n)) := by
  rw [frozen, query_of_getElem? hs, Keeping.given, hk]
  rfl

theorem flawsBeside_of_getElem? (hs : nested[n]? = some s) (hk : kept n = none) :
    flawsBeside kept describe nested n
      = s.flaw? describe (nested.take n) (flawsBeside kept describe (nested.take n)) := by
  have hn : n ≤ nested.length := Nat.le_of_lt (List.getElem?_eq_some_iff.1 hs).1
  rw [flawsBeside, tabulate_of_getElem? hs, List.length_take_of_le hn, hk]
  rfl

theorem frozen_metadata (nested : List Selector) (n : Nat) :
    (frozen kept describe nested).metadata n = nestedEntity describe nested n := by
  unfold nestedEntity
  cases hn : nested[n]? with
  | none => exact metadata_of_length_le (List.getElem?_eq_none_iff.1 hn)
  | some t => exact (metadata_of_getElem? hn).trans (metadata_eq_described t)

/-- **Frozen builds give verdicts** on all that is not kept. By induction on the list: the last
statement is given the verdicts on those before it. -/
theorem frozen_givesVerdicts (nested : List Selector) :
    (frozen kept describe nested).GivesVerdicts describe nested
      (flawsBeside kept describe nested) := by
  refine ⟨describe_ofList nested, frozen_metadata nested, ?_⟩
  induction nested using List.reverseRecOn with
  | nil => exact fun _ => rfl
  | append_singleton nested t ih =>
    intro n
    by_cases hn : n = nested.length
    · subst hn
      rw [frozen, query_concat_self, flawsBeside, tabulate_concat_self, Keeping.given]
      cases kept nested.length with
      | some q => rfl
      | none =>
        have before : (frozen kept describe nested).GivesVerdicts describe nested
            (flawsBeside kept describe nested) :=
          ⟨describe_ofList nested, frozen_metadata nested, ih⟩
        exact (voidly_buildNested t).trans (before.voidly_build t)
    · rw [frozen, query_concat_of_ne t hn, flawsBeside, tabulate_concat_of_ne t hn]
      exact ih n

/-- A nested statement has a result exactly if it has no flaw. -/
theorem exists_frozen_query_iff : (∃ q, (frozen kept describe nested).query n = .ok q) ↔
    flawsBeside kept describe nested n = none := by
  have h : voidly ((frozen kept describe nested).query n)
      = verdict () (flawsBeside kept describe nested n) := (frozen_givesVerdicts nested).verdicts n
  constructor
  · rintro ⟨q, hq⟩
    rw [hq] at h
    cases hf : flawsBeside kept describe nested n with
    | none => rfl
    | some e =>
      rw [hf] at h
      cases h
  · intro hf
    rw [hf] at h
    cases hq : (frozen kept describe nested).query n with
    | ok q => exact ⟨q, rfl⟩
    | error e =>
      rw [hq] at h
      cases h

/-! ## 3. Filling -/

/-- If the nested statement can be built, its result is in its cell. -/
def Store.Full (kept : Nat → Option Query)
    (describe : Nat → EntityKey → Except BuildError EntityMetadata) (nested : List Selector)
    (st : Store) (n : Nat) : Prop :=
  ∀ q, (frozen kept describe nested).query n = .ok q → st.cells n = some q

/-- **The invariant**: the store is sound, and where a cell was filled since the beginning, so were the
cells of all that the build of its statement came to. -/
structure Store.Complete (kept : Nat → Option Query)
    (describe : Nat → EntityKey → Except BuildError EntityMetadata) (nested : List Selector)
    (st : Store) : Prop where
  sound : st.Sound kept describe nested
  inside : ∀ k t, kept k = none → st.cells k ≠ none → nested[k]? = some t →
    ∀ n, t.ComesTo kept describe nested k n → st.Full kept describe nested n

/-- What has happened to a store if some nested statements were come to: no cell was emptied, these
statements are in their cells if they can be built, and no other cell was changed. -/
structure Store.FilledBy (kept : Nat → Option Query)
    (describe : Nat → EntityKey → Except BuildError EntityMetadata) (nested : List Selector)
    (came : Nat → Prop) (st st' : Store) : Prop where
  complete : st'.Complete kept describe nested
  keeps : ∀ n q, st.cells n = some q → st'.cells n = some q
  full : ∀ n, came n → st'.Full kept describe nested n
  passed : ∀ n, ¬ came n → st'.cells n = st.cells n

variable {came came' : Nat → Prop} {st st' st'' : Store}

namespace Store

/-- A store that is sound for what its cells hold is complete: nothing was filled yet. -/
theorem Sound.complete (h : st.Sound st.cells describe nested) :
    st.Complete st.cells describe nested :=
  ⟨h, fun _ _ empty filled => absurd empty filled⟩

/-- Keeping a result empties no cell, and leaves one that is filled as it is. -/
theorem Sound.fill_keeps (h : st.Sound kept describe nested) {q : Query}
    (hq : (frozen kept describe nested).query n = .ok q) (k : Nat) (p : Query)
    (hp : st.cells k = some p) : (st.fill n q).cells k = some p := by
  by_cases hk : k = n
  · subst hk
    cases hq.symm.trans (h.cells k p hp)
    exact Store.update_self _ _ _
  · simp only [Store.fill, Store.update_of_ne _ _ hk]
    exact hp

theorem Full.mono (h : st.Full kept describe nested n)
    (keeps : ∀ n q, st.cells n = some q → st'.cells n = some q) : st'.Full kept describe nested n :=
  fun q hq => keeps n q (h q hq)

namespace FilledBy

theorem unchanged (h : st'.Complete kept describe nested) (cells : st'.cells = st.cells) :
    st.FilledBy kept describe nested (fun _ => False) st' where
  complete := h
  keeps n q hq := by
    rw [cells]
    exact hq
  full _ h := h.elim
  passed n _ := congrFun cells n

theorem congr (h : st.FilledBy kept describe nested came st') (same : ∀ n, came n ↔ came' n) :
    st.FilledBy kept describe nested came' st' where
  complete := h.complete
  keeps := h.keeps
  full n hn := h.full n ((same n).2 hn)
  passed n hn := h.passed n fun hc => hn ((same n).1 hc)

theorem trans (h : st.FilledBy kept describe nested came st')
    (h' : st'.FilledBy kept describe nested came' st'') :
    st.FilledBy kept describe nested (fun n => came n ∨ came' n) st'' where
  complete := h'.complete
  keeps n q hq := h'.keeps n q (h.keeps n q hq)
  full n hn := by
    rcases hn with hn | hn
    · exact (h.full n hn).mono h'.keeps
    · exact h'.full n hn
  passed n hn := by
    rw [not_or] at hn
    exact (h'.passed n hn.2).trans (h.passed n hn.1)

/-- A build that fails has nothing more to be kept. -/
theorem abandoned (h : st.FilledBy kept describe nested came st') {e : BuildError}
    (failed : (frozen kept describe nested).query n = .error e) :
    st.FilledBy kept describe nested (fun k => k = n ∨ came k) st' where
  complete := h.complete
  keeps := h.keeps
  full k hk := by
    rcases hk with rfl | hk
    · intro q hq
      cases failed.symm.trans hq
    · exact h.full k hk
  passed k hk := h.passed k fun hc => hk (.inr hc)

/-- The result of a build is kept, and with it all that the build came to. -/
theorem fill (h : st.FilledBy kept describe nested (t.ComesTo kept describe nested n) st')
    (ht : nested[n]? = some t) {q : Query} (hq : (frozen kept describe nested).query n = .ok q) :
    st.FilledBy kept describe nested (fun k => k = n ∨ t.ComesTo kept describe nested n k)
      (st'.fill n q) where
  complete := by
    refine ⟨h.complete.sound.fill hq, fun k t' hk hfilled ht' j further => ?_⟩
    by_cases same : k = n
    · subst same
      cases ht.symm.trans ht'
      exact (h.full j further).mono (h.complete.sound.fill_keeps hq)
    · simp only [Store.fill, Store.update_of_ne _ _ same] at hfilled
      exact (h.complete.inside k t' hk hfilled ht' j further).mono (h.complete.sound.fill_keeps hq)
  keeps k p hp := h.complete.sound.fill_keeps hq k p (h.keeps k p hp)
  full k hk := by
    rcases hk with rfl | hk
    · intro p hp
      cases hq.symm.trans hp
      exact Store.update_self _ _ _
    · exact (h.full k hk).mono (h.complete.sound.fill_keeps hq)
  passed k hk := by
    rw [not_or] at hk
    simp only [Store.fill, Store.update_of_ne _ _ hk.1]
    exact h.passed k hk.2

end FilledBy

end Store

/-- **A computation fills the cells of what it comes to**, and no others. -/
def Fills (kept : Nat → Option Query)
    (describe : Nat → EntityKey → Except BuildError EntityMetadata) (nested : List Selector)
    (came : Nat → Prop) {α : Type} (b : BuildM α) : Prop :=
  ∀ st : Store, st.Complete kept describe nested →
    st.FilledBy kept describe nested came (b.run.run st).2

namespace Fills

variable {α β : Type} {b : BuildM α} {f : α → BuildM β}

theorem congr (h : Fills kept describe nested came b) (same : ∀ n, came n ↔ came' n) :
    Fills kept describe nested came' b :=
  fun st hst => (h st hst).congr same

theorem ofVoidly (h : Fills kept describe nested came (SqlSelect.voidly b)) :
    Fills kept describe nested came b := by
  intro st hst
  have hv := h st hst
  rw [run_voidly] at hv
  exact hv

theorem voidly (h : Fills kept describe nested came b) :
    Fills kept describe nested came (SqlSelect.voidly b) := by
  intro st hst
  rw [run_voidly]
  exact h st hst

/-- A computation that fails is the last one. -/
theorem bind_of_error {e : BuildError} (h : Fills kept describe nested came b)
    (answers : (answering (Store.Sound kept describe nested)).Holds b (.error e)) :
    Fills kept describe nested came (b >>= f) := by
  intro st hst
  have hb := h st hst
  have failed := (answers st hst.sound).1
  rw [run_bind]
  rcases run : b.run.run st with ⟨r, st'⟩
  rw [run] at hb failed
  obtain rfl : r = .error e := failed
  exact hb

/-- A computation that succeeds is followed by the next one. -/
theorem bind_of_ok {a : α} (h : Fills kept describe nested came b)
    (answers : (answering (Store.Sound kept describe nested)).Holds b (.ok a))
    (hf : Fills kept describe nested came' (f a)) :
    Fills kept describe nested (fun n => came n ∨ came' n) (b >>= f) := by
  intro st hst
  have hb := h st hst
  have succeeded := (answers st hst.sound).1
  rw [run_bind]
  rcases run : b.run.run st with ⟨r, st'⟩
  rw [run] at hb succeeded
  obtain rfl : r = .ok a := succeeded
  exact hb.trans (hf st' hb.complete)

/-- **One item after the other**: those are come to that stand behind no flaw. -/
theorem forM {f : Item → BuildM Unit} {flaw : Item → Option BuildError}
    {came : Item → Nat → Prop} {items : List Item}
    (h : ∀ i ∈ items, Fills kept describe nested (came i) (f i))
    (answers : ∀ i ∈ items,
      (answering (Store.Sound kept describe nested)).Holds (f i) (verdict () (flaw i))) :
    Fills kept describe nested (fun n => ∃ i, Unblocked flaw items i ∧ came i n) (forM items f) := by
  induction items with
  | nil =>
    refine fun st hst => (Store.FilledBy.unchanged hst rfl).congr fun n => ?_
    exact ⟨False.elim, fun ⟨i, hi, _⟩ => not_unblocked_nil hi⟩
  | cons i rest ih =>
    have first := h i List.mem_cons_self
    have judged := answers i List.mem_cons_self
    rw [List.forM_cons]
    cases hi : flaw i with
    | some e =>
      rw [hi] at judged
      refine (first.bind_of_error judged).congr fun n => ⟨fun hn => ⟨i, ?_, hn⟩, ?_⟩
      · exact unblocked_cons.2 (.inl rfl)
      · rintro ⟨j, hj, hn⟩
        rcases unblocked_cons.1 hj with rfl | ⟨clean, -⟩
        · exact hn
        · cases hi.symm.trans clean
    | none =>
      rw [hi] at judged
      have further := ih (fun j hj => h j (List.mem_cons_of_mem i hj))
        fun j hj => answers j (List.mem_cons_of_mem i hj)
      refine (first.bind_of_ok judged further).congr fun n => ⟨?_, ?_⟩
      · rintro (hn | ⟨j, hj, hn⟩)
        · exact ⟨i, unblocked_cons.2 (.inl rfl), hn⟩
        · exact ⟨j, unblocked_cons.2 (.inr ⟨hi, hj⟩), hn⟩
      · rintro ⟨j, hj, hn⟩
        rcases unblocked_cons.1 hj with rfl | ⟨-, hj⟩
        · exact .inl hn
        · exact .inr ⟨j, hj, hn⟩

/-- Keeping in cells fills the cell and what the build comes to. If the cell is filled already, then
the invariant says that the rest is there too. -/
theorem inCells {b : BuildM Query} (ht : nested[n]? = some t)
    (h : kept n = none → Fills kept describe nested (t.ComesTo kept describe nested n) b)
    (answers : kept n = none → (answering (Store.Sound kept describe nested)).Holds b
      ((frozen kept describe nested).query n)) :
    Fills kept describe nested (AskComesTo kept describe nested n) (Keeping.inCells n b) := by
  intro st hst
  rw [run_inCells]
  cases hc : st.cells n with
  | some q =>
    refine ⟨hst, fun _ _ hq => hq, fun k hk => ?_, fun _ _ => rfl⟩
    rcases hk with rfl | ⟨empty, t', ht', further⟩
    · intro p hp
      cases (hst.sound.cells k q hc).symm.trans hp
      exact hc
    · exact hst.inside n t' empty (by simp [hc]) ht' k further
  | none =>
    have empty : kept n = none := by
      cases hk : kept n with
      | none => rfl
      | some q => cases hc.symm.trans (hst.sound.keeps n q hk)
    have noted : (st.note n).Complete kept describe nested :=
      ⟨⟨hst.sound.describes, hst.sound.keeps, hst.sound.cells⟩, hst.inside⟩
    have outcome := (answers empty (st.note n) noted.sound).1
    have inside := h empty (st.note n) noted
    have built : st.FilledBy kept describe nested (t.ComesTo kept describe nested n)
        (b.run.run (st.note n)).2 := ⟨inside.complete, inside.keeps, inside.full, inside.passed⟩
    have same k : k = n ∨ t.ComesTo kept describe nested n k ↔ AskComesTo kept describe nested n k :=
      (askComesTo_iff ht empty).symm
    rcases run : b.run.run (st.note n) with ⟨e | q, st'⟩
    · rw [run] at built outcome
      exact (built.abandoned outcome.symm).congr same
    · rw [run] at built outcome
      exact (built.fill ht outcome.symm).congr same

end Fills

/-! ## 4. Builds fill what they come to -/

/-- What changes no cell, whatever the store. -/
def idle (kept : Nat → Option Query)
    (describe : Nat → EntityKey → Except BuildError EntityMetadata) (nested : List Selector) :
    Correspondence BuildM BuildM where
  Holds b _ := Fills kept describe nested (fun _ => False) b
  ofPure _ _ hst := .unchanged hst rfl
  ofThrow _ _ hst := .unchanged hst rfl
  ofBind := by
    intro α β x _ f _ hx hf st hst
    have first := hx st hst
    rw [run_bind]
    rcases h : x.run.run st with ⟨e | a, st'⟩
    · rw [h] at first
      exact first
    · rw [h] at first
      exact (first.trans (hf a st' first.complete)).congr fun n => by simp

theorem idle_resolve (registry : Nat) (key : EntityKey) :
    (idle kept describe nested).Holds (resolve registry key) (resolve registry key) := by
  intro st hst
  have sound := (resolve_sound registry key st hst.sound).2
  rw [run_resolve] at sound ⊢
  exact .unchanged ⟨sound, hst.inside⟩ rfl

theorem idle_metadata (others : List Selector) (n : Nat) : (idle kept describe nested).Holds
    ((Inner.ofList .inCells resolve others).metadata n)
    ((Inner.ofList .inCells resolve others).metadata n) := by
  cases hn : others[n]? with
  | none =>
    rw [metadata_of_length_le (List.getElem?_eq_none_iff.1 hn)]
    exact (idle kept describe nested).ofThrow _
  | some t =>
    rw [metadata_of_getElem? hn]
    exact Correspondence.ofEntity idle_resolve t

/-- Statements behind the first `n` answer what frozen builds answer, over stores of all. -/
theorem inCells_take (n : Nat) :
    (answering (Store.Sound kept describe nested)).Inners (.ofList .inCells resolve (nested.take n))
      (frozen kept describe (nested.take n)) := by
  have h : (answering (Store.Sound kept describe (nested.take n ++ nested.drop n))).Inners
      (.ofList .inCells resolve (nested.take n)) (frozen kept describe (nested.take n)) :=
    inCells_ofList (nested.take n) (nested.drop n)
  rwa [List.take_append_drop] at h

/-- Meeting an item answers with its flaw. -/
theorem meet_answers (bound registry : Nat) (primary : EntityMetadata) (i : Item) :
    (answering (Store.Sound kept describe nested)).Holds
      (Scope.meet ⟨registry, primary, .ofList .inCells resolve (nested.take bound)⟩ i)
      (verdict () (i.flaw? describe registry primary (nested.take bound)
        (flawsBeside kept describe (nested.take bound)))) := by
  have given : (answering (Store.Sound kept describe nested)).Inners
      (.ofList .inCells resolve (nested.take bound)) (frozen kept describe (nested.take bound)) :=
    inCells_take bound
  rw [← (frozen_givesVerdicts (nested.take bound)).meet]
  have same : (Scope.mk registry primary (.ofList .inCells resolve (nested.take bound))).primary
      = (Scope.mk registry primary (frozen kept describe (nested.take bound))).primary := rfl
  exact Correspondence.meet same (fun key _ => given.describe registry key)
    (fun n _ => given.metadata n) fun n _ => Correspondence.ofVoidly (given.query n)

section Below

variable (hbound : bound ≤ nested.length)
  (below : ∀ k, k < bound → Fills kept describe nested (AskComesTo kept describe nested k)
    ((Inner.ofList .inCells resolve nested).query k))

include hbound below

/-- Meeting an item fills what is come to by asking for its nested statement, if it has one. -/
theorem meet_fills (registry : Nat) (primary : EntityMetadata) (i : Item) :
    Fills kept describe nested
      (fun n => ∃ k, i.asked? = some k ∧ k < bound ∧ AskComesTo kept describe nested k n)
      (Scope.meet ⟨registry, primary, .ofList .inCells resolve (nested.take bound)⟩ i) := by
  have nothing {b : BuildM Unit} (h : (idle kept describe nested).Holds b b)
      (none : ∀ k, i.asked? = some k → ¬ k < bound) :
      Fills kept describe nested
        (fun n => ∃ k, i.asked? = some k ∧ k < bound ∧ AskComesTo kept describe nested k n) b :=
    Fills.congr h fun n => ⟨False.elim, fun ⟨k, hk, hlt, _⟩ => none k hk hlt⟩
  cases hi : i.asked? with
  | none =>
    rw [hi] at nothing
    refine nothing (Correspondence.meet rfl (fun key _ => ?_) (fun n _ => ?_) fun n hn => ?_)
      fun k hk => by cases hk
    · simp only [describe_ofList]
      exact idle_resolve registry key
    · exact idle_metadata (nested.take bound) n
    · cases hi.symm.trans hn
  | some k =>
    rw [hi] at nothing
    rw [meet_of_asked? _ hi]
    by_cases hk : k < bound
    · rw [query_take hk hbound]
      refine Fills.congr ?_ fun n => ⟨fun h => ⟨k, rfl, hk, h⟩, fun ⟨j, hj, _, h⟩ => ?_⟩
      · exact (below k hk).voidly
      · cases hj
        exact h
    · refine nothing (Correspondence.ofVoidly ?_) fun j hj => by cases hj; exact hk
      have absent : (nested.take bound).length ≤ k := by
        rw [List.length_take_of_le hbound]
        exact Nat.not_lt.1 hk
      rw [query_of_length_le absent]
      exact (idle kept describe nested).ofThrow _

/-- **A statement behind the first `bound` nested ones fills what it comes to**, if asking for these
does. -/
theorem build_fills_of_below (s : Selector) :
    Fills kept describe nested (s.ComesTo kept describe nested bound)
      (s.build (.ofList .inCells resolve (nested.take bound))) := by
  have entity : Fills kept describe nested (fun _ => False) (s.metadata resolve) :=
    Correspondence.ofEntity idle_resolve s
  have described : (answering (Store.Sound kept describe nested)).Holds (s.metadata resolve)
      (s.metadata describe) := Correspondence.ofEntity resolve_sound s
  rw [metadata_eq_described] at described
  refine .ofVoidly ?_
  rw [voidly_build, describe_ofList]
  cases hs : s.described describe with
  | error e =>
    rw [hs] at described
    refine (entity.bind_of_error described).congr fun n => ⟨False.elim, fun h => ?_⟩
    obtain ⟨i, ⟨primary, hprimary, -⟩, -⟩ := Selector.comesTo_iff.1 h
    cases hs.symm.trans hprimary
  | ok primary =>
    rw [hs] at described
    have items := Fills.forM
      (fun i (_ : i ∈ s.items) => meet_fills hbound below s.db.registry primary i)
      fun i _ => meet_answers bound s.db.registry primary i
    refine (entity.bind_of_ok described items).congr fun n => ?_
    rw [Selector.comesTo_iff, false_or]
    refine exists_congr fun i => and_congr_left fun _ => ⟨fun h => ⟨primary, hs, h⟩, ?_⟩
    rintro ⟨primary', hprimary, h⟩
    cases hs.symm.trans hprimary
    exact h

end Below

/-- **Asking for a nested statement fills what is come to by it.** By induction on its number. -/
theorem query_fills (n : Nat) :
    Fills kept describe nested (AskComesTo kept describe nested n)
      ((Inner.ofList .inCells resolve nested).query n) := by
  induction n using Nat.strongRecOn with
  | _ n ih =>
    cases ht : nested[n]? with
    | none =>
      have absent : nested.length ≤ n := List.getElem?_eq_none_iff.1 ht
      rw [query_of_length_le absent]
      intro st hst
      refine ⟨hst, fun _ _ hq => hq, fun k hk => ?_, fun _ _ => rfl⟩
      rcases hk with rfl | ⟨-, t, ht', -⟩
      · intro q hq
        rw [query_of_length_le absent] at hq
        cases hq
      · cases ht.symm.trans ht'
    | some t =>
      have hn : n ≤ nested.length := Nat.le_of_lt (List.getElem?_eq_some_iff.1 ht).1
      rw [query_of_getElem? ht]
      refine .inCells ht (fun _ => ?_) fun hk => ?_
      · refine .ofVoidly ?_
        rw [voidly_buildNested]
        exact (build_fills_of_below hn ih t).voidly
      · rw [frozen_query ht hk]
        exact Correspondence.buildNested (inCells_take n) t

/-- **A build fills what it comes to**, whether it succeeds or not. -/
theorem build_fills (s : Selector) :
    Fills kept describe nested (s.ComesTo kept describe nested nested.length)
      (s.build (.ofList .inCells resolve nested)) := by
  have h : Fills kept describe nested (s.ComesTo kept describe nested nested.length)
      (s.build (.ofList .inCells resolve (nested.take nested.length))) :=
    build_fills_of_below (Nat.le_refl nested.length) (fun k _ => query_fills k) s
  rwa [List.take_length] at h

/-! ## 5. What has been built to its end -/

/-- Where a cell is filled, so are the cells of all that its statement reaches. -/
def ClosedCells (nested : List Selector) (cells : Nat → Option Query) : Prop :=
  ∀ k t, cells k ≠ none → nested[k]? = some t → ∀ n, t.Reaches nested k n → cells n ≠ none

/-- What a statement reaches is settled by the nested ones before it. -/
theorem reaches_of_append {more : List Selector} (hbound : bound ≤ nested.length)
    (h : s.Reaches (nested ++ more) bound n) : s.Reaches nested bound n := by
  induction h with
  | direct hi hn below => exact .direct hi hn below
  | through hi hk below ht further ih =>
    have hk' := Nat.lt_of_lt_of_le below hbound
    rw [List.getElem?_append_left hk'] at ht
    exact .through hi hk below ht (ih (Nat.le_of_lt hk'))

/-- A statement more, whose cell is empty. -/
theorem ClosedCells.concat {cells : Nat → Option Query} (h : ClosedCells nested cells)
    (hlength : ∀ n, cells n ≠ none → n < nested.length) (s : Selector) :
    ClosedCells (nested ++ [s]) cells := by
  intro k t filled ht n hn
  have hk := hlength k filled
  rw [List.getElem?_append_left hk] at ht
  exact h k t filled ht n (reaches_of_append (Nat.le_of_lt hk) hn)

/-- An item without a flaw asks for all that it writes out. -/
theorem asked?_of_flaw?_eq_none {registry : Nat} {primary : EntityMetadata} {before : List Selector}
    {inner : Nat → Option BuildError} {i : Item} (hn : n ∈ i.written)
    (clean : i.flaw? describe registry primary before inner = none) :
    i.asked? = some n ∧ inner n = none := by
  cases i with
  | source sub =>
    cases List.mem_singleton.1 hn
    simp only [Item.flaw?] at clean
    split at clean
    · cases clean
    · next named => exact ⟨by simp only [Item.asked?, if_neg named], clean⟩
  | nested sub =>
    cases List.mem_singleton.1 hn
    exact ⟨rfl, clean⟩
  | _ => cases hn

/-- What a statement without a flaw writes out is come to, and has no flaw. -/
theorem meets_of_flaw?_eq_none {before : List Selector}
    (clean : s.flaw? describe before (flawsBeside kept describe before) = none) {i : Item}
    (hi : i ∈ s.items) (hn : n ∈ i.written) :
    s.Meets kept describe before i ∧ i.asked? = some n ∧ flawsBeside kept describe before n = none := by
  unfold Selector.flaw? at clean
  cases hs : s.described describe with
  | error e =>
    rw [hs] at clean
    cases clean
  | ok primary =>
    rw [hs] at clean
    have all := List.findSome?_eq_none_iff.1 clean
    exact ⟨⟨primary, hs, unblocked_of_forall hi all⟩, asked?_of_flaw?_eq_none hn (all i hi)⟩

/-- A statement that can be built has no flaw. -/
theorem flaw?_of_frozen_build {q : Query} (h : s.build (frozen kept describe nested) = .ok q) :
    s.flaw? describe nested (flawsBeside kept describe nested) = none := by
  have given : (frozen kept describe nested).GivesVerdicts describe nested
      (flawsBeside kept describe nested) := frozen_givesVerdicts nested
  have built := given.voidly_build s
  rw [h] at built
  cases hf : s.flaw? describe nested (flawsBeside kept describe nested) with
  | none => rfl
  | some e =>
    rw [hf] at built
    cases built

/-- **What a statement without a flaw reaches** is there already, or is come to and has no flaw. -/
theorem comesTo_of_reaches (closed : ClosedCells nested kept) (hbound : bound ≤ nested.length)
    (hn : s.Reaches nested bound n) (clean : s.flaw? describe (nested.take bound)
      (flawsBeside kept describe (nested.take bound)) = none) :
    kept n ≠ none ∨
      s.ComesTo kept describe nested bound n ∧ flawsBeside kept describe nested n = none := by
  induction hn with
  | direct hi hn below =>
    obtain ⟨met, asked, unflawed⟩ := meets_of_flaw?_eq_none clean hi hn
    rw [flawsBeside, tabulate_take below hbound] at unflawed
    exact .inr ⟨.direct met asked below, unflawed⟩
  | @through bound k n s t i hi hk below ht further ih =>
    obtain ⟨met, asked, unflawed⟩ := meets_of_flaw?_eq_none clean hi hk
    rw [flawsBeside, tabulate_take below hbound] at unflawed
    cases empty : kept k with
    | some q => exact .inl (closed k t (by simp [empty]) ht n further)
    | none =>
      have inside := (flawsBeside_of_getElem? ht empty).symm.trans unflawed
      refine (ih (Nat.le_of_lt (Nat.lt_of_lt_of_le below hbound)) inside).imp_right ?_
      exact fun ⟨come, unflawed⟩ => ⟨.through met asked below empty ht come, unflawed⟩

/-- If the cells were closed before, they are afterwards. -/
theorem Store.Complete.closed (h : st.Complete kept describe nested) (before : ClosedCells nested kept) :
    ClosedCells nested st.cells := by
  intro k t filled ht n hn
  have stays : kept n ≠ none → st.cells n ≠ none := by
    intro there
    obtain ⟨q, hq⟩ := Option.ne_none_iff_exists'.1 there
    simp [h.sound.keeps n q hq]
  cases empty : kept k with
  | some q => exact stays (before k t (by simp [empty]) ht n hn)
  | none =>
    obtain ⟨q, hq⟩ := Option.ne_none_iff_exists'.1 filled
    have unflawed := exists_frozen_query_iff.1 ⟨q, h.sound.cells k q hq⟩
    rw [flawsBeside_of_getElem? ht empty] at unflawed
    have below : k ≤ nested.length := Nat.le_of_lt (List.getElem?_eq_some_iff.1 ht).1
    rcases comesTo_of_reaches before below hn unflawed with there | ⟨come, clean⟩
    · exact stays there
    · obtain ⟨p, hp⟩ := exists_frozen_query_iff.2 clean
      simp [h.inside k t empty filled ht n come p hp]

end SqlSelect
