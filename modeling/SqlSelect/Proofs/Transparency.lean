import SqlSelect.Proofs.Steps
/-!
# Cells are transparent

A session keeps what nested statements are built to. Nobody can tell: as long as no registration
replaces a description by a different one, every answer is the one that a session with the same
registries would give if no cell were filled and every reference built its statement anew
(`Session.fromScratch`), in the nested statement's own registry and dialect and without the final
semicolon (`Selector.buildNested`). A copy of a reference has the number of the original, so it
shares its cell and needs no step of its own.

* `growing` -- more descriptions: what succeeded keeps its result, only errors may go away;
* `Session.Sound` -- the invariant of a session: every filled cell holds what its statement would be
  built to now;
* `Session.Sound.step` -- each step keeps it: a registration because results survive growth, a
  build, even one that fails half-way, because it answers what a frozen one answers
  (`Session.Moves`);
* `answers_eq_answersFromScratch` -- the answers of a whole run.
-/

namespace SqlSelect

/-! ## 1. Growth -/

/-- What succeeds on the left succeeds on the right with the same result. -/
def growing : Correspondence (Except BuildError) (Except BuildError) where
  Holds x y := ∀ a, x = .ok a → y = .ok a
  ofPure _ _ h := h
  ofThrow _ _ h := by cases h
  ofBind := by
    intro α β x y f g hx hf b hb
    cases x with
    | error e => cases hb
    | ok a =>
      rw [hx a rfl]
      exact hf a b hb

namespace Registry

/-- A registration that replaces nothing by something else keeps every answer but errors. -/
theorem resolve_register {r r' : Registry} {name : String} {m d : EntityMetadata}
    (hr : r.register name m = .ok r') (hold : ∀ old, r.get? name = some old → old = m)
    (key : EntityKey) (h : (r.resolve key).1 = .ok d) : (r'.resolve key).1 = .ok d := by
  unfold register at hr
  split at hr
  · cases hr
    cases key with
    | named other =>
      rw [resolve_named] at h ⊢
      simp only [get?, KeyMap.get?_insert] at h hold ⊢
      by_cases ho : other = name
      · subst ho
        rw [if_pos rfl]
        cases hg : r.named.get? other with
        | none =>
          rw [hg] at h
          cases h
        | some old =>
          rw [hg] at h
          rw [← hold old hg]
          exact h
      · rw [if_neg ho]
        exact h
    | typed type =>
      rw [resolve_typed_fst] at h ⊢
      exact h
  · cases hr

end Registry

/-! ## 2. The session invariant -/

namespace Session

/-- A step replaces no registered description by a different one. -/
def Keeps (s : Session) : Step → Prop
  | .register registry name m =>
    m.isUsable → ∀ old, (s.registry registry).get? name = some old → old = m
  | _ => True

/-- No step of a run replaces a registered description by a different one. -/
def NeverReplaces (s : Session) : List Step → Prop
  | [] => True
  | st :: rest => s.Keeps st ∧ (s.step st).2.NeverReplaces rest

/-- **The session invariant**: every filled cell holds what its statement would be built to now. -/
def Sound (s : Session) : Prop := s.store.Sound (fun _ => none) s.store.answer s.nested

theorem Sound.start : start.Sound := Store.Sound.of_empty fun _ => rfl

/-- A sound store stays sound under its own answers. -/
theorem Sound.of_store {s : Session} {describe : Nat → EntityKey → Except BuildError EntityMetadata}
    (h : s.store.Sound (fun _ => none) describe s.nested) : s.Sound := by
  obtain rfl : s.store.answer = describe := h.describes
  exact h

/-- Running a build whose answers are those of a frozen one keeps a session sound. -/
theorem Sound.run {α : Type} {s : Session} (h : s.Sound) {b : BuildM α} {r : Except BuildError α}
    (hb : (answering (Store.Sound (fun _ => none) s.store.answer s.nested)).Holds b r)
    (answer : α → Answer) :
    (s.run b answer).2.Sound :=
  Sound.of_store (hb s.store h).2

theorem Sound.register {s : Session} (h : s.Sound) {registry : Nat} {name : String}
    {m : EntityMetadata} {r : Registry} (hr : (s.registry registry).register name m = .ok r)
    (hold : ∀ old, (s.registry registry).get? name = some old → old = m) :
    Sound { s with store := s.store.setRegistry registry r } where
  describes := rfl
  keeps _ _ hq := nomatch hq
  cells n q hq := by
    have hgrow : ∀ k key, growing.Holds (s.store.answer k key)
        ((s.store.setRegistry registry r).answer k key) := by
      intro k key d hd
      by_cases hk : k = registry
      · subst hk
        simp only [Store.answer, Store.setRegistry, Store.update_self]
        exact Registry.resolve_register hr hold key hd
      · simp only [Store.answer, Store.setRegistry, Store.update_of_ne _ _ hk]
        exact hd
    exact (Correspondence.ofList hgrow s.nested).query n q (h.cells n q hq)

theorem Sound.nest {s : Session} (h : s.Sound) (selector : Selector) :
    Sound { s with nested := s.nested ++ [selector] } where
  describes := rfl
  keeps _ _ hq := nomatch hq
  cells n q hq := by
    rw [query_append [selector] (h.lt_length hq)]
    exact h.cells n q hq

/-- **Each step keeps the invariant.** -/
theorem Sound.step {s : Session} (h : s.Sound) {st : Step} (hk : s.Keeps st) :
    (s.step st).2.Sound := by
  have moves := s.step_moves st
  generalize (s.step st).2 = s' at moves
  cases moves with
  | opens => exact h
  | @registers registry name m r hr =>
    have usable : m.isUsable := by
      unfold Registry.register at hr
      split at hr
      · assumption
      · cases hr
    exact h.register hr (hk usable)
  | refuses => exact h
  | nests => exact h.nest _
  | runs hb answer => exact h.run (hb _ _) answer

/-! ## 3. Answers -/

/-- The session with every cell empty. -/
def emptied (s : Session) : Session := { s with store := { s.store with cells := fun _ => none } }

/-- The nested statements of the session, each built anew at every reference to it. -/
def rebuilding (s : Session) : Inner BuildM := .ofList .never SqlSelect.resolve s.nested

theorem rebuilding_answers (s : Session) :
    (answering (Store.Describes s.store.answer)).Inners s.rebuilding
      (frozen (fun _ => none) s.store.answer s.nested) :=
  never_answers s.nested

/-- The answer that a step would get if no cell were filled and no result were kept. Only two kinds
of steps look at cells. -/
def fromScratch (s : Session) : Step → Answer
  | .build selector => (s.emptied.run (selector.build s.rebuilding) .query).1
  | .compiled subquery => (s.emptied.run (s.rebuilding.query subquery.node) .query).1
  | st => (s.step st).1

/-- The answers to a run, each from scratch against the registries of its moment. -/
def answersFromScratch (s : Session) : List Step → List Answer
  | [] => []
  | st :: rest => s.fromScratch st :: (s.step st).2.answersFromScratch rest

/-- **Each step of a sound session answers as from scratch.** -/
theorem Sound.step_eq_fromScratch {s : Session} (h : s.Sound) (st : Step) :
    (s.step st).1 = s.fromScratch st := by
  have hi := s.inner_answers (fun _ => none) s.store.answer
  have hn := s.rebuilding_answers
  cases st with
  | build selector =>
    refine run_fst_congr ?_ _
    rw [(Correspondence.build hi selector s.store h).1,
      (Correspondence.build hn selector s.emptied.store rfl).1]
  | compiled subquery =>
    refine run_fst_congr ?_ _
    rw [(hi.query subquery.node s.store h).1, (hn.query subquery.node s.emptied.store rfl).1]
  | _ => rfl

theorem Sound.steps_eq_answersFromScratch {s : Session} (h : s.Sound) (run : List Step)
    (hk : s.NeverReplaces run) : (s.steps run).1 = s.answersFromScratch run := by
  induction run generalizing s with
  | nil => rfl
  | cons st rest ih =>
    obtain ⟨hst, hrest⟩ := hk
    have htail := ih (h.step hst) hrest
    calc (s.steps (st :: rest)).1
        = (s.step st).1 :: ((s.step st).2.steps rest).1 := rfl
      _ = s.fromScratch st :: (s.step st).2.answersFromScratch rest := by
        rw [h.step_eq_fromScratch st, htail]

end Session

/-- **Cells are transparent**: in every run in which no registration replaces a description by a
different one, every answer is the one from scratch. -/
theorem answers_eq_answersFromScratch (run : List Step) (h : Session.start.NeverReplaces run) :
    (Session.start.steps run).1 = Session.start.answersFromScratch run :=
  Session.Sound.start.steps_eq_answersFromScratch run h

/-- A run with one nested statement, compiled by itself and then referred to by a build; in between,
its entity is registered again as it was, and another entity for the first time. -/
def sharingRun : List Step :=
  let db : Db := { registry := 0, dialect := BaseDialect.mysql.toDialect }
  let user : EntityMetadata := { tableName := "user", fields := [("Id", "id")] }
  let order : EntityMetadata := { tableName := "order", fields := [("UserId", "user_id")] }
  let ids : Selector :=
    { db, entity := some (.named "user"), columns := [.column { name := "Id" }] }
  [.openRegistry, .register 0 "user" user, .nest ids [] none, .compiled { node := 0 },
    .register 0 "user" user, .register 0 "order" order,
    .build { db, entity := some (.named "order"),
             filters := [.inQuery (.column { name := "UserId" }) { node := 0 }] }]

theorem answers_eq_answersFromScratch_sharingRun :
    Session.start.NeverReplaces sharingRun ∧
      (Session.start.steps sharingRun).1 = Session.start.answersFromScratch sharingRun := by
  have h : Session.start.NeverReplaces sharingRun := by
    refine ⟨trivial, ?_, trivial, trivial, ?_, ?_, trivial, trivial⟩
    · intro _ old hold
      cases hold
    · intro _ old hold
      exact (Option.some.inj hold).symm
    · intro _ old hold
      cases hold
  exact ⟨h, answers_eq_answersFromScratch sharingRun h⟩

end SqlSelect
