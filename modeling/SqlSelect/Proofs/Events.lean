import SqlSelect.Proofs.Steps
/-!
# What happens to registries

Only two things ever happen to a registry: a description is registered in it, or a key is resolved.
Registering is a step of its own, but keys are resolved deep inside of builds, also of builds that fail.
So here the compiler is run in a monad in which every resolution is noted. The notes have no part in
what is built, and from them alone every registry of a session can be told.

* `Event`, `Watched` -- what is noted, and a store together with the notes;
* `unwatched` -- a watched build does what the build does (`ofList_unwatched`);
* `Registry.Traced` -- the registry that has come about by a list of events;
* `Session.history` -- the events of a run, registry by registry, the latest first;
* `Session.told_history` -- the registries of a session have come about by its history.
-/

namespace SqlSelect

/-! ## 1. Watching -/

/-- What happens to a registry. -/
inductive Event
  /-- A description was registered under a name. -/
  | registered (name : String) (metadata : EntityMetadata)
  /-- A key was resolved, with this result. -/
  | resolved (key : EntityKey) (result : Except BuildError EntityMetadata)

/-- A store, and what has happened to each registry, the latest first. -/
structure Watched where
  store : Store
  events : Nat → List Event

/-- A build that is watched. -/
abbrev WatchM := ExceptT BuildError (StateM Watched)

/-- Resolving a key is noted with its result. -/
def resolveWatched (registry : Nat) (key : EntityKey) : WatchM EntityMetadata :=
  ExceptT.mk fun w =>
    let outcome := (resolve registry key).run.run w.store
    (outcome.1, {
      store := outcome.2
      events := Store.update w.events registry (.resolved key outcome.1 :: w.events registry) })

/-- Keeps the result in the statement's cell, of which nothing is noted. -/
def Keeping.inCellsWatched : Keeping WatchM := fun n build => do
  match (← get).store.cells n with
  | some q => pure q
  | none =>
    modify fun w => { w with store := w.store.note n }
    let q ← build
    modify fun w => { w with store := w.store.fill n q }
    pure q

section Run

variable {α β : Type}

theorem watched_run_bind (x : WatchM α) (f : α → WatchM β) (w : Watched) :
    (x >>= f).run.run w = match x.run.run w with
      | (.ok a, w') => (f a).run.run w'
      | (.error e, w') => (.error e, w') := by
  unfold ExceptT.run StateT.run
  simp only [bind, ExceptT.bind, ExceptT.mk, StateT.bind, ExceptT.bindCont]
  cases x w with
  | mk result w' => cases result <;> rfl

theorem run_resolveWatched (registry : Nat) (key : EntityKey) (w : Watched) :
    (resolveWatched registry key).run.run w
      = (w.store.answer registry key,
          { store := w.store.setRegistry registry ((w.store.registries registry).resolve key).2
            events := Store.update w.events registry
              (.resolved key (w.store.answer registry key) :: w.events registry) }) := by
  have noted : (resolveWatched registry key).run.run w
      = (((resolve registry key).run.run w.store).1,
          { store := ((resolve registry key).run.run w.store).2
            events := Store.update w.events registry
              (.resolved key ((resolve registry key).run.run w.store).1 :: w.events registry) }) :=
    rfl
  rw [noted, run_resolve]

theorem run_inCellsWatched (n : Nat) (b : WatchM Query) (w : Watched) :
    (Keeping.inCellsWatched n b).run.run w = match w.store.cells n with
      | some q => (.ok q, w)
      | none => match b.run.run { w with store := w.store.note n } with
        | (.ok q, w') => (.ok q, { w' with store := w'.store.fill n q })
        | (.error e, w') => (.error e, w') := by
  have looked : (get : WatchM Watched).run.run w = (.ok w, w) := rfl
  have changed (f : Watched → Watched) (w : Watched) :
      (modify f : WatchM PUnit).run.run w = (.ok (), f w) := rfl
  unfold Keeping.inCellsWatched
  rw [watched_run_bind]
  cases hc : w.store.cells n with
  | some q =>
    simp only [looked, hc]
    rfl
  | none =>
    simp only [looked, hc, watched_run_bind, changed]
    rcases b.run.run { w with store := w.store.note n } with ⟨e | q, w'⟩ <;> rfl

end Run

/-! ## 2. Watching changes nothing -/

/-- A watched computation answers what the other one answers, and leaves the same store. -/
def unwatched : Correspondence WatchM BuildM where
  Holds x y := ∀ w, (x.run.run w).1 = (y.run.run w.store).1 ∧
    (x.run.run w).2.store = (y.run.run w.store).2
  ofPure _ _ := ⟨rfl, rfl⟩
  ofThrow _ _ := ⟨rfl, rfl⟩
  ofBind := by
    intro α β x y f g hx hf w
    obtain ⟨hresult, hstore⟩ := hx w
    rw [watched_run_bind, run_bind]
    rcases h : x.run.run w with ⟨result, w'⟩
    rcases h' : y.run.run w.store with ⟨result', st'⟩
    rw [h, h'] at hresult hstore
    dsimp only at hresult hstore
    subst hresult hstore
    cases result with
    | error e => exact ⟨rfl, rfl⟩
    | ok a => exact hf a w'

theorem resolve_unwatched (registry : Nat) (key : EntityKey) :
    unwatched.Holds (resolveWatched registry key) (resolve registry key) := by
  intro w
  rw [run_resolveWatched, run_resolve]
  exact ⟨rfl, rfl⟩

theorem inCells_unwatched {n : Nat} {x : WatchM Query} {y : BuildM Query}
    (h : unwatched.Holds x y) :
    unwatched.Holds (Keeping.inCellsWatched n x) (Keeping.inCells n y) := by
  intro w
  rw [run_inCellsWatched, run_inCells]
  cases w.store.cells n with
  | some q => exact ⟨rfl, rfl⟩
  | none =>
    obtain ⟨hresult, hstore⟩ := h { w with store := w.store.note n }
    dsimp only
    rcases hx : x.run.run { w with store := w.store.note n } with ⟨result, w'⟩
    rcases hy : y.run.run (w.store.note n) with ⟨result', st'⟩
    rw [hx, hy] at hresult hstore
    dsimp only at hresult hstore
    subst hresult hstore
    cases result <;> exact ⟨rfl, rfl⟩

/-- **A watched build does what the build does.** -/
theorem ofList_unwatched (nested : List Selector) :
    unwatched.Inners (.ofList .inCellsWatched resolveWatched nested)
      (.ofList .inCells resolve nested) := by
  induction nested using List.reverseRecOn with
  | nil => exact Correspondence.empty resolve_unwatched
  | append_singleton nested s ih =>
    rw [ofList_concat, ofList_concat]
    exact Correspondence.push ih (inCells_unwatched (Correspondence.buildNested ih s))

/-! ## 3. Registries by their events -/

/-- **The registry that has come about by a list of events**, the latest first. -/
inductive Registry.Traced : List Event → Registry → Prop
  | empty : Traced [] .empty
  | registered {events : List Event} {r r' : Registry} (h : Traced events r) {name : String}
    {m : EntityMetadata} (accepted : r.register name m = .ok r') :
    Traced (.registered name m :: events) r'
  | resolved {events : List Event} {r : Registry} (h : Traced events r) (key : EntityKey) :
    Traced (.resolved key (r.resolve key).1 :: events) (r.resolve key).2

/-- The registries of a store have come about by what was noted. -/
def Watched.Faithful (w : Watched) : Prop := ∀ k, (w.store.registries k).Traced (w.events k)

/-- A watched computation keeps notes faithful. Only the first of the two computations counts. -/
def noting : Correspondence WatchM WatchM where
  Holds x _ := ∀ w : Watched, w.Faithful → (x.run.run w).2.Faithful
  ofPure _ _ hw := hw
  ofThrow _ _ hw := hw
  ofBind := by
    intro α β x _ f _ hx hf w hw
    have hw' := hx w hw
    rw [watched_run_bind]
    rcases h : x.run.run w with ⟨e | a, w'⟩
    · rw [h] at hw'
      exact hw'
    · rw [h] at hw'
      exact hf a w' hw'

theorem resolve_noting (registry : Nat) (key : EntityKey) :
    noting.Holds (resolveWatched registry key) (resolveWatched registry key) := by
  intro w hw k
  rw [run_resolveWatched]
  by_cases hk : k = registry
  · subst hk
    simp only [Store.setRegistry, Store.update_self]
    exact .resolved (hw k) key
  · simp only [Store.setRegistry, Store.update_of_ne _ _ hk]
    exact hw k

theorem inCells_noting {n : Nat} {x : WatchM Query} (h : noting.Holds x x) :
    noting.Holds (Keeping.inCellsWatched n x) (Keeping.inCellsWatched n x) := by
  intro w hw
  rw [run_inCellsWatched]
  cases w.store.cells n with
  | some q => exact hw
  | none =>
    have hw' := h { w with store := w.store.note n } hw
    dsimp only
    rcases hx : x.run.run { w with store := w.store.note n } with ⟨e | q, w'⟩
    · rw [hx] at hw'
      exact hw'
    · rw [hx] at hw'
      exact hw'

/-- **A watched build notes all that happens to registries.** -/
theorem ofList_noting (nested : List Selector) :
    noting.Inners (.ofList .inCellsWatched resolveWatched nested)
      (.ofList .inCellsWatched resolveWatched nested) := by
  induction nested using List.reverseRecOn with
  | nil => exact Correspondence.empty resolve_noting
  | append_singleton nested s ih =>
    rw [ofList_concat]
    exact Correspondence.push ih (inCells_noting (Correspondence.buildNested ih s))

/-! ## 4. Histories of sessions -/

namespace Session

/-- The nested statements as another statement sees them while it is watched. -/
def watchedInner (s : Session) : Inner WatchM := .ofList .inCellsWatched resolveWatched s.nested

/-- The events after a computation has been run. -/
def watchRun {α : Type} (s : Session) (events : Nat → List Event) (x : WatchM α) :
    Nat → List Event :=
  (x.run.run { store := s.store, events }).2.events

/-- The events after one step. -/
def watch (s : Session) (events : Nat → List Event) : Step → Nat → List Event
  | .openRegistry => events
  | .register registry name metadata =>
    match (s.registry registry).register name metadata with
    | .ok _ => Store.update events registry (.registered name metadata :: events registry)
    | .error _ => events
  | .resolve registry key => s.watchRun events (resolveWatched registry key)
  | .nest .. => events
  | .build selector => s.watchRun events (selector.build s.watchedInner)
  | .compiled subquery => s.watchRun events (s.watchedInner.query subquery.node)
  | .metadata subquery => s.watchRun events (s.watchedInner.metadata subquery.node)

/-- The events after several steps. -/
def watchAll (s : Session) (events : Nat → List Event) : List Step → Nat → List Event
  | [] => events
  | st :: rest => (s.step st).2.watchAll (s.watch events st) rest

/-- **The events of a run**, registry by registry, the latest first. -/
def history (run : List Step) : Nat → List Event := start.watchAll (fun _ => []) run

/-- The registries of a session have come about by these events. -/
def Told (s : Session) (events : Nat → List Event) : Prop :=
  ∀ k, (s.registry k).Traced (events k)

variable {s : Session} {events : Nat → List Event}

theorem Told.run {α : Type} (h : s.Told events) {x : WatchM α} {y : BuildM α}
    (same : unwatched.Holds x y) (noted : noting.Holds x x) (answer : α → Answer) :
    (s.run y answer).2.Told (s.watchRun events x) := by
  have faithful : (x.run.run { store := s.store, events }).2.Faithful := noted _ h
  have store : (x.run.run { store := s.store, events }).2.store = (y.run.run s.store).2 :=
    (same { store := s.store, events }).2
  intro k
  have traced := faithful k
  rw [store] at traced
  exact traced

/-- **The events of a step account for what it does to registries.** -/
theorem Told.step (h : s.Told events) (st : Step) :
    (s.step st).2.Told (s.watch events st) := by
  have same := ofList_unwatched s.nested
  have noted := ofList_noting s.nested
  cases st with
  | openRegistry => exact h
  | register registry name metadata =>
    intro k
    simp only [Session.step, watch, Session.registry]
    cases hr : (s.store.registries registry).register name metadata with
    | error e => exact h k
    | ok r =>
      by_cases hk : k = registry
      · subst hk
        simp only [Store.setRegistry, Store.update_self]
        exact .registered (h k) hr
      · simp only [Store.setRegistry, Store.update_of_ne _ _ hk]
        exact h k
  | resolve registry key =>
    exact h.run (resolve_unwatched registry key) (resolve_noting registry key) _
  | nest selector columns aliasName => exact h
  | build selector =>
    exact h.run (Correspondence.build same selector) (Correspondence.build noted selector) _
  | compiled subquery => exact h.run (same.query subquery.node) (noted.query subquery.node) _
  | metadata subquery =>
    exact h.run (same.metadata subquery.node) (noted.metadata subquery.node) _

theorem Told.steps (h : s.Told events) (run : List Step) :
    (s.steps run).2.Told (s.watchAll events run) := by
  induction run generalizing s events with
  | nil => exact h
  | cons st rest ih => exact ih (h.step st)

/-- **The registries of a session have come about by its history.** -/
theorem told_history (run : List Step) : (start.steps run).2.Told (history run) :=
  Told.steps (fun _ => .empty) run

end Session

end SqlSelect
