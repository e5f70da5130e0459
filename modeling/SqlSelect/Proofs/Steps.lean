import SqlSelect.Proofs.Frozen
import SqlSelect.Session
/-!
# What a step does to a session

Whatever a step answers, only few things can happen to the session: a registry is taken into use, a
description is registered or refused, a statement is nested, or something is run that answers what it
answers in a frozen build, success or failure.

* `Session.Moves` -- these cases; every invariant of sessions is proved by going through them;
* `Session.step_moves` -- they are all.
-/

namespace SqlSelect.Session

/-- What happens to a session in a step. -/
inductive Moves (s : Session) : Step → Session → Prop
  | opens : s.Moves .openRegistry { s with opened := s.opened + 1 }
  | registers {registry : Nat} {name : String} {m : EntityMetadata} {r : Registry}
    (h : (s.registry registry).register name m = .ok r) :
    s.Moves (.register registry name m) { s with store := s.store.setRegistry registry r }
  | refuses {registry : Nat} {name : String} {m : EntityMetadata} {e : BuildError}
    (h : (s.registry registry).register name m = .error e) : s.Moves (.register registry name m) s
  | nests {selector : Selector} {columns : List String} {aliasName : Option String} :
    s.Moves (.nest selector columns aliasName) { s with nested := s.nested ++ [selector] }
  /-- Something is run that answers what it answers in a frozen build, whatever is kept already. -/
  | runs {st : Step} {α : Type} {b : BuildM α}
    {frozenly : (Nat → Option Query) → (Nat → EntityKey → Except BuildError EntityMetadata) →
      Except BuildError α}
    (h : ∀ kept describe,
      (answering (Store.Sound kept describe s.nested)).Holds b (frozenly kept describe))
    (answer : α → Answer) : s.Moves st (s.run b answer).2

/-- What a session gives to its builds answers what frozen builds answer. -/
theorem inner_answers (s : Session) (kept : Nat → Option Query)
    (describe : Nat → EntityKey → Except BuildError EntityMetadata) :
    (answering (Store.Sound kept describe s.nested)).Inners s.inner
      (frozen kept describe s.nested) :=
  inCells_inners s.nested

/-- **Each step does one of these things.** -/
theorem step_moves (s : Session) (st : Step) : s.Moves st (s.step st).2 := by
  cases st with
  | openRegistry => exact .opens
  | register registry name m =>
    simp only [step]
    cases hr : (s.store.registries registry).register name m with
    | error e => exact .refuses hr
    | ok r => exact .registers hr
  | resolve registry key => exact .runs (fun _ _ => resolve_sound registry key) _
  | nest selector columns aliasName => exact .nests
  | build selector =>
    exact .runs (fun kept describe =>
      Correspondence.build (s.inner_answers kept describe) selector) _
  | compiled subquery =>
    exact .runs (fun kept describe => (s.inner_answers kept describe).query subquery.node) _
  | metadata subquery =>
    exact .runs (fun kept describe => (s.inner_answers kept describe).metadata subquery.node) _

/-- Two runs with one outcome have one answer. -/
theorem run_fst_congr {α : Type} {s t : Session} {b c : BuildM α}
    (h : (b.run.run s.store).1 = (c.run.run t.store).1) (answer : α → Answer) :
    (s.run b answer).1 = (t.run c answer).1 := by
  unfold Session.run
  rcases hb : b.run.run s.store with ⟨result, store⟩
  rcases hc : c.run.run t.store with ⟨result', store'⟩
  rw [hb, hc] at h
  obtain rfl : result = result' := h
  rfl

/-- One step more at the end of a run. -/
theorem steps_concat (s : Session) (run : List Step) (st : Step) :
    (s.steps (run ++ [st])).2 = ((s.steps run).2.step st).2 := by
  induction run generalizing s with
  | nil => rfl
  | cons first rest ih => exact ih (s.step first).2

end SqlSelect.Session
