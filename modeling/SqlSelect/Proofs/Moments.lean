import SqlSelect.Proofs.Steps
import SqlSelect.Proofs.Wording
/-!
# Texts of several moments

A cell keeps its text while registrations go on, so the text of a statement may come from several
moments of a run: its own parts from now, those of a nested statement from the moment when that was
compiled, and so on inwards. This holds in every run, also if descriptions are replaced.

* `Worded` -- the pieces that a nested statement may have, each part with the entities described as
  at one of several moments;
* `Session.Worded` -- the invariant of a session: every filled cell renders such pieces of its
  statement;
* `Session.Worded.step` -- each step keeps it, from `build_inCells` with the cells as they are;
* `build_writes_in_run` -- what a statement is built to at the end of a run.
-/

namespace SqlSelect

/-! ## 1. Pieces of several moments -/

/-- Pieces that a nested statement may have. Each part describes entities in one of the ways of `D`;
a number without a statement has none. -/
def Worded (D : (Nat → EntityKey → Except BuildError EntityMetadata) → Prop)
    (nested : List Selector) : Nat → List Piece → Prop :=
  tabulate (· = []) (fun before said s ps =>
    ∃ describe f, D describe ∧ (∀ n, said n (f n)) ∧ ps = bodyOf describe before f s) nested

section Worded

variable {D E : (Nat → EntityKey → Except BuildError EntityMetadata) → Prop}
  {describe : Nat → EntityKey → Except BuildError EntityMetadata} {nested : List Selector}

theorem worded_append {n : Nat} {ps : List Piece} (more : List Selector) (h : n < nested.length) :
    Worded D (nested ++ more) n ps ↔ Worded D nested n ps := by
  unfold Worded
  rw [tabulate_append more h]

/-- More moments allow more pieces. -/
theorem Worded.mono (hDE : ∀ describe, D describe → E describe) {n : Nat} {ps : List Piece}
    (h : Worded D nested n ps) : Worded E nested n ps := by
  refine tabulate_relation (R := fun (P Q : List Piece → Prop) => ∀ ps, P ps → Q ps)
    (fun _ h => h) ?_ nested n ps h
  rintro before saidA saidB s hsaid ps ⟨describe, f, hD, hf, rfl⟩
  exact ⟨describe, f, hDE describe hD, fun n => hsaid n (f n) (hf n), rfl⟩

/-- The wording with given pieces is one of several moments, if the given pieces are. -/
theorem worded_wordings {given : Nat → Option (List Piece)} (hD : D describe)
    (hg : ∀ n, n < nested.length → ∀ ps, given n = some ps → Worded D nested n ps) (n : Nat) :
    Worded D nested n (wordings given describe nested n) := by
  induction nested using List.reverseRecOn generalizing n with
  | nil => rfl
  | append_singleton nested s ih =>
    have hlength : (nested ++ [s]).length = nested.length + 1 := List.length_append
    have hbefore : ∀ n, Worded D nested n (wordings given describe nested n) := by
      refine ih fun n hn ps hps => (worded_append [s] hn).1 (hg n ?_ ps hps)
      omega
    by_cases hn : n = nested.length
    · subst hn
      rw [wordings, tabulate_concat_self]
      cases hps : given nested.length with
      | some ps => exact hg nested.length (by omega) ps hps
      | none =>
        rw [Worded, tabulate_concat_self]
        exact ⟨describe, wordings given describe nested, hD, hbefore, rfl⟩
    · rw [wordings, tabulate_concat_of_ne s hn, Worded, tabulate_concat_of_ne s hn]
      exact hbefore n

end Worded

/-! ## 2. The session invariant -/

namespace Session

variable {D E : (Nat → EntityKey → Except BuildError EntityMetadata) → Prop} {s : Session}

/-- **The session invariant**: every filled cell renders pieces of its statement, each part of one of
the moments. -/
def Worded (D : (Nat → EntityKey → Except BuildError EntityMetadata) → Prop) (s : Session) : Prop :=
  ∀ n q, s.store.cells n = some q →
    n < s.nested.length ∧ ∃ ps, SqlSelect.Worded D s.nested n ps ∧ q = Piece.render ps

theorem Worded.start : start.Worded D := fun _ _ h => nomatch h

theorem Worded.mono (hDE : ∀ describe, D describe → E describe) (h : s.Worded D) : s.Worded E := by
  intro n q hq
  obtain ⟨hn, ps, hps, hrender⟩ := h n q hq
  exact ⟨hn, ps, hps.mono hDE, hrender⟩

/-- The store of a session is sound for what its cells hold. -/
theorem Worded.sound (h : s.Worded D) : s.store.Sound s.store.cells s.store.answer s.nested :=
  Store.Sound.of_cells fun n q hq => (h n q hq).1

/-- The pieces that the filled cells render. -/
theorem Worded.given (h : s.Worded D) : ∃ given : Nat → Option (List Piece),
    (∀ n, s.store.cells n = (given n).map Piece.render) ∧
      ∀ n ps, given n = some ps → SqlSelect.Worded D s.nested n ps := by
  have cell : ∀ n, ∃ g : Option (List Piece), s.store.cells n = g.map Piece.render ∧
      ∀ ps, g = some ps → SqlSelect.Worded D s.nested n ps := by
    intro n
    cases hc : s.store.cells n with
    | none => exact ⟨none, rfl, fun _ hps => nomatch hps⟩
    | some q =>
      obtain ⟨-, ps, hps, rfl⟩ := h n q hc
      refine ⟨some ps, rfl, ?_⟩
      rintro _ ⟨⟩
      exact hps
  choose given hrender hworded using cell
  exact ⟨given, hrender, hworded⟩

/-- Running what answers as a frozen build does keeps the invariant. -/
theorem Worded.run {α : Type} (h : s.Worded D) (hD : D s.store.answer) {b : BuildM α}
    {r : Except BuildError α}
    (hb : (answering (Store.Sound s.store.cells s.store.answer s.nested)).Holds b r)
    (answer : α → Answer) : (s.run b answer).2.Worded D := by
  obtain ⟨given, hrender, hworded⟩ := h.given
  have sound := (hb s.store h.sound).2
  intro n q hq
  refine ⟨sound.lt_length hq, wordings given s.store.answer s.nested n, ?_, ?_⟩
  · exact worded_wordings hD (fun n _ => hworded n) n
  · exact query_writes hrender (sound.cells n q hq)

theorem Worded.nest (h : s.Worded D) (selector : Selector) :
    Worded D { s with nested := s.nested ++ [selector] } := by
  intro n q hq
  obtain ⟨hn, ps, hps, hrender⟩ := h n q hq
  have hlength : (s.nested ++ [selector]).length = s.nested.length + 1 := List.length_append
  refine ⟨?_, ps, (worded_append [selector] hn).2 hps, hrender⟩
  show n < (s.nested ++ [selector]).length
  omega

/-- **Each step keeps the invariant**, if it happens at one of the moments. -/
theorem Worded.step (h : s.Worded D) (hD : D s.store.answer) (st : Step) :
    (s.step st).2.Worded D := by
  have moves := s.step_moves st
  generalize (s.step st).2 = s' at moves
  cases moves with
  | opens => exact h
  | registers => exact h
  | refuses => exact h
  | nests => exact h.nest _
  | runs hb answer => exact h.run hD (hb _ _) answer

/-- A step that answers with a query has run a build to its end. -/
theorem run_eq_query {b : BuildM Query} {q : Query} (h : (s.run b .query).1 = .query q) :
    (b.run.run s.store).1 = .ok q := by
  unfold Session.run at h
  rcases hb : b.run.run s.store with ⟨e | p, store⟩
  · rw [hb] at h
    cases h
  · rw [hb] at h
    cases h
    rfl

/-- A build writes its own parts with the entities as they are described now, and the nested
statements as at one of the moments each. -/
theorem Worded.build_writes (h : s.Worded D) (hD : D s.store.answer) {selector : Selector}
    {q : Query} (hq : (s.step (.build selector)).1 = .query q) :
    ∃ said : Nat → List Piece, (∀ n, SqlSelect.Worded D s.nested n (said n)) ∧
      q = Piece.render (bodyOf s.store.answer s.nested said selector
        ++ Piece.own selector.db.dialect [.semicolon]) := by
  obtain ⟨given, hrender, hworded⟩ := h.given
  have hfrozen : .ok q = selector.build (frozen s.store.cells s.store.answer s.nested) :=
    (run_eq_query hq).symm.trans (build_inCells h.sound selector).1
  refine ⟨wordings given s.store.answer s.nested, ?_, ?_⟩
  · exact worded_wordings hD fun n _ => hworded n
  · exact frozen_build_writes hrender hfrozen.symm

end Session

/-! ## 3. Runs -/

/-- The ways in which entities were described in the course of a run. -/
def moments (run : List Step) (describe : Nat → EntityKey → Except BuildError EntityMetadata) :
    Prop :=
  ∃ pre, pre <+: run ∧ (Session.start.steps pre).2.store.answer = describe

/-- **After every run each filled cell renders pieces of moments of the run.** -/
theorem worded_steps (run : List Step) :
    (Session.start.steps run).2.Worded (moments run) := by
  induction run using List.reverseRecOn with
  | nil => exact Session.Worded.start
  | append_singleton run st ih =>
    have more : ∀ describe, moments run describe → moments (run ++ [st]) describe := by
      rintro describe ⟨pre, hpre, hanswer⟩
      exact ⟨pre, hpre.trans (List.prefix_append run [st]), hanswer⟩
    rw [Session.steps_concat]
    exact (ih.mono more).step ⟨run, List.prefix_append run [st], rfl⟩ st

/-- **What a statement is built to after a run**: its own parts are those of now, and each nested
statement has pieces of moments of the run. -/
theorem build_writes_in_run {run : List Step} {s : Selector} {q : Query}
    (h : ((Session.start.steps run).2.step (.build s)).1 = .query q) :
    ∃ said : Nat → List Piece,
      (∀ n, Worded (moments run) (Session.start.steps run).2.nested n (said n)) ∧
      q = Piece.render (bodyOf (Session.start.steps run).2.store.answer
        (Session.start.steps run).2.nested said s ++ Piece.own s.db.dialect [.semicolon]) :=
  (worded_steps run).build_writes ⟨run, List.prefix_refl run, rfl⟩ h

end SqlSelect
