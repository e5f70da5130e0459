import Mathlib.Data.List.Nodup
import Mathlib.Data.Set.Function
import SqlSelect.Proofs.Growth
import SqlSelect.Proofs.References
/-!
# Named statements are shared by their names

A document that is lowered has one reference for each name that is met, and the reference stands
wherever the name stood, in the document's own statement and in all the others. Different names have
references with different numbers, so they never share a cell. Rendering the document therefore builds
the statement of each name that is met at most once, and no other statement at all.

* `Store.Begins`, `build_begins` -- in any one build, whatever the store holds before it, each nested
  statement is begun at most once: by induction over the numbers, since behind a number only smaller
  ones are begun;
* `Lowered.Numbered`, `LowerM.lookUp_numbered` -- the numbers of names while a document is lowered, in
  the invariant that looking up a name keeps: different names have different numbers, and every
  number is that of a name that is met;
* `QueryDocument.render_eq_build` -- rendering is building what the document is lowered to, in
  whatever session it was lowered;
* `QueryDocument.lower_shares_names` -- all together.
-/

namespace SqlSelect

/-! ## 1. What one build begins -/

/-- What a build begins of the first `bound` nested statements: `news`, each of them once, and none
that had been built before. No cell loses its result. If the build succeeds, what it began is built. -/
structure Store.Begins (bound : Nat) (success : Bool) (st st' : Store) (news : List Nat) : Prop where
  begun : st'.begun = news ++ st.begun
  once : news.Nodup
  fresh : ∀ k ∈ news, k < bound ∧ st.cells k = none
  kept : ∀ k, (st.cells k).isSome → (st'.cells k).isSome
  filled : success = true → ∀ k ∈ news, (st'.cells k).isSome

namespace Store.Begins

variable {bound bound' : Nat} {success : Bool} {st st' st'' : Store} {news news' : List Nat}

theorem refl (success : Bool) (st : Store) : st.Begins bound success st [] where
  begun := rfl
  once := .nil
  fresh _ h := nomatch h
  kept _ h := h
  filled _ _ h := nomatch h

theorem mono (h : st.Begins bound success st' news) (le : bound ≤ bound') :
    st.Begins bound' success st' news where
  begun := h.begun
  once := h.once
  fresh k hk := ⟨Nat.lt_of_lt_of_le (h.fresh k hk).1 le, (h.fresh k hk).2⟩
  kept := h.kept
  filled := h.filled

/-- What was begun and built is not begun again. -/
theorem trans (h : st.Begins bound true st' news) (h' : st'.Begins bound success st'' news') :
    st.Begins bound success st'' (news' ++ news) where
  begun := by rw [h'.begun, h.begun, List.append_assoc]
  once := by
    refine List.nodup_append.2 ⟨h'.once, h.once, fun k later j earlier => ?_⟩
    rintro rfl
    have built := h.filled rfl k earlier
    rw [(h'.fresh k later).2] at built
    cases built
  fresh k hk := by
    rcases List.mem_append.1 hk with later | earlier
    · obtain ⟨below, empty⟩ := h'.fresh k later
      refine ⟨below, ?_⟩
      by_contra filled
      have still := h.kept k (Option.isSome_iff_ne_none.2 filled)
      rw [empty] at still
      cases still
    · exact h.fresh k earlier
  kept k hk := h'.kept k (h.kept k hk)
  filled done k hk := by
    rcases List.mem_append.1 hk with later | earlier
    · exact h'.filled done k later
    · exact h'.kept k (h.filled rfl k earlier)

end Store.Begins

/-- **What a build begins.** Only the first of the two computations counts. -/
def beginning (bound : Nat) : Correspondence BuildM BuildM where
  Holds b _ := ∀ st : Store, ∃ news, st.Begins bound (b.run.run st).1.isOk (b.run.run st).2 news
  ofPure _ st := ⟨[], .refl _ st⟩
  ofThrow _ st := ⟨[], .refl _ st⟩
  ofBind := by
    intro α β x _ f _ hx hf st
    obtain ⟨news, first⟩ := hx st
    rw [run_bind]
    rcases h : x.run.run st with ⟨e | a, st'⟩
    · rw [h] at first
      exact ⟨news, first⟩
    · rw [h] at first
      obtain ⟨news', second⟩ := hf a st'
      exact ⟨news' ++ news, first.trans second⟩

/-- Taking up an entity begins nothing. -/
theorem resolve_begins (bound registry : Nat) (key : EntityKey) :
    (beginning bound).Holds (resolve registry key) (resolve registry key) := by
  intro st
  rw [run_resolve]
  exact ⟨[], rfl, .nil, fun _ h => (nomatch h), fun _ h => h, fun _ _ h => nomatch h⟩

/-- A statement that is kept in its cell is begun if the cell is empty. Inside only smaller numbers are
begun, so it is not begun again. -/
theorem inCells_begins {bound n : Nat} (hn : n < bound) {b : BuildM Query}
    (h : (beginning n).Holds b b) :
    (beginning bound).Holds (Keeping.inCells n b) (Keeping.inCells n b) := by
  intro st
  rw [run_inCells]
  cases hc : st.cells n with
  | some q => exact ⟨[], .refl _ st⟩
  | none =>
    obtain ⟨news, inside⟩ := h (st.note n)
    have once : (news ++ [n]).Nodup := by
      refine List.nodup_append.2 ⟨inside.once, List.nodup_singleton n, fun k hk j hj => ?_⟩
      rw [List.mem_singleton.1 hj]
      exact Nat.ne_of_lt (inside.fresh k hk).1
    have fresh : ∀ k ∈ news ++ [n], k < bound ∧ st.cells k = none := by
      intro k hk
      rcases List.mem_append.1 hk with hk | hk
      · obtain ⟨below, empty⟩ := inside.fresh k hk
        exact ⟨Nat.lt_trans below hn, empty⟩
      · rw [List.mem_singleton.1 hk]
        exact ⟨hn, hc⟩
    refine ⟨news ++ [n], ?_⟩
    rcases hb : b.run.run (st.note n) with ⟨e | q, st'⟩
    · rw [hb] at inside
      refine ⟨?_, once, fresh, inside.kept, fun done => nomatch done⟩
      rw [inside.begun, List.append_assoc]
      rfl
    · rw [hb] at inside
      have own : ((st'.fill n q).cells n).isSome := by
        simp only [Store.fill, Store.update_self, Option.isSome_some]
      have others : ∀ k, (st'.cells k).isSome → ((st'.fill n q).cells k).isSome := by
        intro k hk
        by_cases same : k = n
        · exact same ▸ own
        · simp only [Store.fill, Store.update_of_ne _ _ same]
          exact hk
      refine ⟨?_, once, fresh, fun k hk => others k (inside.kept k hk), fun _ k hk => ?_⟩
      · show st'.begun = _
        rw [inside.begun, List.append_assoc]
        rfl
      · rcases List.mem_append.1 hk with hk | hk
        · exact others k (inside.filled rfl k hk)
        · exact List.mem_singleton.1 hk ▸ own

theorem beginning_mono {bound bound' : Nat} (le : bound ≤ bound') {α : Type} {b c : BuildM α}
    (h : (beginning bound).Holds b c) : (beginning bound').Holds b c := by
  intro st
  obtain ⟨news, begins⟩ := h st
  exact ⟨news, begins.mono le⟩

/-- Nested statements begin each other at most once, and each only those before it. -/
theorem ofList_begins (nested : List Selector) :
    (beginning nested.length).Inners (.ofList .inCells resolve nested)
      (.ofList .inCells resolve nested) := by
  induction nested using List.reverseRecOn with
  | nil => exact Correspondence.empty (resolve_begins 0)
  | append_singleton nested s ih =>
    have le : nested.length ≤ (nested ++ [s]).length := by simp
    have before : (beginning (nested ++ [s]).length).Inners (.ofList .inCells resolve nested)
        (.ofList .inCells resolve nested) :=
      ⟨rfl, fun n key => beginning_mono le (ih.describe n key),
        fun n => beginning_mono le (ih.query n), fun n => beginning_mono le (ih.metadata n)⟩
    rw [ofList_concat]
    refine Correspondence.push before ?_
    rw [size_ofList]
    exact inCells_begins (by simp) (Correspondence.buildNested ih s)

/-- **One build begins each nested statement at most once**, and only statements that were not built
before. -/
theorem build_begins (nested : List Selector) (s : Selector) (st : Store) :
    let built := (s.build (.ofList .inCells resolve nested)).run.run st
    ∃ news, st.Begins nested.length built.1.isOk built.2 news :=
  Correspondence.build (ofList_begins nested) s st

/-! ## 2. Names and their numbers -/

/-- The numbers of names while a document is lowered. -/
structure Lowered.Numbered (q : QueryDocument) (st : Lowered) : Prop where
  met : ∀ name reference, st.built.get? name = some reference → q.Meets (.subquery name)
  below : ∀ name reference, st.built.get? name = some reference → reference.node < st.nested.length
  apart : ∀ a b r r', st.built.get? a = some r → st.built.get? b = some r' → r.node = r'.node → a = b
  covered : ∀ k < st.nested.length, ∃ name reference,
    st.built.get? name = some reference ∧ reference.node = k

/-- A name that is met and has no number yet gets the next one. -/
theorem Lowered.Numbered.insert {q : QueryDocument} {st : Lowered} (h : st.Numbered q)
    {name : String} (met : q.Meets (.subquery name)) (fresh : st.built.get? name = none)
    {r : Subquery} (number : r.node = st.nested.length) (s : Selector) :
    Lowered.Numbered q { built := st.built.insert name r, nested := st.nested ++ [s] } := by
  have named : ∀ n reference, (st.built.insert name r).get? n = some reference →
      n = name ∧ reference = r ∨ n ≠ name ∧ st.built.get? n = some reference := by
    intro n reference hn
    rw [KeyMap.get?_insert] at hn
    split at hn
    · next same => exact .inl ⟨same, (Option.some.inj hn).symm⟩
    · next other => exact .inr ⟨other, hn⟩
  constructor
  case met =>
    intro n reference hn
    obtain ⟨rfl, -⟩ | ⟨-, hn⟩ := named n reference hn
    · exact met
    · exact h.met n reference hn
  case below =>
    intro n reference hn
    rw [List.length_append, List.length_singleton]
    obtain ⟨-, rfl⟩ | ⟨-, hn⟩ := named n reference hn
    · omega
    · exact Nat.lt_succ_of_lt (h.below n reference hn)
  case apart =>
    intro a b ra rb ha hb same
    obtain ⟨rfl, rfl⟩ | ⟨-, earlier⟩ := named a ra ha
    · obtain ⟨rfl, -⟩ | ⟨-, earlier⟩ := named b rb hb
      · rfl
      · have below := h.below b rb earlier
        omega
    · obtain ⟨rfl, rfl⟩ | ⟨-, earlier'⟩ := named b rb hb
      · have below := h.below a ra earlier
        omega
      · exact h.apart a b ra rb earlier earlier' same
  case covered =>
    intro k hk
    rw [List.length_append, List.length_singleton] at hk
    by_cases last : k = st.nested.length
    · exact ⟨name, r, by rw [KeyMap.get?_insert, if_pos rfl], number.trans last.symm⟩
    · obtain ⟨n, reference, hn, node⟩ := h.covered k (by omega)
      refine ⟨n, reference, ?_, node⟩
      rw [KeyMap.get?_insert, if_neg]
      · exact hn
      · rintro rfl
        cases fresh.symm.trans hn

/-- **Looking up a name that is met keeps the numbers of names.** -/
theorem LowerM.lookUp_numbered {q : QueryDocument} {db : Db} {unvisited : KeyMap SubqueryDoc}
    {name : String} {st st' : Lowered} {r : Subquery} (part : q.Part unvisited)
    (met : q.Meets (.subquery name)) (hst : st.Numbered q)
    (h : (LowerM.lookUp db q.subqueries unvisited name).run st = .ok (r, st')) :
    st'.Numbered q := by
  induction hsize : unvisited.size using Nat.strongRecOn generalizing unvisited name st st' r with
  | _ size ih =>
    obtain ⟨-, rfl⟩ | ⟨doc, s, mid, hbuilt, hdoc, hs, rfl, rfl⟩ := lookUp_ok_cases h
    · exact hst
    · have inside : ∀ n, .subquery n ∈ doc.statement.mentions → ∀ now r next,
          now.Numbered q →
          (LowerM.lookUp db q.subqueries (unvisited.erase name) n).run now = .ok (r, next) →
          next.Numbered q := by
        intro n hn now r next hnow h
        exact ih _ (hsize ▸ KeyMap.size_erase_lt hdoc) (part.erase name)
          (met.inside (part name doc hdoc) hn) hnow h rfl
      have numbered : mid.Numbered q := statement_keeps_of_mentioned inside hst hs
      exact numbered.insert met (statement_fresh hbuilt hs) rfl s

/-! ## 3. Documents -/

namespace QueryDocument

variable {q : QueryDocument} {db : Db} {s : Selector} {nested : List Selector}

section Run

variable {st : Lowered}
  (hs : (LowerM.statement (LowerM.lookUp db q.subqueries q.subqueries) db q.statement).run {}
    = .ok (s, st))

include hs

/-- When a document is lowered, its names are numbered. -/
theorem numbered_of_run : st.Numbered q := by
  have start : Lowered.Numbered q {} :=
    ⟨fun _ _ h => (nomatch h), fun _ _ h => (nomatch h), fun _ _ _ _ h => (nomatch h),
      fun _ h => nomatch h⟩
  exact LowerM.statement_keeps_of_mentioned
    (fun n hn _ _ _ hnow h => LowerM.lookUp_numbered (fun _ _ h => h) (.here hn) hnow h) start hs

/-- No statement is nested but those of names that are met. -/
theorem covered_of_run : ∀ k < st.nested.length, ∃ name,
    q.Meets (.subquery name) ∧ (st.reference name).node = k := by
  intro k hk
  have numbered := numbered_of_run hs
  obtain ⟨name, reference, hbuilt, node⟩ := numbered.covered k hk
  refine ⟨name, numbered.met name reference hbuilt, ?_⟩
  rw [Lowered.reference_of_get? hbuilt, node]

/-- Different names have different numbers. -/
theorem apart_of_run : Set.InjOn (fun name => (st.reference name).node)
    {name | q.Meets (.subquery name)} := by
  intro a ha b hb same
  obtain ⟨r, hr⟩ := found_of_meets hs ha
  obtain ⟨r', hr'⟩ := found_of_meets hs hb
  refine (numbered_of_run hs).apart a b r r' hr hr' ?_
  rwa [← Lowered.reference_of_get? hr, ← Lowered.reference_of_get? hr']

end Run

/-- **Rendering is building what a document is lowered to.** The number of the registry it was lowered
with has no part in it, if all numbers stand for the one registry. -/
theorem render_eq_build (h : q.lower db = .ok (s, nested)) (registry : Registry) :
    q.render registry db.dialect
      = ((s.build (.ofList .inCells resolve nested)).run.run (.ofRegistry registry)).1.mapError
          DocumentError.build := by
  have fresh (nested : List Selector) : (Store.ofRegistry registry).Sound (fun _ => none)
      (Store.ofRegistry registry).answer nested := .of_empty fun _ => rfl
  cases h' : q.lower { registry := 0, dialect := db.dialect } with
  | error e => cases (lower_error_congr h' db).symm.trans h
  | ok result =>
    obtain ⟨s', nested'⟩ := result
    obtain ⟨ref, rfl, places⟩ := lower_ok h
    obtain ⟨ref', rfl, places'⟩ := lower_ok h'
    have same : (q.statement.lowered ref' { registry := 0, dialect := db.dialect }).build
          (frozen (fun _ => none) (Store.ofRegistry registry).answer nested')
        = (q.statement.lowered ref db).build
          (frozen (fun _ => none) (Store.ofRegistry registry).answer nested) :=
      build_congr (by rfl) (fun _ => rfl) places' places (fun _ _ => rfl) (fun _ _ => rfl)
    rw [render_of_lower_ok h', (build_inCells (fresh nested') _).1, (build_inCells (fresh nested) _).1,
      same]

/-- Numbers that are all numbers of names are the numbers of a list of names. -/
theorem exists_names {P : String → Prop} {number : String → Nat} {ks : List Nat}
    (h : ∀ k ∈ ks, ∃ name, P name ∧ number name = k) :
    ∃ names : List String, ks = names.map number ∧ ∀ name ∈ names, P name := by
  induction ks with
  | nil => exact ⟨[], rfl, fun _ h => nomatch h⟩
  | cons k ks ih =>
    obtain ⟨name, hname, rfl⟩ := h k List.mem_cons_self
    obtain ⟨names, rfl, hnames⟩ := ih fun j hj => h j (List.mem_cons_of_mem _ hj)
    exact ⟨name :: names, rfl, List.forall_mem_cons.2 ⟨hname, hnames⟩⟩

/-- **Named statements are shared by their names.** When a document has been lowered there is one
reference for each name: it stands wherever the name stood, in the statement of the document and in
those of all names that are met (`Places`), with the columns and the alias of the name's entry and
the number of the name's own statement. Different names have different numbers, and no statement is
nested that is not one of a name that is met. So rendering begins to build the statements of some
names, each name once, all of them met. -/
theorem lower_shares_names (h : q.lower db = .ok (s, nested)) :
    ∃ ref : String → Subquery,
      s = q.statement.lowered ref db ∧ q.PlacesAll db nested ref ∧
      Set.InjOn (fun name => (ref name).node) {name | q.Meets (.subquery name)} ∧
      (∀ k < nested.length, ∃ name, q.Meets (.subquery name) ∧ (ref name).node = k) ∧
      ∀ registry,
        let built := (s.build (.ofList .inCells resolve nested)).run.run (.ofRegistry registry)
        q.render registry db.dialect = built.1.mapError DocumentError.build ∧
          ∃ names : List String, names.Nodup ∧ (∀ name ∈ names, q.Meets (.subquery name)) ∧
            built.2.begun = names.map fun name => (ref name).node := by
  obtain ⟨st, hs, rfl⟩ := run_of_lower h
  refine ⟨st.reference, lowered_of_run hs, places_of_run hs, apart_of_run hs, covered_of_run hs,
    fun registry => ?_⟩
  intro built
  obtain ⟨news, begins⟩ := build_begins st.nested s (.ofRegistry registry)
  obtain ⟨names, rfl, met⟩ := exists_names fun k hk => covered_of_run hs k (begins.fresh k hk).1
  refine ⟨render_eq_build h registry, names, List.Nodup.of_map _ begins.once, met, ?_⟩
  exact begins.begun.trans (List.append_nil _)

/-- Two references to one name, in statements of different depth. -/
def sharedBase : QueryDocument where
  statement :=
    { entity := some "user", filters := [.keyword "exists" "outer", .keyword "exists" "base"] }
  subqueries := .ofList
    [("base", { statement := { entity := some "user" }, aliasName := some "u" }),
      ("outer", { statement := { entity := some "user", source := some (.table (.subquery "base")) } }),
      ("unmet", { statement := { entity := some "user" } })]

theorem lower_shares_names_sharedBase :
    let db : Db := { registry := 0, dialect := BaseDialect.mysql.toDialect }
    let users : Registry :=
      { named := KeyMap.empty.insert "user" { tableName := "users", fields := [("Id", "id")] } }
    ∃ s nested, sharedBase.lower db = .ok (s, nested) ∧ nested.length = 2 ∧
      ∃ names : List String, names.Nodup ∧
        (∀ name ∈ names, sharedBase.Meets (.subquery name)) ∧ names.length = 2 ∧
        ((s.build (.ofList .inCells resolve nested)).run.run (.ofRegistry users)).2.begun = [0, 1] := by
  intro db users
  have outcome : (sharedBase.lower db).map (fun r => (r.2.length,
      ((r.1.build (.ofList .inCells resolve r.2)).run.run (.ofRegistry users)).2.begun))
        = .ok (2, [0, 1]) := by decide +kernel
  cases h : sharedBase.lower db with
  | error e =>
    rw [h] at outcome
    cases outcome
  | ok result =>
    obtain ⟨s, nested⟩ := result
    rw [h] at outcome
    obtain ⟨size, begun⟩ := Prod.mk.inj (Except.ok.inj outcome)
    obtain ⟨ref, -, -, -, -, rendered⟩ := lower_shares_names h
    obtain ⟨-, names, once, met, numbers⟩ := rendered users
    refine ⟨s, nested, rfl, size, names, once, met, ?_, begun⟩
    have both := congrArg List.length (numbers.symm.trans begun)
    rwa [List.length_map] at both

end QueryDocument

end SqlSelect
