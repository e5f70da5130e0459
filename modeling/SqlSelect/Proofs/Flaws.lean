import SqlSelect.Proofs.Arguments
import SqlSelect.Proofs.Walk
/-!
# The first flaw of a statement

A statement can be built exactly if none of its items has a flaw, and otherwise the error is that of
the first item that has one. Flaws are read off the syntax and the descriptions of entities; no
token, text or argument has a part in them, and nothing of the store but what its registries answer.

* `Item.flaw?` -- what is wrong with one item;
* `Selector.flaw?`, `flaws` -- the first flaw of a statement behind others, and of nested ones by
  their numbers;
* `Inner.GivesVerdicts.voidly_build` -- a build that is given nothing but verdicts fails with the first
  flaw;
* `query_judged` -- nested statements kept in cells fail with their first flaws, if no cell of one
  that has a flaw is filled;
* `build_eq_error_iff` -- the error of a build.
-/

namespace SqlSelect

/-! ## 1. Flaws -/

/-- What is wrong with a field of an entity. -/
def EntityMetadata.flaw? (d : EntityMetadata) (field : String) : Option BuildError :=
  if (d.column? field).isSome then none else some (.unknownField field)

/-- What is wrong with a field of an entity that may have no description. -/
def fieldFlaw? (field : String) : Except BuildError EntityMetadata → Option BuildError
  | .error e => some e
  | .ok d => d.flaw? field

/-- What is wrong with an operator in a node of some kind: first that it is of another kind, then
that it has an operand too many or too few. -/
def operatorFlaw? (kind : NodeKind) (op : Operator) (second : Bool) : Option BuildError :=
  if op.nodeKind ≠ kind then some (Scope.misplaced op kind)
  else match op.isUnary, second with
    | true, true => some (Scope.overfull op)
    | false, false => some (Scope.incomplete op)
    | _, _ => none

section Flaws

variable (describe : Nat → EntityKey → Except BuildError EntityMetadata)

/-- The description of the entity that a statement is about, if it is about one. -/
def Selector.described (s : Selector) : Except BuildError EntityMetadata :=
  match s.entity with
  | some key => describe s.db.registry key
  | none => .error .nilEntity

/-- The description of the entity of a nested statement. -/
def nestedEntity (before : List Selector) (n : Nat) : Except BuildError EntityMetadata :=
  match before[n]? with
  | some s => s.described describe
  | none => .error .nilEntity

/-- What is wrong with an item of a statement about `primary`, behind the statements `before` and
among what is wrong with those. -/
def Item.flaw? (registry : Nat) (primary : EntityMetadata) (before : List Selector)
    (inner : Nat → Option BuildError) : Item → Option BuildError
  | .field none name => primary.flaw? name
  | .field (some (.table t)) name => fieldFlaw? name (describe registry t.entity)
  | .field (some (.subquery s)) name =>
    if s.columns = [] ∨ name ∈ s.columns then fieldFlaw? name (nestedEntity describe before s.node)
    else some (.unknownField name)
  | .operator kind op second => operatorFlaw? kind op second
  | .table entity =>
    match describe registry entity with
    | .error e => some e
    | .ok _ => none
  | .source s => if nonEmpty s.aliasName = none then some .missingSubqueryAlias else inner s.node
  | .nested s => inner s.node

/-- **The first flaw of a statement**: that of its entity, or else of the first item that has one. -/
def Selector.flaw? (before : List Selector) (inner : Nat → Option BuildError) (s : Selector) :
    Option BuildError :=
  match s.described describe with
  | .error e => some e
  | .ok primary => s.items.findSome? (Item.flaw? describe s.db.registry primary before inner)

/-- The first flaws of nested statements by their numbers. A number without a statement stands for a
statement without an entity. -/
def flaws (nested : List Selector) : Nat → Option BuildError :=
  tabulate (some .nilEntity) (fun before inner s => s.flaw? describe before inner) nested

/-- The first flaw of a statement behind others. -/
def Selector.firstFlaw? (nested : List Selector) (s : Selector) : Option BuildError :=
  s.flaw? describe nested (flaws describe nested)

end Flaws

/-! ## 2. Tables by their numbers -/

section Tables

variable {α : Type} {a : α} {say : List Selector → (Nat → α) → Selector → α}
  {nested : List Selector} {n k : Nat} {s : Selector}

theorem tabulate_of_length_le (h : nested.length ≤ n) : tabulate a say nested n = a := by
  induction nested using List.reverseRecOn with
  | nil => rfl
  | append_singleton nested t ih =>
    rw [List.length_append, List.length_singleton] at h
    rw [tabulate_concat_of_ne t (by omega), ih (by omega)]

theorem tabulate_of_getElem? (h : nested[n]? = some s) :
    tabulate a say nested n = say (nested.take n) (tabulate a say (nested.take n)) s := by
  have hn : n < nested.length := (List.getElem?_eq_some_iff.1 h).1
  have hlength : (nested.take n).length = n := List.length_take_of_le (Nat.le_of_lt hn)
  have last : tabulate a say (nested.take n ++ [s]) (nested.take n).length
      = say (nested.take n) (tabulate a say (nested.take n)) s := tabulate_concat_self _ s
  rw [hlength] at last
  conv_lhs => rw [eq_take_append_of_getElem? h]
  rw [tabulate_append _ (by rw [List.length_append, hlength]; exact Nat.lt_succ_self n), last]

theorem tabulate_take (hk : k < n) (hn : n ≤ nested.length) :
    tabulate a say (nested.take n) k = tabulate a say nested k := by
  have hlength : (nested.take n).length = n := List.length_take_of_le hn
  conv_rhs => rw [← List.take_append_drop n nested]
  rw [tabulate_append _ (by omega)]

end Tables

theorem flaws_of_getElem? {describe : Nat → EntityKey → Except BuildError EntityMetadata}
    {nested : List Selector} {n : Nat} {s : Selector} (h : nested[n]? = some s) :
    flaws describe nested n = s.firstFlaw? describe (nested.take n) :=
  tabulate_of_getElem? h

/-! ## 3. Builds that are given verdicts -/

/-- The outcome that a flaw leads to. -/
def verdict {α : Type} (a : α) : Option BuildError → Except BuildError α
  | none => .ok a
  | some e => .error e

@[simp] theorem voidly_verdict {α : Type} (a : α) (flaw : Option BuildError) :
    voidly (verdict a flaw) = verdict () flaw := by
  cases flaw <;> rfl

theorem verdict_eq_error_iff {α : Type} {a : α} {flaw : Option BuildError} {e : BuildError} :
    verdict a flaw = .error e ↔ flaw = some e := by
  cases flaw <;> simp [verdict]

/-- Meeting items one after the other leads to the first flaw. -/
theorem forM_verdict {f : Item → Except BuildError Unit} {flaw : Item → Option BuildError}
    {items : List Item} (h : ∀ i ∈ items, f i = verdict () (flaw i)) :
    forM items f = verdict () (items.findSome? flaw) := by
  induction items with
  | nil => rfl
  | cons i rest ih =>
    rw [List.forM_cons, h i List.mem_cons_self, List.findSome?_cons,
      ih fun j hj => h j (List.mem_cons_of_mem i hj)]
    cases flaw i <;> rfl

variable {describe : Nat → EntityKey → Except BuildError EntityMetadata} {nested : List Selector}

theorem metadata_eq_described (s : Selector) : s.metadata describe = s.described describe := by
  unfold Selector.metadata Selector.described
  cases s.entity <;> rfl

variable (describe nested) in
/-- What a statement is compiled against answers with descriptions as `describe` has them, and of
nested statements it gives, but for their results, verdicts on the flaws `inner`. -/
structure Inner.GivesVerdicts (inner : Nat → Option BuildError) (i : Inner (Except BuildError)) :
    Prop where
  describes : i.describe = describe
  entities : ∀ n, i.metadata n = nestedEntity describe nested n
  verdicts : ∀ n, voidly (i.query n) = verdict () (inner n)

variable (describe nested) in
/-- What a statement is compiled against if of nested statements only the first flaws are known. -/
def judged : Inner (Except BuildError) where
  describe
  size := nested.length
  query n := verdict .empty (flaws describe nested n)
  metadata := nestedEntity describe nested

theorem judged_givesVerdicts :
    (judged describe nested).GivesVerdicts describe nested (flaws describe nested) :=
  ⟨rfl, fun _ => rfl, fun _ => voidly_verdict _ _⟩

theorem voidly_require (d : EntityMetadata) (field : String) :
    voidly (Scope.require d field : Except BuildError String) = verdict () (d.flaw? field) := by
  unfold Scope.require EntityMetadata.flaw?
  cases d.column? field <;> rfl

theorem voidly_bind_require (d : Except BuildError EntityMetadata) (field : String) :
    voidly (d >>= fun d => Scope.require d field) = verdict () (fieldFlaw? field d) := by
  cases d with
  | error e => rfl
  | ok d => exact voidly_require d field

theorem admit_eq_verdict (kind : NodeKind) (op : Operator) (second : Bool) :
    (if second then Scope.admitBinary kind op else Scope.admitUnary kind op)
      = verdict () (operatorFlaw? kind op second) := by
  unfold Scope.admitBinary Scope.admitUnary operatorFlaw?
  by_cases hk : op.nodeKind = kind <;> cases op.isUnary <;> cases second <;> simp [hk] <;> rfl

namespace Inner.GivesVerdicts

variable {inner : Nat → Option BuildError} {i : Inner (Except BuildError)}

/-- **Meeting an item leads to its flaw.** -/
theorem meet (h : i.GivesVerdicts describe nested inner) (registry : Nat) (primary : EntityMetadata)
    (item : Item) : Scope.meet { registry, primary, inner := i } item
      = verdict () (item.flaw? describe registry primary nested inner) := by
  match item with
  | .field none name => exact voidly_require primary name
  | .field (some (.table t)) name =>
    simp only [Scope.meet, Scope.columnName, h.describes]
    exact voidly_bind_require _ name
  | .field (some (.subquery s)) name =>
    simp only [Scope.meet, Scope.columnName, h.entities, Item.flaw?, Subquery.shows,
      Bool.or_eq_true, List.isEmpty_iff, List.contains_iff_mem]
    split
    · exact voidly_bind_require _ name
    · rfl
  | .operator kind op second => exact admit_eq_verdict kind op second
  | .table entity =>
    simp only [Scope.meet, Item.flaw?, h.describes]
    cases describe registry entity <;> rfl
  | .source s =>
    simp only [Scope.meet, Item.flaw?]
    cases nonEmpty s.aliasName with
    | none => rfl
    | some name => exact h.verdicts s.node
  | .nested s => exact h.verdicts s.node

/-- **A build that is given verdicts fails with the first flaw.** -/
theorem voidly_build (h : i.GivesVerdicts describe nested inner) (s : Selector) :
    voidly (s.build i) = verdict () (s.flaw? describe nested inner) := by
  rw [SqlSelect.voidly_build, h.describes, metadata_eq_described, Selector.flaw?]
  cases s.described describe with
  | error e => rfl
  | ok primary => exact forM_verdict fun item _ => h.meet _ primary item

end Inner.GivesVerdicts

/-- A build that is given the first flaws of nested statements fails with its own. -/
theorem voidly_build_judged (s : Selector) :
    voidly (s.build (judged describe nested)) = verdict () (s.firstFlaw? describe nested) :=
  judged_givesVerdicts.voidly_build s

/-! ## 4. Builds over stores -/

/-- Nothing of the statements that `reached` holds of is in its cell, unless it has no flaw. -/
structure Store.Unflawed (describe : Nat → EntityKey → Except BuildError EntityMetadata)
    (nested : List Selector) (reached : Nat → Prop) (st : Store) : Prop where
  describes : st.Describes describe
  cells : ∀ n, reached n → st.cells n ≠ none → flaws describe nested n = none

section Reached

variable {reached : Nat → Prop}

theorem resolve_unflawed (n : Nat) (key : EntityKey) :
    (answering (Store.Unflawed describe nested reached)).Holds (resolve n key)
      (describe n key) :=
  resolve_answers (fun _ h => h.describes) (fun _ _ _ h hr => ⟨hr, h.cells⟩) n key

/-- Keeping in cells keeps to a flaw, if the build that is kept does. -/
theorem inCells_verdict {n : Nat} {b : BuildM Query} (hn : reached n)
    (h : (answering (Store.Unflawed describe nested reached)).Holds (voidly b)
      (verdict () (flaws describe nested n))) :
    (answering (Store.Unflawed describe nested reached)).Holds (voidly (Keeping.inCells n b))
      (verdict () (flaws describe nested n)) := by
  intro st hst
  rw [run_voidly, run_inCells]
  cases hc : st.cells n with
  | some q =>
    rw [hst.cells n hn (by simp [hc])]
    exact ⟨rfl, hst⟩
  | none =>
    obtain ⟨hr, hst'⟩ := h (st.note n) ⟨hst.describes, hst.cells⟩
    rw [run_voidly] at hr hst'
    rcases hb : b.run.run (st.note n) with ⟨e | q, st'⟩
    · rw [hb] at hr hst'
      exact ⟨hr, hst'⟩
    · rw [hb] at hr hst'
      refine ⟨hr, hst'.describes, fun k hk hfilled => ?_⟩
      by_cases same : k = n
      · subst same
        cases hf : flaws describe nested k with
        | none => rfl
        | some e =>
          rw [hf] at hr
          cases hr
      · simp only [Store.fill, Store.update_of_ne _ _ same] at hfilled
        exact hst'.cells k hk hfilled

/-- A statement behind the first `bound` nested ones is given verdicts, if those it writes out are. -/
theorem serves_judged {bound : Nat} (hbound : bound ≤ nested.length) {s : Selector}
    (written : ∀ i ∈ s.items, ∀ n ∈ i.written, n < bound →
      (answering (Store.Unflawed describe nested reached)).Holds
        (voidly ((Inner.ofList .inCells resolve nested).query n))
        (verdict () (flaws describe nested n))) :
    (answering (Store.Unflawed describe nested reached)).Serves s
      (.ofList .inCells resolve (nested.take bound)) (judged describe (nested.take bound)) where
  own := by
    rw [describe_ofList]
    exact Correspondence.ofEntity resolve_unflawed s
  entity i _ key _ := by
    rw [describe_ofList]
    exact resolve_unflawed _ key
  bound i _ n _ := by
    simp only [judged, nestedEntity]
    cases hn : (nested.take bound)[n]? with
    | none =>
      rw [metadata_of_length_le (List.getElem?_eq_none_iff.1 hn)]
      exact (answering _).ofThrow _
    | some t =>
      rw [metadata_of_getElem? hn]
      simp only [← metadata_eq_described]
      exact Correspondence.ofEntity resolve_unflawed t
  written i hi n hn := by
    rw [judged, voidly_verdict]
    by_cases below : n < bound
    · rw [query_take below hbound, flaws, tabulate_take below hbound]
      exact written i hi n hn below
    · have hlength : (nested.take bound).length ≤ n := by
        rw [List.length_take_of_le hbound]
        exact Nat.not_lt.1 below
      rw [query_of_length_le hlength, flaws, tabulate_of_length_le hlength]
      exact (answering _).ofThrow _

/-- **Nested statements that are reached fail with their first flaws.** -/
theorem query_judged (closed : ∀ n s, reached n → nested[n]? = some s →
      ∀ i ∈ s.items, ∀ k ∈ i.written, k < n → reached k)
    {n : Nat} (hn : n < nested.length) (hr : reached n) :
    (answering (Store.Unflawed describe nested reached)).Holds
      (voidly ((Inner.ofList .inCells resolve nested).query n))
      (verdict () (flaws describe nested n)) := by
  induction n using Nat.strongRecOn with
  | _ n ih =>
    obtain ⟨s, hs⟩ : ∃ s, nested[n]? = some s := ⟨_, List.getElem?_eq_getElem hn⟩
    rw [query_of_getElem? hs]
    refine inCells_verdict hr ?_
    have served : (answering (Store.Unflawed describe nested reached)).Serves s
        (.ofList .inCells resolve (nested.take n)) (judged describe (nested.take n)) :=
      serves_judged (Nat.le_of_lt hn) fun i hi k hk below =>
        ih k below (Nat.lt_trans below hn) (closed n s hr hs i hi k hk below)
    have built := served.voidly_build
    rwa [voidly_build_judged, ← voidly_buildNested, ← flaws_of_getElem? hs] at built

end Reached

/-! ## 5. The error of a build -/

/-- **A build fails exactly with the first flaw of its statement**, if no cell is filled of the nested
statements that it writes out, directly or in others. -/
theorem build_eq_error_iff {nested : List Selector} {s : Selector} {st : Store}
    (empty : ∀ n, s.Reaches nested nested.length n → st.cells n = none) (e : BuildError) :
    ((s.build (.ofList .inCells resolve nested)).run.run st).1 = .error e
      ↔ s.firstFlaw? st.answer nested = some e := by
  have unflawed : st.Unflawed st.answer nested (s.Reaches nested nested.length) :=
    ⟨rfl, fun n hn hfilled => absurd (empty n hn) hfilled⟩
  have served : (answering (Store.Unflawed st.answer nested (s.Reaches nested nested.length))).Serves
      s (.ofList .inCells resolve (nested.take nested.length))
      (judged st.answer (nested.take nested.length)) :=
    serves_judged (Nat.le_refl nested.length) fun i hi n hn below =>
      query_judged (fun _ _ hr hs _ hj _ hk below => hr.tail hs hj hk below) below
        (.direct hi hn below)
  rw [List.take_length] at served
  have built := (served.voidly_build st unflawed).1
  rw [run_voidly, voidly_build_judged] at built
  rw [← verdict_eq_error_iff (a := ()), ← built]
  cases ((s.build (.ofList .inCells resolve nested)).run.run st).1 <;> simp [Except.map]

/-- The users with something in a field that there is not. -/
def ghosts : Selector := { namesakes with filters := [.isNotNull (.column { name := "Ghost" })] }

/-- Two flaws: in the statement behind `EXISTS`, and in the order behind it. -/
def hauntedPage : Selector :=
  { usersPage with
    filters := [.keyword (.exist { node := 0 })]
    orderBy := [{ column := { name := "Phantom" }, dir := .desc }] }

theorem build_eq_error_iff_hauntedPage :
    (∀ n, hauntedPage.Reaches [ghosts] 1 n → usersStore.cells n = none) ∧
      ((hauntedPage.build (.ofList .inCells resolve [ghosts])).run.run usersStore).1
        = .error (.unknownField "Ghost") := by
  have empty : ∀ n, hauntedPage.Reaches [ghosts] 1 n → usersStore.cells n = none :=
    fun _ _ => rfl
  have flawed : hauntedPage.firstFlaw? usersStore.answer [ghosts]
      = some (.unknownField "Ghost") := by decide +kernel
  exact ⟨empty, (build_eq_error_iff empty _).2 flawed⟩

end SqlSelect
