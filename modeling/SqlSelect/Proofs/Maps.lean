import Mathlib.Data.Finset.Card
import Mathlib.Data.Finset.Dedup
import SqlSelect.Proofs.Events
import SqlSelect.Proofs.Growth
import SqlSelect.Proofs.Mappings
/-!
# A registry as two maps

To its users a registry is two maps that know nothing of each other: from names to the descriptions
that were registered last, and from entity types to the descriptions that they bring along. Both are
read off the events of a run, without a registry.

* `lastRegistered`, `stands` -- what a name and what a key stands for after some events;
* `Explained` -- every resolution among the events, also those inside of builds, answered what its key
  stood for at that moment;
* `Registry.Refines` -- what can be asked of a registry is answered from its events;
* `Registry.Traced.refines` -- a registry that has come about by events refines them; the counts rest
  on the invariant that a type that was taken up was asked for its description once;
* `Session.registry_refines` -- so it is at every moment of every run.
-/

namespace SqlSelect

/-! ## 1. Descriptions -/

namespace EntityMetadata

/-- The table has a name that is not blank, and there is a field. -/
def Complete (m : EntityMetadata) : Prop :=
  Text.isBlankText m.tableName = false ∧ m.fields ≠ []

instance (m : EntityMetadata) : Decidable m.Complete :=
  inferInstanceAs (Decidable (_ ∧ _))

theorem isUsable_iff {m : EntityMetadata} : m.isUsable = true ↔ m.Complete := by
  simp [isUsable, Complete]

end EntityMetadata

/-! ## 2. Keys -/

namespace EntityKey

/-- Two keys are the same key: types are told apart by their paths, names by their texts. -/
def Matches : EntityKey → EntityKey → Prop
  | typed a, typed b => a.path = b.path
  | named a, named b => a = b
  | _, _ => False

theorem matches_equivalence : Equivalence Matches where
  refl key := by cases key <;> rfl
  symm {a b} h := by
    cases a <;> cases b
    · exact Eq.symm h
    · exact h
    · exact h
    · exact Eq.symm h
  trans {a b c} h h' := by
    cases a <;> cases b <;> cases c
    all_goals first | exact Eq.trans h h' | exact False.elim h | exact False.elim h'

end EntityKey

/-- The entity types of a program: what each path stands for, once and for all. -/
structure World where
  type : String → EntityType
  path_type : ∀ path, (type path).path = path
  made : ∀ path, (type path).description.Made

/-- The keys of a program, for its types and for names. -/
inductive EntityKey.Made (W : World) : EntityKey → Prop
  | of (path : String) : Made W (.typed (W.type path))
  | named (name : String) : Made W (.named name)

/-- **Keys that are the same are exchangeable.** -/
theorem EntityKey.Made.eq_of_matches {W : World} {a b : EntityKey} (ha : a.Made W) (hb : b.Made W)
    (h : a.Matches b) : a = b := by
  cases ha with
  | of path =>
    cases hb with
    | of path' =>
      have same : path = path' := (W.path_type path).symm.trans (h.trans (W.path_type path'))
      rw [same]
    | named name => exact h.elim
  | named name =>
    cases hb with
    | of path => exact h.elim
    | named name' => exact congrArg EntityKey.named h

/-! ## 3. What events tell -/

/-- The description that was registered last under a name. -/
def lastRegistered (name : String) : List Event → Option EntityMetadata
  | [] => none
  | .registered other m :: earlier => if name = other then some m else lastRegistered name earlier
  | .resolved .. :: earlier => lastRegistered name earlier

/-- **What a key stands for after some events.** A name stands for what was registered last under it. A
type stands for the description that it brings along, whatever has happened. -/
def stands (events : List Event) : EntityKey → Except BuildError EntityMetadata
  | .named name =>
    match lastRegistered name events with
    | some m => .ok m
    | none => .error (.unresolvableEntity name)
  | .typed type =>
    if type.description.Complete then .ok type.description
    else .error (.unsupportedEntityKind type.name)

/-- Only complete descriptions were registered, and every resolution answered what its key stood for
after the events before it. -/
def Explained : List Event → Prop
  | [] => True
  | .registered _ m :: earlier => m.Complete ∧ Explained earlier
  | .resolved key result :: earlier => result = stands earlier key ∧ Explained earlier

/-- The types that were resolved successfully. -/
def resolvedTypes : List Event → List EntityType
  | [] => []
  | .resolved (.typed type) (.ok _) :: earlier => type :: resolvedTypes earlier
  | _ :: earlier => resolvedTypes earlier

theorem exists_registered_iff {name : String} {events : List Event} :
    (∃ m, .registered name m ∈ events) ↔ (lastRegistered name events).isSome := by
  induction events with
  | nil => simp [lastRegistered]
  | cons event earlier ih =>
    cases event with
    | registered other m =>
      by_cases same : name = other
      · simp [lastRegistered, same]
      · simp [lastRegistered, same, ih]
    | resolved key result => simp [lastRegistered, ih]

/-! ## 4. Registries -/

namespace Registry

/-- The registry holds a description, registered or of a type that was taken up. -/
def Stores (r : Registry) (m : EntityMetadata) : Prop :=
  (∃ name, r.get? name = some m) ∨ ∃ type ∈ r.typed, m = type.description

/-- **The registry is the two maps that its events tell of.** -/
structure Refines (r : Registry) (events : List Event) : Prop where
  get : ∀ name, r.get? name = lastRegistered name events
  resolve : ∀ key, (r.resolve key).1 = stands events key
  names_sorted : r.names.Pairwise (· < ·)
  mem_names : ∀ name, name ∈ r.names ↔ ∃ m, .registered name m ∈ events
  size : r.size = r.names.length + (resolvedTypes events).toFinset.card
  complete : ∀ m, r.Stores m → m.Complete
  /-- A type with a complete description was asked for it at most once. -/
  described : ∀ type : EntityType, type.description.Complete → r.described.count type ≤ 1
  explained : Explained events

variable {r : Registry} {events : List Event}

theorem register_ok {r' : Registry} {name : String} {m : EntityMetadata}
    (h : r.register name m = .ok r') :
    m.Complete ∧ r' = { r with named := r.named.insert name m } := by
  unfold register at h
  split at h
  · next usable =>
    cases h
    exact ⟨EntityMetadata.isUsable_iff.1 usable, rfl⟩
  · cases h

/-- What resolving a key asks of a type. -/
theorem described_resolve (r : Registry) (key : EntityKey) (type : EntityType) :
    (r.resolve key).2.described.count type
      = r.described.count type + if key = .typed type ∧ type ∉ r.typed then 1 else 0 := by
  cases key with
  | named name => simp [resolve_named]
  | typed other =>
    have asked (known : other ∉ r.typed) :
        (r.resolve (.typed other)).2.described = other :: r.described := by
      simp only [Registry.resolve, known, if_false]
      split <;> rfl
    by_cases known : other ∈ r.typed
    · have kept : (r.resolve (.typed other)).2 = r := by simp only [Registry.resolve, known, if_true]
      have old : ¬ (EntityKey.typed other = .typed type ∧ type ∉ r.typed) := by
        rintro ⟨same, unknown⟩
        cases same
        exact unknown known
      rw [kept, if_neg old, Nat.add_zero]
    · rw [asked known, List.count_cons]
      by_cases same : other = type
      · subst same
        simp [known]
      · simp [same]

namespace Traced

theorem get (h : r.Traced events) (name : String) : r.get? name = lastRegistered name events := by
  induction h with
  | empty => rfl
  | registered h accepted ih =>
    obtain ⟨-, rfl⟩ := register_ok accepted
    simp only [get?, lastRegistered, KeyMap.get?_insert]
    split
    · rfl
    · exact ih
  | resolved h key ih =>
    rw [lastRegistered, ← ih, get?, get?, named_resolve]

/-- Only types with complete descriptions are taken up. -/
theorem complete_of_mem_typed (h : r.Traced events) {type : EntityType} (mem : type ∈ r.typed) :
    type.description.Complete := by
  induction h with
  | empty => cases mem
  | registered h accepted ih =>
    obtain ⟨-, rfl⟩ := register_ok accepted
    exact ih mem
  | resolved h key ih =>
    rcases mem_typed_resolve.1 mem with mem | ⟨-, usable⟩
    · exact ih mem
    · exact EntityMetadata.isUsable_iff.1 usable

theorem complete_of_lastRegistered (h : r.Traced events) {name : String} {m : EntityMetadata}
    (registered : lastRegistered name events = some m) : m.Complete := by
  induction h with
  | empty => cases registered
  | registered h accepted ih =>
    simp only [lastRegistered] at registered
    split at registered
    · cases registered
      exact (register_ok accepted).1
    · exact ih registered
  | resolved h key ih => exact ih registered

/-- **A key is resolved to what it stands for.** -/
theorem resolve (h : r.Traced events) (key : EntityKey) : (r.resolve key).1 = stands events key := by
  cases key with
  | named name =>
    rw [resolve_named, h.get, stands]
    cases lastRegistered name events <;> rfl
  | typed type =>
    have known : (type ∈ r.typed ∨ type.description.isUsable) ↔ type.description.Complete := by
      rw [EntityMetadata.isUsable_iff]
      exact ⟨fun known => known.elim h.complete_of_mem_typed id, .inr⟩
    simp only [resolve_typed_fst, stands, known]

theorem explained (h : r.Traced events) : Explained events := by
  induction h with
  | empty => trivial
  | registered h accepted ih => exact ⟨(register_ok accepted).1, ih⟩
  | resolved h key ih => exact ⟨h.resolve key, ih⟩

theorem mem_typed (h : r.Traced events) (type : EntityType) :
    type ∈ r.typed ↔ type ∈ resolvedTypes events := by
  induction h with
  | empty => rfl
  | registered h accepted ih =>
    obtain ⟨-, rfl⟩ := register_ok accepted
    exact ih
  | @resolved events r h key ih =>
    rw [mem_typed_resolve, ih, EntityMetadata.isUsable_iff]
    cases key with
    | named name => simp [resolvedTypes]
    | typed other =>
      rw [h.resolve, stands]
      by_cases complete : other.description.Complete
      · simp only [if_pos complete, resolvedTypes, List.mem_cons, EntityKey.typed.injEq]
        constructor
        · rintro (mem | ⟨rfl, -⟩)
          · exact .inr mem
          · exact .inl rfl
        · rintro (rfl | mem)
          · exact .inr ⟨rfl, complete⟩
          · exact .inl mem
      · simp only [if_neg complete, resolvedTypes, EntityKey.typed.injEq]
        refine ⟨?_, .inl⟩
        rintro (mem | ⟨rfl, complete'⟩)
        · exact mem
        · exact absurd complete' complete

theorem nodup_typed (h : r.Traced events) : r.typed.Nodup := by
  induction h with
  | empty => exact List.nodup_nil
  | registered h accepted ih =>
    obtain ⟨-, rfl⟩ := register_ok accepted
    exact ih
  | @resolved events r h key ih =>
    cases key with
    | named name =>
      rw [resolve_named]
      exact ih
    | typed type =>
      simp only [Registry.resolve]
      split
      · exact ih
      · next unknown =>
        split
        · exact List.nodup_cons.2 ⟨unknown, ih⟩
        · exact ih

/-- **The invariant of descriptions**: a type whose description is complete was asked for it once if it
was taken up, and otherwise never. -/
theorem count_described (h : r.Traced events) {type : EntityType}
    (complete : type.description.Complete) :
    r.described.count type = if type ∈ r.typed then 1 else 0 := by
  induction h with
  | empty => rfl
  | registered h accepted ih =>
    obtain ⟨-, rfl⟩ := register_ok accepted
    exact ih
  | @resolved events r h key ih =>
    have taken : type ∈ (r.resolve key).2.typed ↔ type ∈ r.typed ∨ key = .typed type := by
      rw [mem_typed_resolve, EntityMetadata.isUsable_iff]
      exact or_congr_right (and_iff_left complete)
    rw [described_resolve, ih]
    simp only [taken]
    by_cases known : type ∈ r.typed <;> by_cases own : key = .typed type <;> simp [known, own]

/-- **A registry that has come about by events refines them.** -/
theorem refines (h : r.Traced events) : r.Refines events where
  get := h.get
  resolve := h.resolve
  names_sorted := List.pairwise_map.2 r.named.ascending
  mem_names name := by
    rw [exists_registered_iff, ← h.get]
    exact KeyMap.mem_keys_iff
  size := by
    have same : r.typed.toFinset = (resolvedTypes events).toFinset := by
      ext type
      rw [List.mem_toFinset, List.mem_toFinset, h.mem_typed]
    rw [← same, List.toFinset_card_of_nodup h.nodup_typed]
    exact congrArg (· + r.typed.length) (List.length_map _).symm
  complete m stored := by
    rcases stored with ⟨name, registered⟩ | ⟨type, mem, rfl⟩
    · rw [h.get] at registered
      exact h.complete_of_lastRegistered registered
    · exact h.complete_of_mem_typed mem
  described type complete := by
    rw [h.count_described complete]
    split
    · exact Nat.le_refl 1
    · exact Nat.zero_le 1
  explained := h.explained

end Traced

end Registry

/-! ## 5. Sessions -/

variable {W : World}

/-- The keys in a statement: that of its own entity, and those of other tables. -/
def Selector.keys (s : Selector) : List EntityKey :=
  s.entity.toList ++ s.items.flatMap Item.entities

/-- A statement is about entities of a program only. -/
def Selector.Over (W : World) (s : Selector) : Prop := ∀ key ∈ s.keys, key.Made W

/-- A step is about entities of a program only, and registers only what can be put together. -/
def Step.Over (W : World) : Step → Prop
  | .register _ _ m => m.Made
  | .resolve _ key => key.Made W
  | .nest selector _ _ => selector.Over W
  | .build selector => selector.Over W
  | _ => True

theorem Selector.Over.own {s : Selector} (h : s.Over W) {key : EntityKey} (own : s.entity = some key) :
    key.Made W :=
  h key (List.mem_append_left _ (Option.mem_toList.2 own))

theorem Selector.Mentions.made {nested : List Selector} {bound k : Nat} {s : Selector}
    {key : EntityKey} (h : s.Mentions nested bound k key) (hs : s.Over W)
    (inner : ∀ t ∈ nested, t.Over W) : key.Made W := by
  induction h with
  | own h => exact hs.own h
  | item hi hkey => exact hs _ (List.mem_append_right _ (List.mem_flatMap.2 ⟨_, hi, hkey⟩))
  | inside hi hk below ht further ih => exact ih (inner _ (List.mem_of_getElem? ht))

namespace Session

theorem nested_step {s : Session} {st : Step} (hst : st.Over W) (h : ∀ t ∈ s.nested, t.Over W) :
    ∀ t ∈ (s.step st).2.nested, t.Over W := by
  cases st with
  | register k name m =>
    simp only [step]
    split <;> exact h
  | nest selector columns aliasName =>
    exact List.forall_mem_append.2 ⟨h, List.forall_mem_singleton.2 hst⟩
  | openRegistry | resolve | build | compiled | metadata => exact h

/-- A session whose nested statements and whose descriptions are those of a program. -/
structure Over (W : World) (s : Session) : Prop where
  nested : ∀ t ∈ s.nested, t.Over W
  registered : ∀ k name m, (s.registry k).get? name = some m → m.Made
  typed : ∀ k type, type ∈ (s.registry k).typed → EntityKey.Made W (.typed type)

/-- **Each step keeps to a program**, because a session grows only by what the step is about. -/
theorem Over.step {s : Session} (h : s.Over W) {st : Step} (hst : st.Over W) :
    (s.step st).2.Over W where
  nested := nested_step hst h.nested
  registered k name m hm := by
    have growth := s.registryGrowth st
    rcases growth.named k name with same | ⟨m', rfl, done⟩
    · exact h.registered k name m (same ▸ hm)
    · cases (growth.registered k name m' rfl done).symm.trans hm
      exact hst
  typed k type mem := by
    rcases (s.registryGrowth st).taken k type mem with mem | resolves
    · exact h.typed k type mem
    · cases st with
      | resolve registry key =>
        obtain ⟨-, rfl⟩ := resolves
        exact hst
      | build selector => exact resolves.made hst h.nested
      | compiled subquery =>
        obtain ⟨t, ht, mentions⟩ := resolves
        exact mentions.made (h.nested t (List.mem_of_getElem? ht)) h.nested
      | metadata subquery =>
        obtain ⟨t, ht, own, -⟩ := resolves
        exact (h.nested t (List.mem_of_getElem? ht)).own own
      | openRegistry | register | nest => exact resolves.elim

theorem over_steps {run : List Step} (hrun : ∀ st ∈ run, st.Over W) :
    (start.steps run).2.Over W := by
  induction run using List.reverseRecOn with
  | nil =>
    exact ⟨fun _ ht => absurd ht List.not_mem_nil, fun _ _ _ hm => (by cases hm),
      fun _ _ mem => absurd mem List.not_mem_nil⟩
  | append_singleton run st ih =>
    obtain ⟨before, last⟩ := List.forall_mem_append.1 hrun
    rw [steps_concat]
    exact (ih before).step (List.forall_mem_singleton.1 last)

/-- **Registries are two maps.** At every moment of every run of a program, a registry answers
everything that can be asked of it from what has happened to it: the last registration under a name,
and the descriptions that entity types bring along. No field is mapped twice in a description that it
holds, and keys that are the same are exchangeable in it. -/
theorem registry_refines (W : World) (run : List Step) (hrun : ∀ st ∈ run, st.Over W) (k : Nat) :
    ((start.steps run).2.registry k).Refines (history run k) ∧
      (∀ m, ((start.steps run).2.registry k).Stores m → (m.fields.map (·.1)).Nodup) ∧
      Equivalence EntityKey.Matches ∧
      ∀ a b : EntityKey, a.Made W → b.Made W → a.Matches b →
        a.name = b.name ∧ ∀ r : Registry, r.resolve a = r.resolve b := by
  have kept := over_steps hrun
  refine ⟨(told_history run k).refines, ?_, EntityKey.matches_equivalence, ?_⟩
  · rintro m (⟨name, registered⟩ | ⟨type, mem, rfl⟩)
    · exact (kept.registered k name m registered).nodup_fields
    · cases kept.typed k type mem with
      | of path => exact (W.made path).nodup_fields
  · intro a b ha hb same
    obtain rfl := ha.eq_of_matches hb same
    exact ⟨rfl, fun _ => rfl⟩

/-- Types of one name with a table each, but for one whose table has no name. -/
def tables : World where
  type path :=
    { path, name := "user"
      description := if path = "Blank" then { tableName := " " }
        else EntityMetadata.withField { tableName := path } "Id" "id" }
  path_type _ := rfl
  made path := by
    dsimp only
    split
    · exact .new " "
    · exact .withField (.new path) "Id" "id"

/-- A run with a refused registration, a registration in the place of another one, two types of the
name that is registered, of which one is met in a nested statement, and a statement that fails. -/
def usersRun : List Step :=
  let db : Db := { registry := 0, dialect := BaseDialect.mysql.toDialect }
  [.register 0 "user" (EntityMetadata.withField { tableName := "old" } "Id" "id"),
    .register 0 "blank" { tableName := "blank" },
    .register 0 "user" (EntityMetadata.withField { tableName := "new" } "Id" "id"),
    .nest { db, entity := some (.typed (tables.type "auth::User")) } [] none,
    .build { db, entity := some (.typed (tables.type "billing::User"))
             filters := [.keyword (.exist { node := 0 }), .isNull (.column { name := "Ghost" })] },
    .resolve 0 (.typed (tables.type "Blank")),
    .resolve 0 (.typed (tables.type "auth::User"))]

theorem registry_refines_usersRun :
    ((start.steps usersRun).2.registry 0).Refines (history usersRun 0) ∧
      ((start.steps usersRun).2.registry 0).names = ["user"] ∧
      ((start.steps usersRun).2.registry 0).size = 3 ∧
      (resolvedTypes (history usersRun 0)).map EntityType.path
        = ["auth::User", "auth::User", "billing::User"] ∧
      ((start.steps usersRun).2.registry 0).get? "user"
        = some { tableName := "new", fields := [("Id", "id")] } := by
  have hrun : ∀ st ∈ usersRun, st.Over tables := by
    refine List.forall_mem_cons.2 ⟨.withField (.new "old") "Id" "id", ?_⟩
    refine List.forall_mem_cons.2 ⟨.new "blank", ?_⟩
    refine List.forall_mem_cons.2 ⟨.withField (.new "new") "Id" "id", ?_⟩
    refine List.forall_mem_cons.2 ⟨List.forall_mem_singleton.2 (.of "auth::User"), ?_⟩
    refine List.forall_mem_cons.2 ⟨List.forall_mem_singleton.2 (.of "billing::User"), ?_⟩
    exact List.forall_mem_cons.2 ⟨.of "Blank", List.forall_mem_singleton.2 (.of "auth::User")⟩
  exact ⟨(registry_refines tables usersRun hrun 0).1, by decide +kernel, by decide +kernel,
    by decide +kernel, by decide +kernel⟩

end Session

end SqlSelect
