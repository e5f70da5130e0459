import SqlSelect.Proofs.Flaws
import SqlSelect.Proofs.Relabeling
/-!
# Field names stay inside

A field has a name only to be found by: what is written is its column. So other names for the fields,
in all descriptions and in all statements at once, change nothing that is built, as long as different
fields keep different names. Only the error that names a field is about the name.

* `Relabeling.ofFields` -- other names for fields as a relabeling of statements;
* `Store.renameFields` -- a store under other names: every description has them, whether it was
  registered or belongs to a type, and the cells, which hold columns, are what they were;
* `Registry.resolve_renameFields` -- looking an entity up does not tell names apart;
* `underNames` -- two computations of which the second does over the renamed store what the first does;
* `build_renameFields` -- building a statement under other names.
-/

namespace SqlSelect

/-! ## 1. Descriptions and registries under other names -/

/-- The map with other values. -/
def KeyMap.mapValues {α β : Type} (f : α → β) (m : KeyMap α) : KeyMap β where
  entries := m.entries.map fun e => (e.1, f e.2)
  ascending := List.pairwise_map.2 m.ascending

theorem KeyMap.get?_mapValues {α β : Type} (f : α → β) (m : KeyMap α) (key : String) :
    (m.mapValues f).get? key = (m.get? key).map f := by
  show (m.entries.map fun e => (e.1, f e.2)).lookup key = (m.entries.lookup key).map f
  induction m.entries with
  | nil => rfl
  | cons e rest ih =>
    rw [List.map_cons, List.lookup_cons, List.lookup_cons, ih]
    cases key == e.1 <;> rfl

section Rename

variable (r : String → String)

/-- A description with other names for its fields, and the same columns. -/
def EntityMetadata.renameFields (d : EntityMetadata) : EntityMetadata :=
  { d with fields := d.fields.map fun e => (r e.1, e.2) }

/-- An entity type whose description has other names. -/
def EntityType.renameFields (t : EntityType) : EntityType :=
  { t with description := t.description.renameFields r }

/-- A key, with other names in the description that it may bring. -/
def EntityKey.renameFields : EntityKey → EntityKey
  | typed t => typed (t.renameFields r)
  | named name => named name

/-- A registry with other names in all of its descriptions. -/
def Registry.renameFields (g : Registry) : Registry where
  named := g.named.mapValues (EntityMetadata.renameFields r)
  typed := g.typed.map (EntityType.renameFields r)
  described := g.described.map (EntityType.renameFields r)

/-- A store with other names in all of its descriptions. -/
def Store.renameFields (st : Store) : Store :=
  { st with registries := fun n => (st.registries n).renameFields r }

/-- An error, about the other name if it is about a field. -/
def BuildError.renameField : BuildError → BuildError
  | unknownField name => unknownField (r name)
  | e => e

/-- **Other names for fields**, wherever a statement has one: in columns, in aggregates, in the columns
of a nested statement, and in the descriptions that keys bring. -/
def Relabeling.ofFields : Relabeling where
  field := r
  entity := EntityKey.renameFields r
  metadata := EntityMetadata.renameFields r

end Rename

variable {r : String → String}

theorem BuildError.renameField_eq {e : BuildError} (h : ∀ field, e ≠ .unknownField field) :
    e.renameField r = e := by
  cases e with
  | unknownField name => exact absurd rfl (h name)
  | _ => rfl

theorem EntityMetadata.isUsable_renameFields (d : EntityMetadata) :
    (d.renameFields r).isUsable = d.isUsable := by
  simp only [isUsable, renameFields, List.isEmpty_map]

section Injective

variable (hr : Function.Injective r)

include hr

/-- **A field is found under its other name**, and no other field is. -/
theorem EntityMetadata.column?_renameFields (d : EntityMetadata) (field : String) :
    (d.renameFields r).column? (r field) = d.column? field := by
  unfold column? renameFields
  induction d.fields with
  | nil => rfl
  | cons e rest ih =>
    have same : (r field == r e.1) = (field == e.1) := by
      rw [Bool.eq_iff_iff, beq_iff_eq, beq_iff_eq]
      exact hr.eq_iff
    rw [List.map_cons, List.lookup_cons, List.lookup_cons, ih, same]

theorem EntityType.renameFields_injective : Function.Injective (EntityType.renameFields r) := by
  have pairs : Function.Injective fun e : String × String => (r e.1, e.2) := by
    rintro ⟨a, c⟩ ⟨b, d⟩ h
    obtain ⟨hnames, hcolumns⟩ := Prod.mk.inj h
    exact Prod.ext (hr hnames) hcolumns
  rintro ⟨path, name, table, fields⟩ ⟨path', name', table', fields'⟩ h
  simp only [renameFields, EntityMetadata.renameFields, EntityType.mk.injEq,
    EntityMetadata.mk.injEq] at h
  obtain ⟨rfl, rfl, rfl, hfields⟩ := h
  rw [List.map_injective_iff.2 pairs hfields]

/-- **Looking an entity up does not tell names apart.** -/
theorem Registry.resolve_renameFields (g : Registry) (key : EntityKey) :
    (g.renameFields r).resolve (key.renameFields r)
      = ((g.resolve key).1.map (EntityMetadata.renameFields r), (g.resolve key).2.renameFields r) := by
  cases key with
  | named name =>
    have looked : (g.renameFields r).get? name = (g.get? name).map (EntityMetadata.renameFields r) :=
      KeyMap.get?_mapValues _ g.named name
    rw [EntityKey.renameFields, resolve_named, resolve_named, looked]
    cases g.get? name <;> rfl
  | typed t =>
    have taken : t.renameFields r ∈ (g.renameFields r).typed ↔ t ∈ g.typed :=
      List.mem_map_of_injective (EntityType.renameFields_injective hr)
    have usable : (t.renameFields r).description.isUsable = t.description.isUsable :=
      t.description.isUsable_renameFields
    simp only [EntityKey.renameFields, resolve, taken, usable]
    split
    · rfl
    · split <;> rfl

end Injective

/-! ## 2. Builds over the renamed store -/

/-- **The second computation does under the other names what the first one does**: it has the result
or the error of the first, but for the name in it, and leaves the renamed store. -/
def underNames (r : String → String) : Likeness BuildM BuildM where
  Holds f b c := ∀ st : Store, c.run.run (st.renameFields r)
    = (((b.run.run st).1.mapError (BuildError.renameField r)).map f, (b.run.run st).2.renameFields r)
  ofPure _ _ _ := rfl
  ofThrow {α β} f e he st := by
    have failed : ((throw e : BuildM α).run.run st) = (.error e, st) := rfl
    rw [failed, Except.mapError, BuildError.renameField_eq he]
    rfl
  ofBind := by
    intro α β γ δ f g x y k k' hx hk st
    rw [run_bind, run_bind, hx st]
    rcases x.run.run st with ⟨e | a, st'⟩
    · rfl
    · exact hk a st'

theorem setRegistry_renameFields (st : Store) (n : Nat) (g : Registry) :
    (st.renameFields r).setRegistry n (g.renameFields r) = (st.setRegistry n g).renameFields r := by
  have registries : Store.update (st.renameFields r).registries n (g.renameFields r)
      = fun k => (Store.update st.registries n g k).renameFields r := by
    funext k
    by_cases hk : k = n
    · rw [hk, Store.update_self, Store.update_self]
    · rw [Store.update_of_ne _ _ hk, Store.update_of_ne _ _ hk]
      rfl
  rw [Store.setRegistry, registries]
  rfl

theorem resolve_underNames (hr : Function.Injective r) (n : Nat) (key : EntityKey) :
    (underNames r).Holds (EntityMetadata.renameFields r) (resolve n key)
      (resolve n (key.renameFields r)) := by
  intro st
  have looked : ((st.renameFields r).registries n).resolve (key.renameFields r)
      = (((st.registries n).resolve key).1.map (EntityMetadata.renameFields r),
          ((st.registries n).resolve key).2.renameFields r) :=
    Registry.resolve_renameFields hr (st.registries n) key
  rw [run_resolve, run_resolve, Store.answer, Store.answer, looked, setRegistry_renameFields]
  cases key with
  | named name =>
    rw [Registry.resolve_named]
    cases (st.registries n).get? name <;> rfl
  | typed t =>
    rw [Registry.resolve_typed_fst]
    split <;> rfl

/-- Cells hold columns, so they are filled and read alike. -/
theorem inCells_underNames (n : Nat) (b c : BuildM Query) (h : (underNames r).Holds id b c) :
    (underNames r).Holds id (Keeping.inCells n b) (Keeping.inCells n c) := by
  intro st
  have cells : (st.renameFields r).cells n = st.cells n := rfl
  rw [run_inCells, run_inCells, cells]
  cases st.cells n with
  | some q => rfl
  | none =>
    have begun : (st.renameFields r).note n = (st.note n).renameFields r := rfl
    rw [begun, h (st.note n)]
    rcases b.run.run (st.note n) with ⟨e | q, st'⟩ <;> rfl

/-- Other names keep what a relabeling has to keep, if different fields have different ones. -/
theorem keeps_ofFields (hr : Function.Injective r) : (underNames r).Keeps (.ofFields r) where
  injective := hr
  column := EntityMetadata.column?_renameFields hr
  unknown _ _ := rfl
  tableName _ := rfl
  sourceAlias _ := rfl
  shownAlias _ := rfl

/-! ## 3. Statements under other names -/

/-- **Field names stay inside.** -/
theorem build_renameFields (hr : Function.Injective r) (nested : List Selector) (s : Selector)
    (st : Store) :
    let run := (s.build (.ofList .inCells resolve nested)).run.run st
    let renamed := ((s.relabel (.ofFields r)).build
      (.ofList .inCells resolve (nested.map (Selector.relabel (.ofFields r))))).run.run
        (st.renameFields r)
    renamed.1 = run.1.mapError (BuildError.renameField r) ∧ renamed.2 = run.2.renameFields r := by
  intro run renamed
  have built : renamed = ((run.1.mapError (BuildError.renameField r)).map id, run.2.renameFields r) :=
    Likeness.build (keeps_ofFields hr) inCells_underNames (resolve_underNames hr) nested s st
  have same : (run.1.mapError (BuildError.renameField r)).map id
      = run.1.mapError (BuildError.renameField r) := by
    cases run.1 <;> rfl
  rw [built, same]
  exact ⟨rfl, rfl⟩

/-- Every name with an underscore in front. -/
def underscored (name : String) : String := "_" ++ name

theorem underscored_injective : Function.Injective underscored := fun a b h => by
  simpa [underscored] using h

theorem build_renameFields_underscored :
    Function.Injective underscored ∧
      (∃ q st', (usersPage.build (.ofList .inCells resolve [namesakes])).run.run usersStore
          = (.ok q, st') ∧
        (((usersPage.relabel (.ofFields underscored)).build (.ofList .inCells resolve
            [namesakes.relabel (.ofFields underscored)])).run.run
              (usersStore.renameFields underscored)).1 = .ok q) ∧
      (((hauntedPage.relabel (.ofFields underscored)).build (.ofList .inCells resolve
          [ghosts.relabel (.ofFields underscored)])).run.run
            (usersStore.renameFields underscored)).1 = .error (.unknownField "_Ghost") := by
  obtain ⟨q, st', built⟩ : ∃ q st',
      (usersPage.build (.ofList .inCells resolve [namesakes])).run.run usersStore = (.ok q, st') :=
    ⟨_, _, rfl⟩
  have failed : ((hauntedPage.build (.ofList .inCells resolve [ghosts])).run.run usersStore).1
      = .error (.unknownField "Ghost") := rfl
  have page := (build_renameFields underscored_injective [namesakes] usersPage usersStore).1
  have haunted := (build_renameFields underscored_injective [ghosts] hauntedPage usersStore).1
  rw [built] at page
  rw [failed] at haunted
  exact ⟨underscored_injective, ⟨q, st', built, page⟩, haunted⟩

end SqlSelect
