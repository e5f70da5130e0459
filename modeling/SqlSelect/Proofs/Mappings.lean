import Mathlib.Data.Finset.Card
import Mathlib.Data.Finset.Dedup
import SqlSelect.Entity.Metadata
import SqlSelect.KeyMap
/-!
# Fields mapped one after the other

A description is put together by mapping fields, one at a time or many at once. To its readers it is
a map that remembers the order in which its fields came: what is found under a field is what was
mapped last, and a field stands where it was mapped first.

* `EntityMetadata.Made` -- the descriptions that can be put together; none has a field twice;
* `EntityMetadata.mapped` -- a table with mappings, read off their list without a loop;
* `EntityMetadata.Step`, `built` -- the two ways to map fields, and a run of them;
* `EntityMetadata.Keeps` -- what a step leaves alone: the column and the place of a field that it does
  not mention;
* `EntityMetadata.insertion_ordered` -- so it is after every run of steps, whatever rule names the
  columns.
-/

namespace SqlSelect

/-! ## 1. Lists without repetitions -/

theorem eraseDups_of_nodup {l : List String} (h : l.Nodup) : l.eraseDups = l := by
  induction l with
  | nil => rfl
  | cons a l ih =>
    obtain ⟨fresh, rest⟩ := List.nodup_cons.1 h
    have others : l.filter (fun b => !b == a) = l :=
      List.filter_eq_self.2 fun b hb => by
        have : b ≠ a := fun same => fresh (same ▸ hb)
        simpa using this
    rw [List.eraseDups_cons, others, ih rest]

theorem eraseDups_append_singleton (l : List String) (a : String) :
    (l ++ [a]).eraseDups = if a ∈ l.eraseDups then l.eraseDups else l.eraseDups ++ [a] := by
  rw [List.eraseDups_append]
  by_cases mem : a ∈ l
  · rw [if_pos (List.mem_eraseDups.2 mem)]
    simp [List.removeAll, mem]
  · rw [if_neg fun h => mem (List.mem_eraseDups.1 h)]
    simp [List.removeAll, mem, List.eraseDups_cons]

/-- Entries with distinct keys are their keys with what is found under them. -/
theorem KeyMap.eq_map_keys {entries : List (String × String)} (distinct : (entries.map (·.1)).Nodup)
    (value : String → String)
    (h : ∀ key ∈ entries.map (·.1), entries.lookup key = some (value key)) :
    entries = (entries.map (·.1)).map fun key => (key, value key) := by
  rw [List.map_map]
  refine (List.map_id entries).symm.trans (List.map_congr_left fun e he => ?_)
  have found : entries.lookup e.1 = some e.2 := (lookup_eq_some_iff_of_nodup distinct).2 he
  have same : value e.1 = e.2 := Option.some.inj ((h e.1 (List.mem_map_of_mem he)).symm.trans found)
  exact Prod.ext rfl same.symm

namespace EntityMetadata

/-! ## 2. One mapping -/

/-- The descriptions that can be put together: a table, and fields mapped one after the other. -/
inductive Made : EntityMetadata → Prop
  | new (tableName : String) : Made { tableName }
  | withField {m : EntityMetadata} (h : Made m) (field column : String) :
    Made (m.withField field column)

/-- Mapping a field adds it to the fields that are mapped, unless it is one of them. -/
theorem map_fst_mapField (field column : String) (fields : List (String × String)) :
    (mapField field column fields).map (·.1)
      = if field ∈ fields.map (·.1) then fields.map (·.1) else fields.map (·.1) ++ [field] := by
  induction fields with
  | nil => rfl
  | cons head rest ih =>
    obtain ⟨f, c⟩ := head
    simp only [mapField]
    by_cases same : f = field
    · simp [same]
    · rw [if_neg same, List.map_cons, ih]
      by_cases mem : field ∈ rest.map (·.1)
      · simp [mem]
      · simp [mem, Ne.symm same]

/-- **No field is mapped twice.** -/
theorem Made.nodup_fields {m : EntityMetadata} (h : m.Made) : (m.fields.map (·.1)).Nodup := by
  induction h with
  | new tableName => exact List.nodup_nil
  | withField h field column ih =>
    simp only [EntityMetadata.withField, map_fst_mapField]
    split
    · exact ih
    · next fresh =>
      exact ih.append (List.nodup_singleton field) (List.disjoint_singleton.2 fresh)

theorem lookup_mapField (field column other : String) (fields : List (String × String)) :
    (mapField field column fields).lookup other
      = if other = field then some column else fields.lookup other := by
  induction fields with
  | nil =>
    by_cases e : other = field
    · simp [mapField, e]
    · simp [mapField, KeyMap.lookup_cons_of_ne e, e]
  | cons head rest ih =>
    obtain ⟨f, c⟩ := head
    simp only [mapField]
    by_cases same : f = field
    · by_cases e : other = field
      · simp [same, e]
      · rw [if_pos same, if_neg e, same, KeyMap.lookup_cons_of_ne e, KeyMap.lookup_cons_of_ne e]
    · rw [if_neg same]
      by_cases e : other = f
      · rw [if_neg (e ▸ same), e, List.lookup_cons_self, List.lookup_cons_self]
      · rw [KeyMap.lookup_cons_of_ne e, KeyMap.lookup_cons_of_ne e, ih]

/-- A mapping leaves the other fields where they are. -/
theorem getElem?_mapField {field other : String} (h : other ≠ field) (column c : String)
    (fields : List (String × String)) (i : Nat) :
    (mapField field column fields)[i]? = some (other, c) ↔ fields[i]? = some (other, c) := by
  induction fields generalizing i with
  | nil =>
    cases i with
    | zero => simp [mapField, Ne.symm h]
    | succ i => simp [mapField]
  | cons head rest ih =>
    obtain ⟨f, c'⟩ := head
    simp only [mapField]
    by_cases same : f = field
    · rw [if_pos same]
      cases i with
      | zero => simp [same, Ne.symm h]
      | succ i => rfl
    · rw [if_neg same]
      cases i with
      | zero => rfl
      | succ i => exact ih i

/-- Mapping a field to the column that it has changes nothing. -/
theorem mapField_of_lookup {field column : String} {fields : List (String × String)}
    (h : fields.lookup field = some column) : mapField field column fields = fields := by
  induction fields with
  | nil => cases h
  | cons head rest ih =>
    obtain ⟨f, c⟩ := head
    simp only [mapField]
    by_cases same : f = field
    · rw [same, List.lookup_cons_self] at h
      rw [if_pos same, Option.some.inj h]
    · rw [KeyMap.lookup_cons_of_ne (Ne.symm same)] at h
      rw [if_neg same, ih h]

/-! ## 3. A list of mappings -/

/-- The table with fields mapped to columns one after the other. -/
def mapped (tableName : String) (mappings : List (String × String)) : EntityMetadata :=
  mappings.foldl (fun m (field, column) => m.withField field column) { tableName }

theorem lookup_map_of_mem (columnOf : String → String) {fields : List String} {field : String}
    (h : field ∈ fields) :
    (fields.map fun f => (f, columnOf f)).lookup field = some (columnOf field) := by
  induction fields with
  | nil => cases h
  | cons f rest ih =>
    rw [List.map_cons]
    by_cases same : field = f
    · rw [same, List.lookup_cons_self]
    · rw [KeyMap.lookup_cons_of_ne same]
      exact ih ((List.mem_cons.1 h).resolve_left same)

section

variable (tableName : String) (mappings : List (String × String))

theorem mapped_append_singleton (e : String × String) :
    mapped tableName (mappings ++ [e]) = (mapped tableName mappings).withField e.1 e.2 := by
  simp only [mapped, List.foldl_append, List.foldl_cons, List.foldl_nil]

theorem tableName_mapped : (mapped tableName mappings).tableName = tableName := by
  induction mappings using List.reverseRecOn with
  | nil => rfl
  | append_singleton mappings e ih => rw [mapped_append_singleton, withField, ih]

theorem made_mapped : (mapped tableName mappings).Made := by
  induction mappings using List.reverseRecOn with
  | nil => exact .new tableName
  | append_singleton mappings e ih =>
    rw [mapped_append_singleton]
    exact ih.withField e.1 e.2

/-- A field stands where it was mapped first. -/
theorem map_fst_mapped :
    (mapped tableName mappings).fields.map (·.1) = (mappings.map (·.1)).eraseDups := by
  induction mappings using List.reverseRecOn with
  | nil => rfl
  | append_singleton mappings e ih =>
    rw [mapped_append_singleton, withField, map_fst_mapField, ih, List.map_append, List.map_singleton,
      eraseDups_append_singleton]

/-- A field has the column that it was mapped to last, else the one that it had. -/
theorem column?_foldl (m : EntityMetadata) (field : String) :
    (mappings.foldl (fun m (field, column) => m.withField field column) m).column? field
      = (mappings.reverse.lookup field).or (m.column? field) := by
  induction mappings generalizing m with
  | nil => rfl
  | cons e rest ih =>
    refine (ih (m.withField e.1 e.2)).trans ?_
    have one : (m.withField e.1 e.2).column? field
        = ([e].lookup field).or (m.column? field) := by
      refine (lookup_mapField e.1 e.2 field m.fields).trans ?_
      by_cases same : field = e.1
      · rw [if_pos same, same, List.lookup_cons_self, Option.some_or]
      · rw [if_neg same, KeyMap.lookup_cons_of_ne same]
        rfl
    rw [one, List.reverse_cons, List.lookup_append, Option.or_assoc]

/-- A field has the column that it was mapped to last. -/
theorem lookup_mapped (field : String) :
    (mapped tableName mappings).fields.lookup field = mappings.reverse.lookup field :=
  (column?_foldl mappings { tableName } field).trans (Option.or_none)

end

/-! ## 4. Steps -/

/-- One step of a description: a field with its column, or fields whose columns a rule names. -/
inductive Step
  | field (logical column : String)
  | fields (logical : List String)
  deriving DecidableEq, Repr

variable (columnOf : String → String)

/-- The mappings that a step makes, in their order. -/
def Step.mappings : Step → List (String × String)
  | .field logical column => [(logical, column)]
  | .fields logical => logical.map fun field => (field, columnOf field)

/-- The fields that a step mentions. -/
def Step.names : Step → List String
  | .field logical _ => [logical]
  | .fields logical => logical

/-- The description after one step more. -/
def step (m : EntityMetadata) : Step → EntityMetadata
  | .field logical column => m.withField logical column
  | .fields logical => m.withFieldsBy columnOf logical

/-- The description that steps make of a new one. -/
def built (tableName : String) (steps : List Step) : EntityMetadata :=
  steps.foldl (step columnOf) { tableName }

theorem Step.map_fst_mappings (s : Step) : (s.mappings columnOf).map (·.1) = s.names := by
  cases s with
  | field logical column => rfl
  | fields logical =>
    rw [mappings, List.map_map]
    exact List.map_id logical

/-- All mappings that a step makes for a field agree. -/
theorem Step.lookup_mappings {s : Step} {e : String × String} (h : e ∈ s.mappings columnOf) :
    (s.mappings columnOf).reverse.lookup e.1 = some e.2 := by
  cases s with
  | field logical column =>
    obtain rfl := List.mem_singleton.1 h
    exact List.lookup_cons_self
  | fields logical =>
    obtain ⟨field, mem, rfl⟩ := List.mem_map.1 h
    rw [mappings, ← List.map_reverse]
    exact lookup_map_of_mem columnOf (List.mem_reverse.2 mem)

/-- A step is its mappings, one after the other. -/
theorem step_eq_foldl (m : EntityMetadata) (s : Step) :
    m.step columnOf s
      = (s.mappings columnOf).foldl (fun m (field, column) => m.withField field column) m := by
  cases s with
  | field logical column => rfl
  | fields logical => rw [step, withFieldsBy, Step.mappings, List.foldl_map]

theorem built_eq_mapped (tableName : String) (steps : List Step) :
    built columnOf tableName steps = mapped tableName (steps.flatMap (Step.mappings columnOf)) := by
  rw [built, mapped, List.foldl_flatMap]
  exact congrArg (fun f => steps.foldl f { tableName })
    (funext₂ fun m s => step_eq_foldl columnOf m s)

/-! ## 5. What a step leaves alone -/

/-- The field has the column and the place that it had. -/
structure Keeps (field : String) (m m' : EntityMetadata) : Prop where
  column : m'.column? field = m.column? field
  place : ∀ (i : Nat) (column : String),
    m'.fields[i]? = some (field, column) ↔ m.fields[i]? = some (field, column)

theorem Keeps.trans {field : String} {m m' m'' : EntityMetadata} (h : Keeps field m m')
    (h' : Keeps field m' m'') : Keeps field m m'' where
  column := h'.column.trans h.column
  place i column := (h'.place i column).trans (h.place i column)

theorem keeps_withField {field other : String} (h : other ≠ field) (m : EntityMetadata)
    (column : String) : Keeps other m (m.withField field column) where
  column := (lookup_mapField field column other m.fields).trans (if_neg h)
  place i c := getElem?_mapField h column c m.fields i

theorem keeps_foldl {field : String} {mappings : List (String × String)}
    (h : field ∉ mappings.map (·.1)) (m : EntityMetadata) :
    Keeps field m (mappings.foldl (fun m (field, column) => m.withField field column) m) := by
  induction mappings generalizing m with
  | nil => exact ⟨rfl, fun _ _ => Iff.rfl⟩
  | cons e rest ih =>
    obtain ⟨other, others⟩ := not_or.1 (mt List.mem_cons.2 h)
    exact (keeps_withField other m e.2).trans (ih others _)

/-- **A step leaves the fields alone that it does not mention.** -/
theorem keeps_step (m : EntityMetadata) {s : Step} {field : String} (h : field ∉ s.names) :
    Keeps field m (m.step columnOf s) := by
  rw [step_eq_foldl]
  exact keeps_foldl (s.map_fst_mappings columnOf ▸ h) m

/-- Mappings to the columns that the fields have change nothing. -/
theorem foldl_of_found {m : EntityMetadata} {mappings : List (String × String)}
    (h : ∀ e ∈ mappings, m.column? e.1 = some e.2) :
    mappings.foldl (fun m (field, column) => m.withField field column) m = m := by
  induction mappings with
  | nil => rfl
  | cons e rest ih =>
    have same : m.withField e.1 e.2 = m := by
      rw [withField, mapField_of_lookup (h e List.mem_cons_self)]
    change rest.foldl _ (m.withField e.1 e.2) = m
    rw [same]
    exact ih fun e' he' => h e' (List.mem_cons_of_mem e he')

/-- **A step taken again at once changes nothing.** -/
theorem step_step (m : EntityMetadata) (s : Step) :
    (m.step columnOf s).step columnOf s = m.step columnOf s := by
  rw [step_eq_foldl columnOf (m.step columnOf s) s]
  refine foldl_of_found fun e he => ?_
  rw [step_eq_foldl, column?_foldl, Step.lookup_mappings columnOf he, Option.some_or]

/-! ## 6. A map that remembers its order -/

/-- The description is the map of the mappings, in the order of first mention. -/
structure Ordered (mappings : List (String × String)) (m : EntityMetadata) : Prop where
  /-- No field stands twice. -/
  distinct : (m.fields.map (·.1)).Nodup
  /-- Fields stand in the order of their first mapping. -/
  order : m.fields.map (·.1) = (mappings.map (·.1)).eraseDups
  /-- A field has the column of its last mapping. -/
  column : ∀ field, m.column? field = mappings.reverse.lookup field
  /-- A column that is required is the one that there is. -/
  required : ∀ field column, m.requireColumn field = .ok column ↔ m.column? field = some column
  /-- A field without a column is the error, and the only one. -/
  missing : ∀ field error, m.requireColumn field = .error error ↔
    error = .unknownField field ∧ m.column? field = none
  /-- Fields are counted once. -/
  counted : m.size = (mappings.map (·.1)).toFinset.card

theorem requireColumn_eq_ok_iff {m : EntityMetadata} {field column : String} :
    m.requireColumn field = .ok column ↔ m.column? field = some column := by
  rw [requireColumn]
  cases m.column? field <;> simp

theorem requireColumn_eq_error_iff {m : EntityMetadata} {field : String} {error : BuildError} :
    m.requireColumn field = .error error ↔
      error = .unknownField field ∧ m.column? field = none := by
  rw [requireColumn]
  cases m.column? field <;> simp [eq_comm]

theorem ordered_mapped (tableName : String) (mappings : List (String × String)) :
    Ordered mappings (mapped tableName mappings) where
  distinct := (made_mapped tableName mappings).nodup_fields
  order := map_fst_mapped tableName mappings
  column := lookup_mapped tableName mappings
  required _ _ := requireColumn_eq_ok_iff
  missing _ _ := requireColumn_eq_error_iff
  counted := by
    have distinct := (made_mapped tableName mappings).nodup_fields
    have same : ((mapped tableName mappings).fields.map (·.1)).toFinset
        = (mappings.map (·.1)).toFinset := by
      ext field
      rw [map_fst_mapped, List.mem_toFinset, List.mem_toFinset, List.mem_eraseDups]
    rw [← same, List.toFinset_card_of_nodup distinct, List.length_map, size]

/-- **A description is a map that remembers the order of its fields**, after every run of steps and
whatever rule names the columns. No further step touches a field that it does not mention, two lists of
fields can be given as one, and a step taken again at once changes nothing. -/
theorem insertion_ordered (tableName : String) (steps : List Step) :
    Ordered (steps.flatMap (Step.mappings columnOf)) (built columnOf tableName steps) ∧
    (∀ s field, field ∉ s.names → Keeps field (built columnOf tableName steps)
      (built columnOf tableName (steps ++ [s]))) ∧
    (∀ xs ys, built columnOf tableName (steps ++ [.fields xs, .fields ys])
      = built columnOf tableName (steps ++ [.fields (xs ++ ys)])) ∧
    ∀ s, built columnOf tableName (steps ++ [s, s]) = built columnOf tableName (steps ++ [s]) := by
  refine ⟨?_, fun s field other => ?_, fun xs ys => ?_, fun s => ?_⟩
  · rw [built_eq_mapped]
    exact ordered_mapped tableName _
  · rw [built, built, List.foldl_append]
    exact keeps_step columnOf _ other
  · simp only [built, List.foldl_append, List.foldl_cons, List.foldl_nil, step, withFieldsBy]
  · rw [built, built, List.foldl_append, List.foldl_append]
    exact step_step columnOf _ s

/-- Steps that mention fields twice, in one step and in several. -/
def renamed : List Step :=
  [.fields ["B", "A", "B"], .field "C" "c1", .fields ["A", "D"], .field "B" "x"]

theorem insertion_ordered_renamed :
    (built Text.snakeCase "t" renamed).fields.map (·.1) = ["B", "A", "C", "D"] ∧
    (built Text.snakeCase "t" renamed).column? "B" = some "x" ∧
    (built Text.snakeCase "t" renamed).requireColumn "E" = .error (.unknownField "E") ∧
    (built Text.snakeCase "t" renamed).size = 4 ∧
    (built Text.snakeCase "t" (renamed ++ [.fields ["E", "B"]])).fields[1]? = some ("A", "a") := by
  obtain ⟨map, keeps, -⟩ := insertion_ordered Text.snakeCase "t" renamed
  refine ⟨map.order.trans (by decide +kernel), (map.column "B").trans (by decide +kernel),
    (map.missing "E" _).2 ⟨rfl, (map.column "E").trans (by decide +kernel)⟩,
    map.counted.trans (by decide +kernel), ?_⟩
  exact ((keeps (.fields ["E", "B"]) "A" (by decide)).place 1 "a").2 (by decide +kernel)

end EntityMetadata

end SqlSelect
