import SqlSelect.CommandLine.Run
import SqlSelect.Proofs.Maps
/-!
# Declared entities

What is declared in settings is what can be asked for later. The columns of fields that are declared
without one are named by a rule that is left open here: nothing below depends on how a field name is
turned into a column name.

* `EntitySettings.description` -- what a declaration says, without the loops that put it together;
* `Settings.registerAllBy_of_describes`, `registerAllBy_of_first` -- the two ways that registering ends:
  all declarations can be used, or there is a first one that cannot;
* `Settings.lines` -- the lines about all declared entities;
* `Settings.declared_entities` -- when there is a registry, what it holds, what is listed, and which
  entity is to blame when there is none.
-/

namespace SqlSelect

/-! ## 1. What a declaration says -/

namespace EntitySettings

variable (columnOf : String → String) (e : EntitySettings) (name : String)

/-- The declaration describes an entity: its table has a name that is not blank, and it has a field. -/
def Describes : Prop :=
  Text.isBlankText (e.table.getD name) = false ∧ (e.columns ≠ [] ∨ e.fields.keys ≠ [])

instance : Decidable (e.Describes name) := inferInstanceAs (Decidable (_ ∧ _))

/-- The declared fields: the `columns` as they come first, then those of the `fields` that are not
among them. -/
def fieldNames : List String := e.columns.eraseDups ++ e.fields.keys.filter (· ∉ e.columns)

/-- The column of a declared field: the one that the `fields` give, else the one named by the rule. -/
def column (field : String) : String := (e.fields.get? field).getD (columnOf field)

/-- What the declaration says. -/
def description : EntityMetadata where
  tableName := e.table.getD name
  fields := e.fieldNames.map fun field => (field, e.column columnOf field)

/-- The mappings that the declaration makes, in their order. -/
def mappings : List (String × String) :=
  e.columns.map (fun field => (field, columnOf field)) ++ e.fields.entries

theorem metadataBy_eq_mapped :
    e.metadataBy columnOf name = EntityMetadata.mapped (e.table.getD name) (e.mappings columnOf) := by
  rw [EntityMetadata.mapped, mappings, List.foldl_append, List.foldl_map]
  rfl

theorem map_fst_mappings : (e.mappings columnOf).map (·.1) = e.columns ++ e.fields.keys := by
  rw [mappings, List.map_append, List.map_map]
  exact congrArg (· ++ e.fields.keys) (List.map_id e.columns)

theorem eraseDups_mappings : ((e.mappings columnOf).map (·.1)).eraseDups = e.fieldNames := by
  have others : e.fields.keys.removeAll e.columns = e.fields.keys.filter (· ∉ e.columns) :=
    List.filter_congr fun field _ => by simp
  rw [map_fst_mappings, List.eraseDups_append, others,
    eraseDups_of_nodup (e.fields.nodup_keys.filter _), fieldNames]

/-- The last mapping of a declared field is the one of the `fields`, if there is one. -/
theorem lookup_mappings {field : String} (h : field ∈ e.fieldNames) :
    (e.mappings columnOf).reverse.lookup field = some (e.column columnOf field) := by
  have given : e.fields.entries.reverse.lookup field = e.fields.get? field := by
    rw [← KeyMap.get?_ofList, KeyMap.ofList_entries]
  rw [mappings, List.reverse_append, List.lookup_append, given, ← List.map_reverse, column]
  cases hfield : e.fields.get? field with
  | some c => rfl
  | none =>
    have absent : field ∉ e.fields.keys := fun mem => by
      rw [KeyMap.mem_keys_iff, hfield] at mem
      cases mem
    have listed : field ∈ e.columns := by
      rcases List.mem_append.1 h with mem | mem
      · exact List.mem_eraseDups.1 mem
      · exact absurd (List.mem_filter.1 mem).1 absent
    rw [EntityMetadata.lookup_map_of_mem columnOf (List.mem_reverse.2 listed)]
    rfl

/-- **The loops put together what the declaration says.** -/
theorem metadataBy_eq : e.metadataBy columnOf name = e.description columnOf name := by
  rw [metadataBy_eq_mapped]
  -- fields are mapped once each, so their order and their look-ups decide the list
  have names := EntityMetadata.map_fst_mapped (e.table.getD name) (e.mappings columnOf)
  rw [eraseDups_mappings] at names
  have fields := KeyMap.eq_map_keys
    (EntityMetadata.made_mapped (e.table.getD name) (e.mappings columnOf)).nodup_fields
    (e.column columnOf) fun field hfield => by
      rw [EntityMetadata.lookup_mapped]
      exact lookup_mappings columnOf e (names ▸ hfield)
  rw [names] at fields
  have table := EntityMetadata.tableName_mapped (e.table.getD name) (e.mappings columnOf)
  generalize EntityMetadata.mapped (e.table.getD name) (e.mappings columnOf) = m at *
  cases m
  cases table
  cases fields
  rfl

/-- No field is declared twice. -/
theorem nodup_fieldNames : e.fieldNames.Nodup := by
  have distinct := (EntityMetadata.made_mapped (e.table.getD "") (e.mappings id)).nodup_fields
  rwa [EntityMetadata.map_fst_mapped, eraseDups_mappings] at distinct

theorem fieldNames_eq_nil_iff : e.fieldNames = [] ↔ e.columns = [] ∧ e.fields.keys = [] := by
  have members (field : String) : field ∈ e.fieldNames ↔ field ∈ e.columns ++ e.fields.keys := by
    rw [← eraseDups_mappings id, map_fst_mappings, List.mem_eraseDups]
  rw [← List.append_eq_nil_iff, List.eq_nil_iff_forall_not_mem, List.eq_nil_iff_forall_not_mem]
  exact forall_congr' fun field => not_congr (members field)

theorem isUsable_iff_describes :
    (e.metadataBy columnOf name).isUsable = true ↔ e.Describes name := by
  rw [metadataBy_eq, EntityMetadata.isUsable_iff, EntityMetadata.Complete, Describes, description]
  refine and_congr_right fun _ => ?_
  rw [ne_eq, List.map_eq_nil_iff, fieldNames_eq_nil_iff, not_and_or]

end EntitySettings

/-! ## 2. Registering declarations -/

namespace Settings

variable (columnOf : String → String) {r : Registry}

/-- What all declarations say. -/
def descriptions (s : Settings) : KeyMap EntityMetadata where
  entries := s.entities.entries.map fun (name, e) => (name, e.description columnOf name)
  ascending := List.pairwise_map.2 s.entities.ascending

theorem keys_descriptions (s : Settings) : (s.descriptions columnOf).keys = s.entities.keys := by
  rw [KeyMap.keys, descriptions, List.map_map]
  rfl

theorem get?_descriptions {s : Settings} {name : String} {e : EntitySettings}
    (h : s.entities.get? name = some e) :
    (s.descriptions columnOf).get? name = some (e.description columnOf name) :=
  KeyMap.get?_eq_some_iff.2 (List.mem_map_of_mem (KeyMap.get?_eq_some_iff.1 h))

theorem register_of_describes {name : String} {e : EntitySettings} (h : e.Describes name) :
    r.register name (e.metadataBy columnOf name)
      = .ok { r with named := r.named.insert name (e.description columnOf name) } := by
  rw [Registry.register, if_pos ((e.isUsable_iff_describes columnOf name).2 h), e.metadataBy_eq]

theorem register_of_not_describes {name : String} {e : EntitySettings} (h : ¬ e.Describes name) :
    r.register name (e.metadataBy columnOf name) = .error (.unsupportedEntityKind name) := by
  rw [Registry.register, if_neg (mt (e.isUsable_iff_describes columnOf name).1 h)]

/-- Declarations that can all be used are registered one after the other. -/
theorem registerAllBy_of_describes {entries : List (String × EntitySettings)}
    (h : ∀ p ∈ entries, p.2.Describes p.1) :
    registerAllBy columnOf r entries = .ok { r with
      named := (entries.map fun p => (p.1, p.2.description columnOf p.1)).foldl
        (fun m (name, e) => m.insert name e) r.named } := by
  induction entries generalizing r with
  | nil => rfl
  | cons head rest ih =>
    obtain ⟨name, e⟩ := head
    rw [registerAllBy, register_of_describes columnOf (h (name, e) List.mem_cons_self)]
    exact ih fun p hp => h p (List.mem_cons_of_mem _ hp)

/-- Registering ends at the first declaration that cannot be used. -/
theorem registerAllBy_of_first {before : List (String × EntitySettings)} {name : String}
    {e : EntitySettings} (h : ∀ p ∈ before, p.2.Describes p.1) (bad : ¬ e.Describes name)
    (behind : List (String × EntitySettings)) :
    registerAllBy columnOf r (before ++ (name, e) :: behind)
      = .error (.invalidEntity name (.unsupportedEntityKind name)) := by
  induction before generalizing r with
  | nil => rw [List.nil_append, registerAllBy, register_of_not_describes columnOf bad]
  | cons head rest ih =>
    obtain ⟨n, e'⟩ := head
    rw [List.cons_append, registerAllBy, register_of_describes columnOf (h (n, e') List.mem_cons_self)]
    exact ih fun p hp => h p (List.mem_cons_of_mem _ hp)

/-- The declaration under the name cannot be used, and no smaller name has one that cannot. -/
structure FirstUnusable (s : Settings) (name : String) : Prop where
  unusable : ∃ e, s.entities.get? name = some e ∧ ¬ e.Describes name
  first : ∀ other e, s.entities.get? other = some e → ¬ e.Describes other → name ≤ other

theorem registryBy_of_describes {s : Settings}
    (h : ∀ name e, s.entities.get? name = some e → e.Describes name) :
    s.registryBy? columnOf = .ok { named := s.descriptions columnOf } := by
  have each : ∀ p ∈ s.entities.entries, p.2.Describes p.1 :=
    fun p hp => h p.1 p.2 (KeyMap.get?_eq_some_iff.2 hp)
  rw [registryBy?, registerAllBy_of_describes columnOf each]
  exact congrArg (fun named => Except.ok ({ named } : Registry))
    (KeyMap.ofList_entries (s.descriptions columnOf))

/-- Where some declaration cannot be used, there is a first one, and it is the one to blame. -/
theorem exists_firstUnusable {s : Settings}
    (h : ¬ ∀ name e, s.entities.get? name = some e → e.Describes name) :
    ∃ name, s.FirstUnusable name ∧
      s.registryBy? columnOf = .error (.invalidEntity name (.unsupportedEntityKind name)) := by
  cases found : s.entities.entries.find? (fun p => ¬ p.2.Describes p.1) with
  | none =>
    refine absurd (fun name e he => ?_) h
    have usable := List.find?_eq_none.1 found (name, e) (KeyMap.get?_eq_some_iff.1 he)
    simpa using usable
  | some p =>
    obtain ⟨name, e⟩ := p
    obtain ⟨bad, before, behind, whole, good⟩ := List.find?_eq_some_iff_append.1 found
    have bad : ¬ e.Describes name := by simpa using bad
    have good : ∀ p ∈ before, p.2.Describes p.1 := fun p hp => by simpa using good p hp
    refine ⟨name, ⟨⟨e, ?_, bad⟩, fun other e' he' bad' => ?_⟩, ?_⟩
    · refine KeyMap.get?_eq_some_iff.2 ?_
      rw [whole]
      exact List.mem_append_right _ List.mem_cons_self
    · -- what comes before can be used, and what comes behind has a larger name
      have ascending := s.entities.ascending
      have mem := KeyMap.get?_eq_some_iff.1 he'
      rw [whole] at ascending mem
      rcases List.mem_append.1 mem with mem | mem
      · exact absurd (good _ mem) bad'
      · rcases List.mem_cons.1 mem with same | mem
        · cases same
          exact String.le_refl name
        · have below := (List.pairwise_cons.1 (List.pairwise_append.1 ascending).2.1).1 _ mem
          exact String.not_lt.1 fun above => String.lt_irrefl name (String.lt_trans below above)
    · rw [registryBy?, whole]
      exact registerAllBy_of_first columnOf good bad behind

end Settings

/-! ## 3. The listing -/

/-- The lines about a declared entity: one for its name and table, and one for each field. -/
def EntitySettings.lines (columnOf : String → String) (e : EntitySettings) (name : String) :
    List String :=
  (name ++ " (" ++ e.table.getD name ++ ")") ::
    e.fieldNames.map fun field => "  " ++ field ++ " -> " ++ e.column columnOf field

/-- The lines about all declared entities, in the order of their names. -/
def Settings.lines (columnOf : String → String) (s : Settings) : List String :=
  if s.entities.keys = [] then ["No entities configured."]
  else s.entities.entries.flatMap fun (name, e) => e.lines columnOf name

namespace CommandLine

/-- Lines of text, each ended. -/
def textOf (lines : List String) : String := String.join (lines.map (· ++ "\n"))

theorem textOf_cons (line : String) (lines : List String) :
    textOf (line :: lines) = line ++ "\n" ++ textOf lines := by
  rw [textOf, List.map_cons, String.join_cons, textOf]

theorem textOf_append (lines lines' : List String) :
    textOf (lines ++ lines') = textOf lines ++ textOf lines' := by
  rw [textOf, List.map_append, String.join_append, textOf, textOf]

variable (columnOf : String → String)

theorem fieldTexts_description (e : EntitySettings) (name : String) :
    ((e.description columnOf name).fields.map fun (field, column) =>
        "  " ++ field ++ " -> " ++ column ++ "\n")
      = (e.fieldNames.map fun field => "  " ++ field ++ " -> " ++ e.column columnOf field).map
        (· ++ "\n") := by
  rw [EntitySettings.description, List.map_map, List.map_map]
  rfl

theorem entityText_description (e : EntitySettings) (name : String) :
    entityText name (e.description columnOf name) = textOf (e.lines columnOf name) := by
  have heading : name ++ " (" ++ e.table.getD name ++ ")\n"
      = name ++ " (" ++ e.table.getD name ++ ")" ++ "\n" := by
    rw [show (")\n" : String) = ")" ++ "\n" from rfl, ← String.append_assoc]
  rw [entityText, EntitySettings.lines, textOf_cons, fieldTexts_description, ← heading]
  rfl

theorem join_entityTexts (entries : List (String × EntitySettings)) :
    String.join ((entries.map fun (name, e) => (name, e.description columnOf name)).map
        fun (name, m) => entityText name m)
      = textOf (entries.flatMap fun (name, e) => e.lines columnOf name) := by
  induction entries with
  | nil => rfl
  | cons head rest ih =>
    rw [List.map_cons, List.map_cons, String.join_cons, ih, List.flatMap_cons, textOf_append]
    exact congrArg (· ++ _) (entityText_description columnOf head.2 head.1)

theorem entitiesText_descriptions (s : Settings) :
    entitiesText { named := s.descriptions columnOf } = textOf (s.lines columnOf) := by
  have size : ({ named := s.descriptions columnOf } : Registry).size = s.entities.keys.length := by
    rw [← s.keys_descriptions columnOf]
    exact (List.length_map _).symm
  rw [entitiesText, Registry.isEmpty, size, Settings.lines]
  by_cases none : s.entities.keys = []
  · rw [if_pos none, none]
    rfl
  · rw [if_neg none, if_neg (by simpa using none)]
    exact join_entityTexts columnOf s.entities.entries

end CommandLine

/-! ## 4. Declared entities -/

/-- **What becomes of declared entities**, whatever rule names the columns. There is a registry just
if all declarations can be used; otherwise the smallest name of one that cannot is reported, also where
the dialect is at fault too. The registry holds the declared names in their order and what is declared
for each, no field twice, and the listing consists of the lines about these entities. -/
theorem Settings.declared_entities (columnOf : String → String) (s : Settings) :
    ((∃ r, s.registryBy? columnOf = .ok r) ↔
      ∀ name e, s.entities.get? name = some e → e.Describes name) ∧
    (∀ error, s.registryBy? columnOf = .error error → ∃ name, s.FirstUnusable name ∧
      error = .invalidEntity name (.unsupportedEntityKind name) ∧
      (∀ dialect, ({ s with dialect } : Settings).sessionBy? columnOf = .error error) ∧
      CommandLine.entitiesBy columnOf s = .failure ("Error: " ++ error.message)) ∧
    ∀ r, s.registryBy? columnOf = .ok r →
      r.names = s.entities.keys ∧ r.names.Pairwise (· < ·) ∧
      (∀ name e, s.entities.get? name = some e →
        r.get? name = some (e.description columnOf name) ∧ e.fieldNames.Nodup) ∧
      CommandLine.entitiesBy columnOf s
        = { exit := 0, stdout := CommandLine.textOf (s.lines columnOf) } := by
  by_cases usable : ∀ name e, s.entities.get? name = some e → e.Describes name
  · have registered := registryBy_of_describes columnOf usable
    refine ⟨⟨fun _ => usable, fun _ => ⟨_, registered⟩⟩, fun error herror => ?_, fun r hr => ?_⟩
    · rw [registered] at herror
      cases herror
    · obtain rfl : ({ named := s.descriptions columnOf } : Registry) = r :=
        Except.ok.inj (registered.symm.trans hr)
      refine ⟨s.keys_descriptions columnOf, List.pairwise_map.2 (s.descriptions columnOf).ascending,
        fun name e he => ⟨get?_descriptions columnOf he, e.nodup_fieldNames⟩, ?_⟩
      rw [CommandLine.entitiesBy, registered]
      simp only [CommandLine.entitiesText_descriptions]
  · obtain ⟨name, first, failed⟩ := exists_firstUnusable columnOf usable
    refine ⟨⟨fun ⟨r, hr⟩ => ?_, fun h => absurd h usable⟩, fun error herror => ?_, fun r hr => ?_⟩
    · rw [failed] at hr
      cases hr
    · obtain rfl : SettingsError.invalidEntity name (.unsupportedEntityKind name) = error :=
        Except.error.inj (failed.symm.trans herror)
      refine ⟨name, first, rfl, fun dialect => ?_, ?_⟩
      · have same : ({ s with dialect } : Settings).registryBy? columnOf = s.registryBy? columnOf := rfl
        rw [sessionBy?, same, failed]
        rfl
      · rw [CommandLine.entitiesBy, failed]
    · rw [failed] at hr
      cases hr

/-- Two declared entities: one with a field declared twice and one with a column given in both ways,
and one that is named like its table. -/
def Settings.people : Settings where
  entities := .ofList [
    ("user", { table := some "users", columns := ["Id", "FirstName", "Id"]
               fields := .ofList [("FirstName", "given"), ("Age", "years")] }),
    ("Tag", { columns := ["Label"] })]

/-- The same with two declarations that cannot be used. -/
def Settings.nobody : Settings where
  entities := (people.entities.insert "ghost" { table := some " ", columns := ["Id"] }).insert "void" {}

theorem Settings.declared_entities_people :
    (∃ r, people.registry? = .ok r ∧ r.names = ["Tag", "user"] ∧ CommandLine.entities people
      = { exit := 0, stdout := "Tag (Tag)\n  Label -> label\nuser (users)\n  Id -> id\n" ++
          "  FirstName -> given\n  Age -> years\n" }) ∧
    ∀ dialect, ({ nobody with dialect } : Settings).session?
      = .error (.invalidEntity "ghost" (.unsupportedEntityKind "ghost")) := by
  constructor
  · have each : ∀ p ∈ people.entities.entries, p.2.Describes p.1 := by decide +kernel
    have usable := fun name e he => each (name, e) (KeyMap.get?_eq_some_iff.1 he)
    obtain ⟨r, hr⟩ := (declared_entities Text.snakeCase people).1.2 usable
    obtain ⟨names, -, -, listed⟩ := (declared_entities Text.snakeCase people).2.2 r hr
    refine ⟨r, hr, names.trans (by decide +kernel), listed.trans ?_⟩
    decide +kernel
  · have failed : nobody.registryBy? Text.snakeCase
        = .error (.invalidEntity "ghost" (.unsupportedEntityKind "ghost")) := by rfl
    obtain ⟨-, -, -, unheeded, -⟩ := (declared_entities Text.snakeCase nobody).2.1 _ failed
    exact unheeded

end SqlSelect
