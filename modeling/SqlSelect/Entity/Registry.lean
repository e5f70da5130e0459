import SqlSelect.Entity.Metadata
import SqlSelect.KeyMap
/-!
# Finding the description of an entity

A statement names its entity by a key. A *named* key is looked up among the descriptions that were
registered under a name beforehand. A *typed* key brings its own description, which is taken up
into the registry the first time it is asked for. The two kinds never meet: an entity type and a
name that read alike have descriptions of their own, and so have two types of one name.
-/

namespace SqlSelect

/-! ## 1. Keys -/

/-- An entity type: what identifies it, the name shown in errors, and its description. -/
structure EntityType where
  path : String
  name : String
  description : EntityMetadata
  deriving DecidableEq, Inhabited, Repr

/-- The part of a path behind its last double colon. -/
def lastSegment (path : String) : String := (path.splitOn "::").getLast?.getD path

/-- The entity type of a path, named after the last segment of the path in small words. -/
def EntityType.ofPath (path : String) (description : EntityMetadata) : EntityType :=
  { path, name := Text.snakeCase (lastSegment path), description }

/-- How a statement refers to an entity. -/
inductive EntityKey
  | typed (type : EntityType)
  | named (name : String)
  deriving DecidableEq, Inhabited, Repr

namespace EntityKey

/-- The name of the entity. -/
def name : EntityKey → String
  | typed type => type.name
  | named name => name

/-- The key brings its own description. -/
def isTyped : EntityKey → Bool
  | typed _ => true
  | named _ => false

end EntityKey

/-! ## 2. The registry -/

/-- What is known about entities. -/
structure Registry where
  /-- The registered descriptions. -/
  named : KeyMap EntityMetadata := .empty
  /-- The entity types taken up so far, the latest first. -/
  typed : List EntityType := []
  /-- Every time a description was asked of a type, usable or not, the latest first. -/
  described : List EntityType := []
  deriving DecidableEq, Inhabited, Repr

namespace Registry

/-- The registry that knows nothing. -/
def empty : Registry := {}

/-- Registers a description under a name, in the place of an earlier one. -/
def register (r : Registry) (name : String) (m : EntityMetadata) : Except BuildError Registry :=
  if m.isUsable then .ok { r with named := r.named.insert name m }
  else .error (.unsupportedEntityKind name)

/-- The description registered under a name. -/
def get? (r : Registry) (name : String) : Option EntityMetadata := r.named.get? name

/-- The registered names in ascending order. -/
def names (r : Registry) : List String := r.named.keys

/-- How many entities are known, named and typed. -/
def size (r : Registry) : Nat := r.named.size + r.typed.length

/-- No entity is known. -/
def isEmpty (r : Registry) : Bool := r.size = 0

/-- The description that a key stands for, and the registry afterwards. -/
def resolve (r : Registry) : EntityKey → Except BuildError EntityMetadata × Registry
  | .named name =>
    match r.get? name with
    | some m => (.ok m, r)
    | none => (.error (.unresolvableEntity name), r)
  | .typed type =>
    if type ∈ r.typed then (.ok type.description, r)
    else
      let asked := { r with described := type :: r.described }
      if type.description.isUsable then
        (.ok type.description, { asked with typed := type :: r.typed })
      else (.error (.unsupportedEntityKind type.name), asked)

/-! ## 3. What resolving a key does -/

theorem resolve_named (r : Registry) (name : String) :
    r.resolve (.named name) = ((r.get? name).elim (.error (.unresolvableEntity name)) .ok, r) := by
  simp only [resolve]
  cases r.get? name <;> rfl

/-- The answer for a type does not depend on whether it was taken up before, if it is usable. -/
theorem resolve_typed_fst (r : Registry) (type : EntityType) :
    (r.resolve (.typed type)).1
      = if type ∈ r.typed ∨ type.description.isUsable then .ok type.description
        else .error (.unsupportedEntityKind type.name) := by
  simp only [resolve]
  by_cases mem : type ∈ r.typed
  · simp only [mem, if_true, true_or]
  · by_cases usable : type.description.isUsable <;> simp [mem, usable]

/-- Resolving a key changes no registered description. -/
theorem named_resolve (r : Registry) (key : EntityKey) : (r.resolve key).2.named = r.named := by
  cases key with
  | named name => rw [resolve_named]
  | typed type =>
    simp only [resolve]
    split
    · rfl
    · split <;> rfl

/-- Resolving a key takes up the type of the key, if it is usable, and no other. -/
theorem mem_typed_resolve {r : Registry} {key : EntityKey} {type : EntityType} :
    type ∈ (r.resolve key).2.typed
      ↔ type ∈ r.typed ∨ key = .typed type ∧ type.description.isUsable := by
  cases key with
  | named name => simp [resolve_named]
  | typed other =>
    simp only [resolve]
    by_cases mem : other ∈ r.typed
    · simp only [mem, if_true, EntityKey.typed.injEq]
      refine ⟨.inl, ?_⟩
      rintro (h | ⟨rfl, -⟩)
      · exact h
      · exact mem
    · by_cases usable : other.description.isUsable
      · simp only [mem, usable, if_true, if_false, List.mem_cons, EntityKey.typed.injEq]
        constructor
        · rintro (rfl | h)
          · exact .inr ⟨rfl, usable⟩
          · exact .inl h
        · rintro (h | ⟨rfl, -⟩)
          · exact .inr h
          · exact .inl rfl
      · simp only [mem, usable, if_false, EntityKey.typed.injEq]
        refine ⟨.inl, ?_⟩
        rintro (h | ⟨rfl, h⟩)
        · exact h
        · exact absurd h usable

/-- **Resolving a key changes no later answer**, for this key or for another. -/
theorem resolve_resolve_fst (r : Registry) (key other : EntityKey) :
    ((r.resolve key).2.resolve other).1 = (r.resolve other).1 := by
  cases other with
  | named name => simp only [resolve_named, get?, named_resolve]
  | typed type =>
    have same : (type ∈ (r.resolve key).2.typed ∨ type.description.isUsable = true)
        ↔ (type ∈ r.typed ∨ type.description.isUsable = true) := by
      rw [mem_typed_resolve]
      constructor
      · rintro ((h | ⟨-, h⟩) | h)
        · exact .inl h
        · exact .inr h
        · exact .inr h
      · rintro (h | h)
        · exact .inl (.inl h)
        · exact .inr h
    simp only [resolve_typed_fst, same]

end Registry

end SqlSelect
