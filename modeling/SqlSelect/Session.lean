import SqlSelect.Build
/-!
# Sessions

A session holds everything that statements share: registries, nested statements, and what these
have been built to. It is used step by step. A step that fails answers with its error, and what it
changed before it failed stays changed.
-/

namespace SqlSelect

/-- Registries, nested statements and their cells. -/
structure Session where
  store : Store
  /-- The nested statements in the order of their numbers. -/
  nested : List Selector
  /-- How many registries are in use. -/
  opened : Nat

/-- What can be done in a session. -/
inductive Step
  /-- Takes a fresh registry into use. -/
  | openRegistry
  /-- Registers a description under a name. -/
  | register (registry : Nat) (name : String) (metadata : EntityMetadata)
  /-- Asks for the description that a key stands for. -/
  | resolve (registry : Nat) (key : EntityKey)
  /-- Makes a statement a nested one, with a cell of its own. -/
  | nest (selector : Selector) (columns : List String) (aliasName : Option String)
  /-- Builds a statement. -/
  | build (selector : Selector)
  /-- Builds a nested statement, or looks into its cell. -/
  | compiled (subquery : Subquery)
  /-- Asks for the description of the entity of a nested statement. -/
  | metadata (subquery : Subquery)
  deriving Repr

/-- What a step answers. -/
inductive Answer
  | done
  | registry (number : Nat)
  | subquery (subquery : Subquery)
  | metadata (metadata : EntityMetadata)
  | query (query : Query)
  | failed (error : BuildError)
  deriving Repr

namespace Session

/-- The session before the first step. -/
def start : Session := { store := .ofRegistry .empty, nested := [], opened := 0 }

/-- The nested statements as another statement sees them. -/
def inner (s : Session) : Inner BuildM := .ofList .inCells SqlSelect.resolve s.nested

/-- Runs a build, and turns its outcome into an answer. -/
def run {α : Type} (s : Session) (build : BuildM α) (answer : α → Answer) : Answer × Session :=
  let (result, store) := build.run.run s.store
  (match result with
    | .ok a => answer a
    | .error e => .failed e, { s with store })

/-- One step. -/
def step (s : Session) : Step → Answer × Session
  | .openRegistry => (.registry s.opened, { s with opened := s.opened + 1 })
  | .register registry name metadata =>
    match (s.store.registries registry).register name metadata with
    | .ok r => (.done, { s with store := s.store.setRegistry registry r })
    | .error e => (.failed e, s)
  | .resolve registry key => s.run (SqlSelect.resolve registry key) .metadata
  | .nest selector columns aliasName =>
    (.subquery { node := s.nested.length, columns, aliasName := nonEmpty aliasName },
      { s with nested := s.nested ++ [selector] })
  | .build selector => s.run (selector.build s.inner) .query
  | .compiled subquery => s.run (s.inner.query subquery.node) .query
  | .metadata subquery => s.run (s.inner.metadata subquery.node) .metadata

/-- Several steps, with their answers. -/
def steps (s : Session) : List Step → List Answer × Session
  | [] => ([], s)
  | st :: rest =>
    let (answer, s) := s.step st
    let (answers, s) := s.steps rest
    (answer :: answers, s)

/-- A registry of the session. -/
def registry (s : Session) (number : Nat) : Registry := s.store.registries number

/-- A nested statement has been built. -/
def isCompiled (s : Session) (subquery : Subquery) : Bool :=
  (s.store.cells subquery.node).isSome

/-- How often the description of a type was asked for, over all registries. -/
def describedCount (s : Session) (type : EntityType) : Nat :=
  ((List.range s.opened).flatMap fun n => (s.registry n).described).count type

end Session

end SqlSelect
