/-!
# Why a statement cannot be built

Every cause is a malformed statement or an entity without a usable description; none of them goes
away by trying again.
-/

namespace SqlSelect

/-- Why a statement cannot be built. -/
inductive BuildError
  /-- The statement is about no entity. -/
  | nilEntity
  /-- No entity is registered under the name. -/
  | unresolvableEntity (name : String)
  /-- The description of the entity has no table or no fields. -/
  | unsupportedEntityKind (name : String)
  /-- The entity has no such field, or the nested statement does not show it. -/
  | unknownField (name : String)
  /-- An operator stands where it cannot be used. -/
  | unsupportedExpression (reason : String)
  /-- A nested statement in the place of a table has no alias. -/
  | missingSubqueryAlias
  deriving DecidableEq, Inhabited, Repr

/-- The text that tells a user what is wrong. -/
def BuildError.message : BuildError → String
  | nilEntity => "statement has no target entity"
  | unresolvableEntity name => "cannot resolve metadata for entity '" ++ name ++ "'"
  | unsupportedEntityKind name =>
    "entity '" ++ name ++ "' does not describe a table with fields"
  | unknownField name => "unknown field '" ++ name ++ "'"
  | unsupportedExpression reason => "unsupported expression: " ++ reason
  | missingSubqueryAlias => "subquery used as a table reference must have an alias"

end SqlSelect
