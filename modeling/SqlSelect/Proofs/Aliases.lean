import SqlSelect.Proofs.Relabeling
/-!
# Aliases count where they are declared

An alias can be put on a column or an aggregate anywhere, but only in a `SELECT` list does it name
something; and the empty alias is none at all. So a statement can be rid of all aliases that do
nothing, at any depth, and the builder cannot tell the difference: neither by the text nor by an error,
and not by what it leaves behind.

* `Relabeling.withoutIdleAliases` -- no alias outside of `SELECT` lists, and no empty one;
* `keeps_withoutIdleAliases` -- this keeps all that has to be kept for two builds to be the same;
* `build_withoutIdleAliases` -- a statement and its nested ones without the aliases that do nothing.
-/

namespace SqlSelect

/-- **Away with the aliases that do nothing**: all of those on columns and aggregates outside of a
`SELECT` list, and the empty ones of columns, aggregates, tables and nested statements wherever they
are. -/
def Relabeling.withoutIdleAliases : Relabeling where
  sourceAlias := nonEmpty
  shownAlias := nonEmpty
  idleAlias _ := none

theorem keeps_withoutIdleAliases : sameBuild.Keeps .withoutIdleAliases where
  injective := Function.injective_id
  column _ _ := rfl
  unknown _ := rfl
  tableName _ := rfl
  sourceAlias := nonEmpty_nonEmpty
  shownAlias := nonEmpty_nonEmpty

/-- **Aliases count where they are declared.** From every store, a statement among nested ones is built
to the same query, or fails with the same error, and leaves the same store, if all of them are rid of
the aliases that do nothing. -/
theorem build_withoutIdleAliases (nested : List Selector) (s : Selector) (st : Store) :
    ((s.relabel .withoutIdleAliases).build (.ofList .inCells resolve
        (nested.map (Selector.relabel .withoutIdleAliases)))).run.run st
      = (s.build (.ofList .inCells resolve nested)).run.run st := by
  have kept : ∀ n (b c : BuildM Query), sameBuild.Holds id b c →
      sameBuild.Holds id (Keeping.inCells n b) (Keeping.inCells n c) := by
    intro n b c h
    obtain rfl : b = c := (id_map b).symm.trans h
    exact id_map _
  have described : ∀ n key, sameBuild.Holds id (resolve n key) (resolve n key) :=
    fun _ _ => id_map _
  have built : id <$> s.build (.ofList .inCells resolve nested) = (s.relabel .withoutIdleAliases).build
      (.ofList .inCells resolve (nested.map (Selector.relabel .withoutIdleAliases))) :=
    Likeness.build keeps_withoutIdleAliases kept described nested s
  rw [← built, id_map]

end SqlSelect
