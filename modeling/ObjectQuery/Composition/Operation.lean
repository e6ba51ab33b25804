import ObjectQuery.Composition.Write

/-!
# Statements of operations

An operation is checked as a whole and then composed in a context without open
sub-queries: a select from its clauses in order, a write from its target,
assignments and condition.
-/

namespace ObjectQuery

/-- The text of a statement, and the plan of its rows if it is a select. -/
structure StatementText where
  text : String
  plan : Option ProjectionPlan

namespace Operation

open Resolution

/-- A stage of a draft for a clause that may be missing. -/
def stage {clause draft : Type} (add : draft → clause → Resolution draft) (current : draft) :
    Option clause → Resolution draft
  | none => return current
  | some found => add current found

/-- The statement of a select. -/
def composeSelect (operation : Operation) (registry : Resolvers) :
    Resolution StatementText := do
  let draft ← (SelectDraft.start.withDistinct operation.distinct).withTarget
    (registry.fragmentOf (.target operation.target))
  let draft ← stage
    (fun draft condition => draft.withFilter (registry.conditionOf (.filter condition)))
    draft operation.filter
  let draft ← stage
    (fun draft grouping => draft.withAggregation (registry.fragmentOf (.aggregation grouping)))
    draft operation.aggregation
  let draft ← stage
    (fun draft keys => draft.withSort (registry.fragmentOf (.sort keys)))
    draft operation.sort
  let draft ← draft.withProjection
    (registry.planOf (.projection (operation.projection.getD Projection.entity)))
  let select ← ofExcept draft.assemble
  return ⟨select.text, some select.plan⟩

/-- The statement of a write. -/
def composeWrite (operation : Operation) (registry : Resolvers) :
    Resolution StatementText := do
  let draft ← WriteDraft.start operation.kind
  let draft ← draft.withTarget operation.target
  let draft ← WriteDraft.withAssignments registry draft operation.values
  let draft ← stage (fun draft condition => draft.withFilter registry condition)
    draft operation.filter
  let text ← ofExcept draft.assemble
  return ⟨text, none⟩

/-- The statement of an operation. -/
def compose (operation : Operation) (registry : Resolvers) :
    Resolution StatementText := do
  let context ← context
  if context.isRoot then
    ofChecked operation.validate
    if operation.kind = .select then
      composeSelect operation registry
    else
      composeWrite operation registry
  else
    fail (.build "operations are composed in a root context")

end Operation

/-- The alias mode of a statement: writes give up aliases where they are not supported. -/
def AliasPolicy.forStatement (mode : AliasPolicy) (kind : OperationKind) (writesAlias : Bool) :
    AliasPolicy :=
  if kind.isWrite && !writesAlias then .unsupported else mode

end ObjectQuery
