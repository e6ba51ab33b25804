import ObjectQuery.Operation.Basic
import ObjectQuery.Resolution.BuiltIn

/-!
# Drafts of a bulk write

An update or delete is drafted from its target, which takes no joins, the
assignments of an update, and a condition. A text constant that already is a
parameter reference is assigned as it stands; every other value is resolved with
the type of the property it is assigned to.
-/

namespace ObjectQuery

/-- The parts of an update or delete so far. -/
structure WriteDraft where
  kind : OperationKind
  declaration : Option String
  assignments : List String
  condition : Option String
  deriving Repr

namespace WriteDraft

open Resolution

/-- A draft of an update or delete; other operations have no bulk form. -/
def start (kind : OperationKind) : Resolution WriteDraft :=
  match kind with
  | .update | .delete => return ⟨kind, none, [], none⟩
  | .insert => unsupported "bulk insert"
  | .select => fail (.build "select passed to a write composition")

/-- The draft with its target bound. -/
def withTarget (draft : WriteDraft) (target : Target) : Resolution WriteDraft :=
  if draft.declaration.isSome then
    fail (.build "target bound twice")
  else if !target.joins.isEmpty then
    unsupported ("joins in bulk " ++ draft.kind.name)
  else do
    let binding ← introduce target
    return { draft with declaration := some binding.declaration }

/-- The text of an assigned value. -/
def assigned (registry : Resolvers) (path : Path) (value : Expression) :
    Resolution String := do
  let dialect ← dialect
  let resolved := withHint path.valueType (registry.fragmentOf value)
  match value with
  | .constant (.string text) =>
      if dialect.looksLikeReference text then return text else resolved
  | _ => resolved

/-- The draft with one more assignment. -/
def withAssignment (draft : WriteDraft) (registry : Resolvers) (path : Path)
    (value : Expression) : Resolution WriteDraft :=
  if draft.declaration.isNone then
    fail (.build "assignment before the target is bound")
  else if draft.condition.isSome then
    fail (.build "assignment after the filter")
  else do
    let column ← registry.fragmentOf (.path path)
    let text ← assigned registry path value
    return { draft with assignments := draft.assignments ++ [column ++ "=" ++ text] }

/-- The draft with the assignments of a list. -/
def withAssignments (registry : Resolvers) (draft : WriteDraft) :
    List (Path × Expression) → Resolution WriteDraft
  | [] => return draft
  | (path, value) :: rest => do
      let draft ← draft.withAssignment registry path value
      withAssignments registry draft rest

/-- The draft with the condition on the rows it changes. -/
def withFilter (draft : WriteDraft) (registry : Resolvers) (condition : Filter) :
    Resolution WriteDraft :=
  if draft.declaration.isNone then
    fail (.build "filter before the target is bound")
  else do
    let text ← registry.conditionOf (.filter condition)
    return { draft with condition := some text }

/-- The statement that a finished draft makes up. -/
def assemble (draft : WriteDraft) : Except ResolutionError String :=
  match draft.declaration with
  | none => .error (.build "target clause is empty")
  | some declaration =>
      let condition := SelectDraft.clause "WHERE " draft.condition
      if draft.kind = .update then
        if draft.assignments.isEmpty then
          .error (.build "update sets no values")
        else
          .ok ("UPDATE " ++ declaration ++ " SET " ++ ", ".intercalate draft.assignments ++
            condition)
      else
        .ok ("DELETE FROM " ++ declaration ++ condition)

end WriteDraft
end ObjectQuery
