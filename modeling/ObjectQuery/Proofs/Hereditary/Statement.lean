import ObjectQuery.Proofs.Hereditary.Nodes

/-!
# Operations have every hereditary property

Selects are composed stage by stage, writes from their target, assignments and condition.
-/

namespace ObjectQuery
namespace Resolution
namespace Hereditary

variable {holds : {result : Type} → Resolution result → Prop} (hereditary : Hereditary holds)
variable {registry : Resolvers}

include hereditary

theorem stage
    {clause draft : Type}
    {add : draft → clause → Resolution draft}
    (adds : ∀ before found, holds (add before found))
    (before : draft)
    (found : Option clause) :
    holds (Operation.stage add before found) := by
  cases found with
  | none => exact hereditary.pure _
  | some found => exact adds before found

section Operations

variable (hosts : registry.HostsHave holds)

include hosts

theorem composeSelect (operation : Operation) : holds (operation.composeSelect registry) := by
  have text (node : Expression) : holds (registry.fragmentOf node) :=
    hereditary.fragment hosts (hereditary.answer hosts node)
  refine hereditary.bind (hereditary.withTarget (text _) _) fun draft => ?_
  refine hereditary.bind (hereditary.stage (fun draft condition => ?_) _ _) fun draft => ?_
  · exact hereditary.withFilter (hereditary.predicate hosts (hereditary.answer hosts _)) draft
  refine hereditary.bind (hereditary.stage (fun draft grouping => ?_) _ _) fun draft => ?_
  · exact hereditary.withAggregation (text _) draft
  refine hereditary.bind (hereditary.stage (fun draft keys => ?_) _ _) fun draft => ?_
  · exact hereditary.withSort (text _) draft
  refine hereditary.bind (hereditary.withProjection
    (hereditary.plan hosts (hereditary.answer hosts _)) _) fun draft => ?_
  exact hereditary.returning (hereditary.ofExcept _)

theorem withAssignments (values : List (Path × Expression)) (draft : WriteDraft) :
    holds (WriteDraft.withAssignments registry draft values) := by
  have text (node : Expression) : holds (registry.fragmentOf node) :=
    hereditary.fragment hosts (hereditary.answer hosts node)
  induction values generalizing draft with
  | nil => exact hereditary.pure _
  | cons assignment rest inductionHypothesis =>
      obtain ⟨path, value⟩ := assignment
      have assigned : holds (WriteDraft.assigned registry path value) := by
        refine hereditary.bind hereditary.dialect fun dialect => ?_
        split
        · split
          · exact hereditary.pure _
          · exact hereditary.withHint _ (text _)
        · exact hereditary.withHint _ (text _)
      refine hereditary.bind ?_ inductionHypothesis
      unfold WriteDraft.withAssignment
      split
      · exact hereditary.fail _
      · split
        · exact hereditary.fail _
        · exact hereditary.bind (text _) fun _ =>
            hereditary.returning assigned

theorem composeWrite (operation : Operation) : holds (operation.composeWrite registry) := by
  have started : holds (WriteDraft.start operation.kind) := by
    unfold WriteDraft.start
    split
    · exact hereditary.pure _
    · exact hereditary.pure _
    · exact hereditary.unsupported _
    · exact hereditary.fail _
  refine hereditary.bind started fun draft => hereditary.bind ?_ fun draft => ?_
  · unfold WriteDraft.withTarget
    split
    · exact hereditary.fail _
    · split
      · exact hereditary.unsupported _
      · exact hereditary.returning (hereditary.introduce _)
  refine hereditary.bind (hereditary.withAssignments hosts _ draft) fun draft => ?_
  refine hereditary.bind (hereditary.stage (fun draft condition => ?_) _ _) fun draft => ?_
  · unfold WriteDraft.withFilter
    split
    · exact hereditary.fail _
    · exact hereditary.returning (hereditary.predicate hosts (hereditary.answer hosts _))
  exact hereditary.returning (hereditary.ofExcept _)

/-- The composition of an operation has every hereditary property. -/
theorem compose (operation : Operation) : holds (operation.compose registry) := by
  refine hereditary.reading (fun context => ?_) fun _ _ => rfl
  split
  · refine hereditary.bind (hereditary.ofChecked _) fun _ => ?_
    split
    · exact hereditary.composeSelect hosts operation
    · exact hereditary.composeWrite hosts operation
  · exact hereditary.fail _

end Operations

end Hereditary
end Resolution
end ObjectQuery
