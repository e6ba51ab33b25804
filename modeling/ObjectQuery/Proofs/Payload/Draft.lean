import ObjectQuery.Proofs.Payload.Lockstep
import ObjectQuery.Composition.Select

/-!
# Drafts of a select do not see payloads

Drafts are alike when they hold the same clauses and alike plans. Every stage that is
taken with answers in lockstep leads from alike drafts to alike drafts, and alike drafts
make up the same text.
-/

namespace ObjectQuery

/-- Drafts with the same clauses, and plans that are alike or missing. -/
structure SelectDraft.Alike (left right : SelectDraft) : Prop where
  stage : left.stage = right.stage
  distinct : left.distinct = right.distinct
  source : left.source = right.source
  condition : left.condition = right.condition
  grouping : left.grouping = right.grouping
  ordering : left.ordering = right.ordering
  plan : Option.Rel ProjectionPlan.Alike left.plan right.plan

/-- Selects with the same text and alike plans. -/
structure SelectText.Alike (left right : SelectText) : Prop where
  text : left.text = right.text
  plan : left.plan.Alike right.plan

namespace SelectDraft

open Resolution

variable {settings : Settings} {left right : SelectDraft}

theorem start_alike (distinct : Bool) :
    (start.withDistinct distinct).Alike (start.withDistinct distinct) :=
  ⟨rfl, rfl, rfl, rfl, rfl, rfl, .none⟩

/-- A stage that one of two alike drafts may take, both may. -/
theorem advance_lockstep (alike : left.Alike right) (next : Stage) :
    InLockstep settings SelectDraft.Alike (ofExcept (left.advance next))
      (ofExcept (right.advance next)) := by
  simp only [advance, alike.stage]
  split
  · exact .fail _
  · split
    · exact .fail _
    · exact .pure { alike with stage := rfl }

variable {text text' : Resolution String}

theorem withTarget_lockstep (alike : left.Alike right) (texts : InLockstep settings Eq text text') :
    InLockstep settings SelectDraft.Alike (left.withTarget text) (right.withTarget text') := by
  refine (advance_lockstep alike .target).bind fun _ _ alike => ?_
  exact texts.bindEq fun _ => .pure { alike with source := rfl }

theorem withFilter_lockstep (alike : left.Alike right) (texts : InLockstep settings Eq text text') :
    InLockstep settings SelectDraft.Alike (left.withFilter text) (right.withFilter text') := by
  refine (advance_lockstep alike .filter).bind fun _ _ alike => ?_
  exact texts.bindEq fun _ => .pure { alike with condition := rfl }

theorem withAggregation_lockstep (alike : left.Alike right) (texts : InLockstep settings Eq text text') :
    InLockstep settings SelectDraft.Alike (left.withAggregation text) (right.withAggregation text') := by
  refine (advance_lockstep alike .aggregation).bind fun _ _ alike => ?_
  exact texts.bindEq fun _ => .pure { alike with grouping := rfl }

theorem withSort_lockstep (alike : left.Alike right) (texts : InLockstep settings Eq text text') :
    InLockstep settings SelectDraft.Alike (left.withSort text) (right.withSort text') := by
  refine (advance_lockstep alike .sort).bind fun _ _ alike => ?_
  exact texts.bindEq fun _ => .pure { alike with ordering := rfl }

theorem withProjection_lockstep
    {plan plan' : Resolution ProjectionPlan}
    (alike : left.Alike right)
    (plans : InLockstep settings ProjectionPlan.Alike plan plan') :
    InLockstep settings SelectDraft.Alike (left.withProjection plan) (right.withProjection plan') := by
  refine (advance_lockstep alike .projection).bind fun _ _ alike => ?_
  exact plans.bind fun _ _ plans => .pure { alike with plan := .some plans }

theorem assemble_lockstep (alike : left.Alike right) :
    InLockstep settings SelectText.Alike (ofExcept left.assemble) (ofExcept right.assemble) := by
  have selectList : ∀ {plan plan' : ProjectionPlan}, plan.Alike plan' →
      plan.selectList = plan'.selectList := by
    intro plan plan' plans
    rw [ProjectionPlan.selectList, ProjectionPlan.selectList, plans.selections]
  obtain ⟨stage, distinct, source, condition, grouping, ordering, plan⟩ := left
  obtain ⟨stage', distinct', source', condition', grouping', ordering', plan'⟩ := right
  obtain ⟨stages, distincts, sources, conditions, groupings, orderings, plans⟩ := alike
  simp only at stages distincts sources conditions groupings orderings plans
  subst stages distincts sources conditions groupings orderings
  simp only [assemble]
  split
  · exact .fail _
  · split
    · exact .fail _
    · cases plans with
      | none => exact .fail _
      | some plans =>
          simp only [plans.selections, selectList plans]
          split
          · exact .fail _
          · exact .pure ⟨rfl, plans⟩

end SelectDraft
end ObjectQuery
