import ObjectQuery.Proofs.Sketch.Steps

/-!
# The library's resolvers follow the sketches of nodes

The mutual induction over nodes. A call must be valid, since a sketch has no place for a
second argument, and a target must be valid, since a run over a declaration vouches for the
names that are declared; every other part is checked again where it is resolved.
-/

namespace ObjectQuery
namespace BuiltIn

open Resolution
open Sketch hiding call

variable {settings : Settings}

mutual

/-- The library's own answer for a node follows the node's sketch. -/
theorem answer_guided :
    (node : Expression) → Validation.expression node = .ok () →
      GuidesAnswer settings node.sketch (answer .standard node)
  | .path found, _ => by
      simp only [answer, Expression.sketch]
      exact (path_guided found).answer
  | .constant value, _ => by
      simp only [answer, Expression.sketch]
      exact (filling_guided (.constant value)).answer
  | .function call, valid => by
      simp only [Validation.expression] at valid
      simp only [answer, Expression.sketch]
      exact (function_guided call valid).answer
  | .subQuery query, _ => by
      simp only [answer, Expression.sketch]
      exact (subQuery_guided query).answer
  | .filter condition, _ => by
      simp only [answer, Expression.sketch]
      exact filter_guided condition
  | .sort keys, _ => by
      simp only [answer, Expression.sketch]
      intro before
      refine (sortKeys_guided keys before).bind fun texts after each => .pure ?_
      exact (each.separated ", ").after_words "ORDER BY "
  | .aggregation grouping, _ => by
      simp only [answer, Expression.sketch]
      exact (aggregation_guided grouping).answer
  | .projection selected, valid => by
      simp only [Validation.expression] at valid
      simp only [answer, Expression.sketch]
      exact (projection_guided selected valid).answer
  | .target found, valid => by
      simp only [Validation.expression] at valid
      simp only [answer, Expression.sketch]
      exact (target_guided found valid).answer
  | .custom _, _ => by
      simp only [answer]
      exact fun _ => .fail _

theorem function_guided :
    (call : FunctionCall) → Validation.function call = .ok () →
      Guides settings call.sketch (function .standard call)
  | .mk kind arguments distinct, valid => by
      simp only [function, FunctionCall.sketch]
      intro before
      refine (fragments_guided arguments before).bind fun texts between each => ?_
      refine spelled_guided each ?_
      rw [← each.length_eq, Expression.length_sketches]
      exact Validation.length_le_one_of_function valid

theorem fragments_guided :
    (nodes : List Expression) →
      GuidesEach settings (Expression.sketches nodes) (fragments .standard nodes)
  | [] => by
      simp only [fragments, Expression.sketches]
      exact fun before => .pure (.nil before)
  | first :: rest => by
      simp only [fragments, Expression.sketches]
      intro before
      refine Ensures.bind (guides_fragment (answer_guided first) before)
        fun text between writes => ?_
      exact (fragments_guided rest between).bind fun texts after each => .pure (.cons writes each)

theorem filter_guided :
    (condition : Filter) → GuidesAnswer settings condition.sketch (filter .standard condition)
  | .isNull operand | .isNotNull operand => by
      simp only [filter, Filter.sketch]
      intro before
      refine Ensures.bind (guides_fragment (answer_guided operand) before)
        fun text after writes => .pure ?_
      exact (writes.enclosing operand).before_words _
  | .compare left operator right => by
      simp only [filter, Filter.sketch]
      intro before
      refine Ensures.bind (guides_fragment (answer_guided left) before)
        fun leftText between writesLeft => ?_
      refine Ensures.bind ((guides_fragment (answer_guided right)).withHint left.valueType between)
        fun rightText after writesRight => .pure ?_
      simp only [Resolved.Ensures, String.append_assoc]
      exact (writesLeft.enclosing left).append ((writesRight.enclosing right).after_words _)
  | .between operand lower upper => by
      simp only [filter, Filter.sketch]
      intro before
      refine Ensures.bind (guides_fragment (answer_guided operand) before)
        fun text between writes => ?_
      refine Ensures.bind
        ((guides_fragment (answer_guided lower)).withHint operand.valueType between)
        fun lowerText between' writesLower => ?_
      refine Ensures.bind
        ((guides_fragment (answer_guided upper)).withHint operand.valueType between')
        fun upperText after writesUpper => .pure ?_
      have bounds := (writesLower.enclosing lower).append
        ((writesUpper.enclosing upper).after_words " AND ")
      simp only [Resolved.Ensures, String.append_assoc]
      exact (writes.enclosing operand).append (bounds.after_words " BETWEEN ")
  | .isIn left right | .isNotIn left right => by
      simp only [filter, Filter.sketch]
      intro before
      refine Ensures.bind (guides_fragment (answer_guided left) before)
        fun leftText between writesLeft => ?_
      refine Ensures.bind ((guides_fragment (answer_guided right)).withHint left.valueType between)
        fun rightText after writesRight => .pure ?_
      have members (opening : String) :=
        (writesLeft.enclosing left).append (writesRight.between opening ")")
      simp only [Resolved.Ensures, String.append_assoc] at members ⊢
      exact members _
  | .stringMatch left value mode ignoreCase => by
      simp only [filter, Filter.sketch]
      intro before
      refine (matchedText_ensures value).bind ?_
      rintro text before ⟨found, rfl⟩
      obtain rfl : (value.constant?.bind Value.text?).getD "" = text := by
        rw [found, Option.getD_some]
      refine Ensures.bind (guides_fragment (answer_guided left) before)
        fun leftText between writes => ?_
      exact (matchText_guided (writes.enclosing left) _ mode ignoreCase).bind
        fun written after writesMatch => .pure writesMatch
  | .and [] | .or [] => by
      simp only [filter]
      exact fun before => .pure trivial
  | .and (first :: rest) | .or (first :: rest) => by
      simp only [filter, Filter.sketch, Filter.sketches]
      intro before
      refine Ensures.bind (guides_predicate (fun _ => filter_guided first) before)
        fun text between writes => ?_
      exact (predicates_guided rest between).bind fun texts after each =>
        .pure ((WritesEach.cons writes each).junction _)
  | .not condition => by
      simp only [filter, Filter.sketch]
      intro before
      refine Ensures.bind (guides_predicate (fun _ => filter_guided condition) before)
        fun text after writes => .pure ?_
      exact writes.between "NOT (" ")"
  | .hasRows query | .hasNoRows query => by
      simp only [filter, Filter.sketch]
      intro before
      refine Ensures.bind (guides_fragment (fun _ => (subQuery_guided query).answer) before)
        fun text after writes => .pure ?_
      exact writes.between _ ")"

theorem predicates_guided :
    (conditions : List Filter) →
      GuidesEach settings (Filter.sketches conditions) (predicates .standard conditions)
  | [] => by
      simp only [predicates, Filter.sketches]
      exact fun before => .pure (.nil before)
  | first :: rest => by
      simp only [predicates, Filter.sketches]
      intro before
      refine Ensures.bind (guides_predicate (fun _ => filter_guided first) before)
        fun text between writes => ?_
      exact (predicates_guided rest between).bind fun texts after each => .pure (.cons writes each)

theorem sortKeys_guided :
    (keys : List SortKey) →
      GuidesEach settings (SortKey.sketches keys) (sortKeys .standard keys)
  | [] => by
      simp only [sortKeys, SortKey.sketches]
      exact fun before => .pure (.nil before)
  | .mk key direction :: rest => by
      simp only [sortKeys, sortKey, SortKey.sketches, SortKey.sketch]
      intro before
      have firsts : (do
          let text ← Resolvers.standard.fragment key (answer .standard key)
          return text ++ " " ++ direction.keyword : Resolution String).Ensures settings before
            (Sketch.Writes settings (key.sketch.append (words (" " ++ direction.keyword)))
              before) :=
        Ensures.bind (guides_fragment (answer_guided key) before) fun text after writes =>
          .pure (by simpa only [String.append_assoc] using writes.before_words _)
      refine Ensures.bind firsts fun text between writes => ?_
      exact (sortKeys_guided rest between).bind fun texts after each => .pure (.cons writes each)

theorem aggregation_guided :
    (grouping : Aggregation) → Guides settings grouping.sketch (aggregation .standard grouping)
  | .mk keys none => by
      simp only [aggregation, Aggregation.sketch, Filter.sketchAfter]
      intro before
      refine (fragments_guided keys before).bind fun texts after each => .pure ?_
      simpa only [String.append_empty] using
        ((each.separated ", ").after_words "GROUP BY ").before_words ""
  | .mk keys (some condition) => by
      simp only [aggregation, Aggregation.sketch, Filter.sketchAfter]
      intro before
      refine (fragments_guided keys before).bind fun texts between each => ?_
      refine Ensures.bind (guides_predicate (fun _ => filter_guided condition) between)
        fun text after writes => .pure ?_
      rw [String.append_assoc]
      exact ((each.separated ", ").after_words "GROUP BY ").append (writes.after_words " HAVING ")

theorem projection_guided :
    (selected : Projection) → Validation.projection selected = .ok () →
      GuidesPlan settings selected.sketch (projection .standard selected)
  | .path found, _ => by
      simp only [projection, Projection.sketch]
      intro before
      refine Ensures.bind (guides_fragment (fun _ => (path_guided found).answer) before)
        fun text after writes => .pure ?_
      rw [ProjectionPlan.selectList_scalar]
      exact writes.named found.aliasName
  | .function call, valid => by
      simp only [Validation.projection] at valid
      simp only [projection, Projection.sketch]
      intro before
      refine Ensures.bind (guides_fragment (fun _ => (function_guided call valid).answer) before)
        fun text after writes => .pure ?_
      rw [ProjectionPlan.selectList_scalar]
      exact writes
  | .constant value, _ => by
      simp only [projection, Projection.sketch]
      exact constantPlan_guided value
  | .target name, _ => by
      simp only [projection, Projection.sketch]
      exact entityPlan_guided name
  | .properties items, _ => by
      simp only [projection, Projection.sketch]
      intro before
      refine (projectionItems_guided items before).bind fun columns after each => ?_
      refine .bindDialect (.pure ?_)
      rw [ProjectionPlan.selectList_record]
      exact each.separated ", "
  | .selectAll, _ => by
      simp only [projection, Projection.sketch]
      exact attributesPlan_guided
  | .countAll, _ => by
      simp only [projection, Projection.sketch]
      exact countPlan_guided

theorem projectionItems_guided :
    (items : List NamedProperty) → (before : Context) →
      (projectionItems .standard items).Ensures settings before fun columns after =>
        WritesEach settings (NamedProperty.sketches items) before
          (columns.map fun column => column.2.1 ++ " AS " ++ column.1) after
  | [], before => by
      simp only [projectionItems, NamedProperty.sketches]
      exact .pure (.nil before)
  | .mk name item :: rest, before => by
      simp only [projectionItems, projectionItem, NamedProperty.sketches, NamedProperty.sketch]
      have firsts : (do
          let text ← Resolvers.standard.fragment item (answer .standard item)
          return (name, text, item.valueType) : Resolution _).Ensures settings before
            fun column after => (item.sketch.named (some name)).Writes settings before
              (column.2.1 ++ " AS " ++ column.1) after :=
        Ensures.bind (guides_fragment (answer_guided item) before) fun text after writes =>
          .pure (writes.named (some name))
      refine firsts.bind fun column between writes => ?_
      exact (projectionItems_guided rest between).bind fun columns after each =>
        .pure (.cons writes each)

theorem target_guided :
    (found : Target) → Validation.target found = .ok () →
      Guides settings found.sketch (target .standard found)
  | .mk name entity aliasName joined, valid => by
      obtain ⟨validNames, validJoins⟩ := Validation.of_target valid
      simp only [target, Target.sketch]
      intro before
      have declares : (introduce (.mk name entity aliasName joined)).Ensures settings before _ :=
        introduce_guided validNames
      refine declares.bind fun binding between writesTarget => ?_
      exact (joins_guided joined validJoins between).bind fun text after writesJoins =>
        .pure (writesTarget.append writesJoins)

theorem joins_guided :
    (joined : List Join) → Validation.joins joined = .ok () →
      Guides settings (Join.sketches joined) (joins .standard joined)
  | [], _ => by
      simp only [joins, Join.sketches]
      exact fun before => .pure (.words "")
  | first :: rest, valid => by
      obtain ⟨validFirst, validRest⟩ := Validation.of_joins valid
      simp only [joins, Join.sketches]
      intro before
      refine Ensures.bind (join_guided first validFirst before) fun text between writes => ?_
      exact Ensures.bind (joins_guided rest validRest between) fun texts after writesRest =>
        .pure (writes.append writesRest)

theorem join_guided :
    (found : Join) → Validation.join found = .ok () →
      Guides settings found.sketch (join .standard found)
  | .mk joinType (.mk name entity aliasName joined) condition, valid => by
      obtain ⟨validNames, validJoins⟩ := Validation.of_target (Validation.target_of_join valid)
      simp only [join, innerJoins, Join.sketch, Target.joinSketch]
      intro before
      have declares : (introduceJoined joinType (.mk name entity aliasName joined)).Ensures settings
          before _ := introduceJoined_guided validNames
      refine declares.bind fun binding between writesTarget => ?_
      refine Ensures.bind (joinCondition_guided condition between)
        fun text between' writesCondition => ?_
      refine Ensures.bind (joins_guided joined validJoins between')
        fun inner after writesInner => .pure ?_
      have declared := writesTarget.append (writesCondition.append writesInner)
      simpa only [String.append_assoc] using declared.after_words (" " ++ joinType.keyword ++ " ")

theorem joinCondition_guided :
    (condition : Option Filter) →
      Guides settings (Filter.sketchAfter " ON " condition) (joinCondition .standard condition)
  | none => by
      simp only [joinCondition, Filter.sketchAfter]
      exact fun before => .pure (.words "")
  | some condition => by
      simp only [joinCondition, Filter.sketchAfter]
      intro before
      exact Ensures.bind (guides_predicate (fun _ => filter_guided condition) before)
        fun text after writes => .pure (writes.after_words " ON ")

theorem subQuery_guided :
    (query : SubQuery) → Guides settings query.sketch (subQuery .standard query)
  | .mk queried condition selected correlations => by
      simp only [subQuery, SubQuery.sketch]
      intro before
      refine .bindContext (.inChild ?_)
      refine (checkCorrelations_finds correlations).bind ?_
      rintro _ _ ⟨-, rfl⟩
      have sources : Guides settings queried.sketch
          (Resolvers.standard.fragment (.target queried) (do
            let text ← target .standard queried
            return .fragment text)) :=
        guides_fragment fun valid => (target_guided queried (by
          simpa [Expression.validate, Validation.expression] using valid)).answer
      refine (SelectDraft.withTarget_ensures
        ((sources _).and (source_joinsAliased queried rfl))).bind ?_
      rintro _ sourced ⟨source, rfl, writesSource, aliased⟩
      refine ((conditionStage_guided condition sourced rfl).and
        (conditionStage_keeps condition _).ensures).bind ?_
      rintro _ restricted ⟨⟨stage, found, rfl, writesCondition⟩, keptByCondition⟩
      have plans : GuidesPlan settings selected.sketch
          (Resolvers.standard.plan (.projection selected) (do
            let plan ← projection .standard selected
            return .projection plan)) :=
        guidesPlan_plan fun valid => (projection_guided selected (by
          simpa [Expression.validate, Validation.expression] using valid)).answer
      have plansKeep : (Resolvers.standard.plan (.projection selected) (do
          let plan ← projection .standard selected
          return .projection plan)).Keeps settings .all :=
        Resolvers.plan_keeps fun valid => (projection_keeps selected (by
          simpa only [Expression.validate, Validation.expression] using valid)).bind
            fun _ => .pure _
      refine (SelectDraft.withProjection_ensures ((plans _).and plansKeep.ensures)).bind ?_
      rintro _ selects ⟨plan, rfl, writesPlan, keptByProjection⟩
      refine (SelectDraft.assemble_ensures rfl rfl).bind ?_
      rintro _ _ ⟨rfl, rfl⟩
      rw [← keptByCondition.current, ← keptByProjection.current] at aliased
      have written := (writesSource.select false writesCondition writesPlan).nested aliased
      exact .pure (by
        simpa [SelectDraft.wording, SelectDraft.clause, SelectDraft.start] using written)

theorem conditionStage_guided :
    (condition : Option Filter) → {draft : SelectDraft} → (before : Context) →
      (missing : draft.condition = none) →
      (conditionStage .standard draft condition).Ensures settings before fun draft' after =>
        ∃ stage found, draft' = { draft with stage, condition := found } ∧
          (Filter.sketchAfter " WHERE " condition).Writes settings before
            (SelectDraft.clause "WHERE " found) after
  | none, draft, before, missing => by
      simp only [conditionStage, Filter.sketchAfter]
      exact .pure ⟨draft.stage, none, by rw [← missing], .words ""⟩
  | some condition, draft, before, _ => by
      simp only [conditionStage, Filter.sketchAfter]
      refine (SelectDraft.withFilter_ensures
        (guides_predicate (fun _ => filter_guided condition) before)).weaken ?_
      rintro _ _ ⟨text, rfl, writes⟩
      exact ⟨.filter, some text, rfl, writes.after_words " WHERE "⟩

end

end BuiltIn
end ObjectQuery
