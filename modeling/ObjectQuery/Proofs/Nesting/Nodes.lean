import ObjectQuery.Proofs.Nesting.Calls

/-!
# Nodes are written by their outlines

The mutual induction over nodes: the library's own answer for a node is made up of the
pieces of the node's outline. Only calls need to know that they are valid, since the text of
a second argument might itself hold the mark of a place.
-/

namespace ObjectQuery
namespace Outline

open Piece Resolution BuiltIn

variable {settings : Settings}

/-! ## Parts of a select -/

/-- A select is made up of the pieces of its clauses, after a word that spells `SELECT`. -/
theorem fits_wording
    {draft : SelectDraft}
    {source : String}
    {plan : ProjectionPlan}
    (start : Piece)
    {selected sourced condition grouping ordering : List Piece}
    (spells : start.Spells "SELECT ")
    (fitsPlan : Fits selected plan.selectList)
    (fitsSource : Fits sourced source)
    (fitsCondition : Fits condition (SelectDraft.clause "WHERE " draft.condition))
    (fitsGrouping : Fits grouping (SelectDraft.clause "" draft.grouping))
    (fitsOrdering : Fits ordering (SelectDraft.clause "" draft.ordering)) :
    Fits
      (start :: marked draft.distinct
        (selected ++ .words " FROM " :: (sourced ++ condition ++ grouping ++ ordering)))
      (draft.wording source plan) := by
  have clauses := ((fitsSource.append fitsCondition).append fitsGrouping).append fitsOrdering
  refine ⟨"SELECT ", _, ?_, spells,
    FunctionSpelling.fits_marked (fitsPlan.append (clauses.afterWords " FROM ")) draft.distinct⟩
  apply String.toList_inj.mp
  cases given : draft.distinct <;> simp [SelectDraft.wording, given]

/-- A plan of named columns is written column by column. -/
theorem fits_record
    {pieces : List (List Piece)}
    {columns : List (String × String × ValueType)}
    (shape : RowShape)
    (each : List.Forall₂ (fun pieces column => Fits pieces (column.2.1 ++ " AS " ++ column.1))
      pieces columns) :
    Fits (separated ", " pieces) (ProjectionPlan.record shape columns).selectList := by
  have parts : List.Forall₂ Fits pieces
      (columns.map fun column => column.2.1 ++ " AS " ++ column.1) :=
    List.forall₂_map_right_iff.mpr each
  rw [ProjectionPlan.selectList_record]
  exact fits_separated ", " parts

mutual

theorem answer_answersBy :
    (node : Expression) → Validation.expression node = .ok () →
      AnswersBy settings (node.outline settings.dialect) (answer .standard node)
  | .path _, _ | .constant _, _ => by
      simp only [answer, Expression.outline]
      exact (writesBy_gap _).answers
  | .function call, valid => by
      simp only [Validation.expression] at valid
      simp only [answer, Expression.outline]
      exact (function_writesBy call valid).answers
  | .subQuery query, _ => by
      simp only [answer, Expression.outline]
      exact (subQuery_writesBy query).answers
  | .filter condition, _ => by
      simp only [answer, Expression.outline]
      exact filter_answersBy condition
  | .sort keys, _ => by
      simp only [answer, Expression.outline]
      intro before
      refine (sortKeys_writeBy keys before).bind fun texts after each => .pure ?_
      exact (fits_separated _ each).afterWords "ORDER BY "
  | .aggregation grouping, _ => by
      simp only [answer, Expression.outline]
      exact (aggregation_writesBy grouping).answers
  | .projection selected, valid => by
      simp only [Validation.expression] at valid
      simp only [answer, Expression.outline]
      exact (projection_plansBy selected valid).answers
  | .target found, _ => by
      simp only [answer, Expression.outline]
      exact (target_writesBy found).answers
  | .custom _, _ => by
      simp only [answer]
      exact fun _ => .fail _

theorem function_writesBy :
    (call : FunctionCall) → Validation.function call = .ok () →
      WritesBy settings (call.outline settings.dialect) (function .standard call)
  | .mk kind arguments distinct, valid => by
      simp only [function, FunctionCall.outline]
      intro before
      refine (fragments_writeBy arguments before).bind fun texts between written => ?_
      refine spelled_writesBy written ?_ between
      rw [← written.length_eq, Expression.length_outlines]
      exact Validation.length_le_one_of_function valid

theorem fragments_writeBy :
    (nodes : List Expression) → (before : Context) →
      (fragments .standard nodes).Ensures settings before fun texts _ =>
        List.Forall₂ Fits (Expression.outlines settings.dialect nodes) texts
  | [], _ => by
      simp only [fragments, Expression.outlines]
      exact .pure .nil
  | first :: rest, before => by
      simp only [fragments, Expression.outlines]
      refine (writesBy_fragment (answer_answersBy first) before).bind fun text between fits => ?_
      exact (fragments_writeBy rest between).bind fun texts after each => .pure (.cons fits each)

theorem filter_answersBy :
    (condition : Filter) →
      AnswersBy settings (condition.outline settings.dialect) (filter .standard condition)
  | .isNull operand | .isNotNull operand => by
      simp only [filter, Filter.outline]
      intro before
      refine (writesBy_fragment (answer_answersBy operand) before).bind fun text after fits => .pure ?_
      exact (fits_enclosing operand fits).append (fits_words _)
  | .compare left operator right => by
      simp only [filter, Filter.outline]
      intro before
      refine (writesBy_fragment (answer_answersBy left) before).bind
        fun leftText between fitsLeft => ?_
      refine ((writesBy_fragment (answer_answersBy right)).withHint between).bind
        fun rightText after fitsRight => .pure ?_
      rw [String.append_assoc]
      exact (fits_enclosing left fitsLeft).append ((fits_enclosing right fitsRight).afterWords _)
  | .between operand lower upper => by
      simp only [filter, Filter.outline]
      intro before
      refine (writesBy_fragment (answer_answersBy operand) before).bind fun text between fits => ?_
      refine ((writesBy_fragment (answer_answersBy lower)).withHint between).bind
        fun lowerText between' fitsLower => ?_
      refine ((writesBy_fragment (answer_answersBy upper)).withHint between').bind
        fun upperText after fitsUpper => .pure ?_
      have bounds := (fits_enclosing lower fitsLower).append
        ((fits_enclosing upper fitsUpper).afterWords " AND ")
      simpa only [Resolved.Ensures, String.append_assoc] using
        (fits_enclosing operand fits).append (bounds.afterWords " BETWEEN ")
  | .isIn left right | .isNotIn left right => by
      simp only [filter, Filter.outline]
      intro before
      refine (writesBy_fragment (answer_answersBy left) before).bind
        fun leftText between fitsLeft => ?_
      refine ((writesBy_fragment (answer_answersBy right)).withHint between).bind
        fun rightText after fitsRight => .pure ?_
      have members := (fitsRight.append (fits_words ")")).afterWords
      simp only [Resolved.Ensures, String.append_assoc]
      exact (fits_enclosing left fitsLeft).append (members _)
  | .stringMatch left value mode ignoreCase => by
      simp only [filter, Filter.outline]
      intro before
      have texts : (matchedText value).Ensures settings before fun _ _ => True :=
        fun _ _ _ => trivial
      refine texts.bind fun text between _ => ?_
      refine (writesBy_fragment (answer_answersBy left) between).bind
        fun leftText between' fits => ?_
      exact (matchText_writesBy (fits_enclosing left fits) text mode ignoreCase between').bind
        fun written after fitsMatch => .pure fitsMatch
  | .and [] | .or [] => by
      simp only [filter]
      exact fun before => .pure trivial
  | .and (first :: rest) | .or (first :: rest) => by
      simp only [filter, Filter.outline, Filter.outlines]
      intro before
      refine (writesBy_predicate (fun _ => filter_answersBy first) before).bind
        fun text between fits => ?_
      exact (predicates_writeBy rest between).bind fun texts after each =>
        .pure (fits_junction (.cons fits each))
  | .not condition => by
      simp only [filter, Filter.outline]
      intro before
      refine (writesBy_predicate (fun _ => filter_answersBy condition) before).bind
        fun text after fits => .pure ?_
      have negated := (fits.append (fits_words ")")).afterWords "NOT ("
      simpa [Resolved.Ensures, String.append_assoc] using negated
  | .hasRows query | .hasNoRows query => by
      simp only [filter, Filter.outline]
      intro before
      refine (writesBy_fragment (fun _ => (subQuery_writesBy query).answers) before).bind
        fun text after fits => .pure ?_
      have rows := (fits.append (fits_words ")")).afterWords
      simp only [Resolved.Ensures, String.append_assoc]
      exact rows _

theorem predicates_writeBy :
    (conditions : List Filter) → (before : Context) →
      (predicates .standard conditions).Ensures settings before fun texts _ =>
        List.Forall₂ Fits (Filter.outlines settings.dialect conditions) texts
  | [], _ => by
      simp only [predicates, Filter.outlines]
      exact .pure .nil
  | first :: rest, before => by
      simp only [predicates, Filter.outlines]
      refine (writesBy_predicate (fun _ => filter_answersBy first) before).bind
        fun text between fits => ?_
      exact (predicates_writeBy rest between).bind fun texts after each => .pure (.cons fits each)

theorem sortKeys_writeBy :
    (keys : List SortKey) → (before : Context) →
      (sortKeys .standard keys).Ensures settings before fun texts _ =>
        List.Forall₂ Fits (SortKey.outlines settings.dialect keys) texts
  | [], _ => by
      simp only [sortKeys, SortKey.outlines]
      exact .pure .nil
  | .mk key direction :: rest, before => by
      simp only [sortKeys, sortKey, SortKey.outlines, SortKey.outline]
      have first : WritesBy settings
          (key.outline settings.dialect ++ [.words (" " ++ direction.keyword)])
          (do let text ← Resolvers.standard.fragment key (answer .standard key)
              return text ++ " " ++ direction.keyword) := fun before =>
        (writesBy_fragment (answer_answersBy key) before).bind fun text after fits => .pure (by
          simpa [String.append_assoc] using fits.append (fits_words (" " ++ direction.keyword)))
      refine (first before).bind fun text between fits => ?_
      exact (sortKeys_writeBy rest between).bind fun texts after each => .pure (.cons fits each)

theorem aggregation_writesBy :
    (grouping : Aggregation) →
      WritesBy settings (grouping.outline settings.dialect) (aggregation .standard grouping)
  | .mk keys none => by
      simp only [aggregation, Aggregation.outline, Filter.clause, List.append_nil]
      intro before
      exact (fragments_writeBy keys before).bind fun texts after each =>
        .pure ((fits_separated _ each).afterWords "GROUP BY ")
  | .mk keys (some condition) => by
      simp only [aggregation, Aggregation.outline, Filter.clause]
      intro before
      refine (fragments_writeBy keys before).bind fun texts between each => ?_
      refine (writesBy_predicate (fun _ => filter_answersBy condition) between).bind
        fun text after fits => .pure ?_
      rw [String.append_assoc]
      exact ((fits_separated _ each).afterWords "GROUP BY ").append (fits.afterWords " HAVING ")

theorem projection_plansBy :
    (selected : Projection) → Validation.projection selected = .ok () →
      PlansBy settings (selected.outline settings.dialect) (projection .standard selected)
  | .path _, _ | .constant _, _ | .target _, _ | .selectAll, _ | .countAll, _ => by
      simp only [Projection.outline]
      exact plansBy_gap _
  | .function call, valid => by
      simp only [Validation.projection] at valid
      simp only [projection, Projection.outline]
      intro before
      refine (writesBy_fragment (fun _ => (function_writesBy call valid).answers) before).bind
        fun text after fits => .pure ?_
      rw [ProjectionPlan.selectList_scalar]
      exact fits
  | .properties items, _ => by
      simp only [projection, Projection.outline]
      intro before
      refine (projectionItems_writeBy items before).bind fun columns after each => ?_
      exact .bindDialect (.pure (fits_record _ each))

theorem projectionItems_writeBy :
    (items : List NamedProperty) → (before : Context) →
      (projectionItems .standard items).Ensures settings before fun columns _ =>
        List.Forall₂ (fun pieces column => Fits pieces (column.2.1 ++ " AS " ++ column.1))
          (NamedProperty.outlines settings.dialect items) columns
  | [], _ => by
      simp only [projectionItems, NamedProperty.outlines]
      exact .pure .nil
  | .mk name item :: rest, before => by
      simp only [projectionItems, projectionItem, NamedProperty.outlines, NamedProperty.outline]
      have first (start : Context) : Ensures
          (do let text ← Resolvers.standard.fragment item (answer .standard item)
              return (name, text, item.valueType)) settings start fun column _ =>
            Fits (item.outline settings.dialect ++ [.words " AS ", .gap])
              (column.2.1 ++ " AS " ++ column.1) :=
        (writesBy_fragment (answer_answersBy item) start).bind fun text after fits => .pure (by
          simpa [String.append_assoc] using fits.append ((fits_gap name).afterWords " AS "))
      refine (first before).bind fun column between fits => ?_
      exact (projectionItems_writeBy rest between).bind fun columns after each =>
        .pure (.cons fits each)

theorem target_writesBy :
    (found : Target) →
      WritesBy settings (found.outline settings.dialect) (target .standard found)
  | .mk name entity aliasName joined => by
      simp only [target, Target.outline]
      intro before
      have bound : (introduce (.mk name entity aliasName joined)).Ensures settings before
          fun _ _ => True := fun _ _ _ => trivial
      refine bound.bind fun binding between _ => ?_
      exact (joins_writeBy joined between).bind fun text after fits =>
        .pure (fits.afterGap binding.declaration)

theorem joins_writeBy :
    (joined : List Join) →
      WritesBy settings (Join.outlines settings.dialect joined) (joins .standard joined)
  | [] => by
      simp only [joins, Join.outlines]
      exact fun before => .pure rfl
  | first :: rest => by
      simp only [joins, Join.outlines]
      intro before
      refine (join_writesBy first before).bind fun text between fits => ?_
      exact (joins_writeBy rest between).bind fun texts after fitsRest => .pure (fits.append fitsRest)

theorem join_writesBy :
    (found : Join) → WritesBy settings (found.outline settings.dialect) (join .standard found)
  | .mk joinType (.mk name entity aliasName joined) condition => by
      simp only [join, innerJoins, Join.outline, Target.joinOutline]
      intro before
      have bound : (introduceJoined joinType (.mk name entity aliasName joined)).Ensures settings
          before fun _ _ => True := fun _ _ _ => trivial
      refine bound.bind fun binding between _ => ?_
      refine (joinCondition_writesBy condition between).bind fun text between' fits => ?_
      refine (joins_writeBy joined between').bind fun inner after fitsInner => .pure ?_
      have declared := ((fits.append fitsInner).afterGap binding.declaration).afterWords
        (" " ++ joinType.keyword ++ " ")
      simpa [String.append_assoc] using declared

theorem joinCondition_writesBy :
    (condition : Option Filter) →
      WritesBy settings (Filter.clause settings.dialect " ON " condition)
        (joinCondition .standard condition)
  | none => by
      simp only [joinCondition, Filter.clause]
      exact fun before => .pure rfl
  | some condition => by
      simp only [joinCondition, Filter.clause]
      intro before
      exact (writesBy_predicate (fun _ => filter_answersBy condition) before).bind
        fun text after fits => .pure (fits.afterWords " ON ")

theorem subQuery_writesBy :
    (query : SubQuery) →
      WritesBy settings (query.outline settings.dialect) (subQuery .standard query)
  | .mk queried condition selected correlations => by
      simp only [subQuery, SubQuery.outline]
      intro before
      refine .bindContext (.inChild ?_)
      have correlated : (checkCorrelations correlations).Ensures settings
          (before.enter (childMode before.current.aliasMode)) fun _ _ => True := fun _ _ _ => trivial
      refine correlated.bind fun _ between _ => ?_
      refine (SelectDraft.withTarget_ensures
        (writesBy_fragment (fun _ => (target_writesBy queried).answers) between)).bind ?_
      rintro _ _ ⟨source, rfl, fitsSource⟩
      refine (conditionStage_writesBy condition _ rfl).bind ?_
      rintro _ _ ⟨stage, found, rfl, fitsCondition⟩
      refine (SelectDraft.withProjection_ensures (plansBy_plan (fun valid =>
        (projection_plansBy selected (by
          simpa [Expression.validate, Validation.expression] using valid)).answers) _)).bind ?_
      rintro _ _ ⟨plan, rfl, fitsPlan⟩
      refine (SelectDraft.assemble_ensures rfl rfl).bind ?_
      rintro _ _ ⟨rfl, rfl⟩
      have ungrouped : Fits [] (SelectDraft.clause "" none) := rfl
      have finished : Fits [.finish] (SelectDraft.clause "" none) := ⟨"", "", rfl, rfl, rfl⟩
      have pieces : .select :: selected.outline settings.dialect ++ .words " FROM " ::
            (queried.outline settings.dialect ++
              (Filter.clause settings.dialect " WHERE " condition ++ [.finish])) =
          .select :: marked false (selected.outline settings.dialect ++ .words " FROM " ::
            (queried.outline settings.dialect ++
              Filter.clause settings.dialect " WHERE " condition ++ [] ++ [.finish])) := by
        simp [marked]
      rw [pieces]
      exact .pure (fits_wording .select rfl fitsPlan fitsSource fitsCondition ungrouped finished)

theorem conditionStage_writesBy :
    (condition : Option Filter) → {draft : SelectDraft} → (before : Context) →
      (missing : draft.condition = none) →
      (conditionStage .standard draft condition).Ensures settings before fun draft' _ =>
        ∃ stage found, draft' = { draft with stage, condition := found } ∧
          Fits (Filter.clause settings.dialect " WHERE " condition)
            (SelectDraft.clause "WHERE " found)
  | none, draft, _, missing => by
      simp only [conditionStage, Filter.clause]
      exact .pure ⟨draft.stage, none, by rw [← missing], rfl⟩
  | some condition, draft, before, _ => by
      simp only [conditionStage, Filter.clause]
      refine (SelectDraft.withFilter_ensures
        (writesBy_predicate (fun _ => filter_answersBy condition) before)).weaken ?_
      rintro _ _ ⟨text, rfl, fits⟩
      exact ⟨.filter, some text, rfl, fits.afterWords " WHERE "⟩

end

end Outline
end ObjectQuery
