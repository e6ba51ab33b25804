import ObjectQuery.Proofs.Hereditary.Steps

/-!
# Nodes have every hereditary property

The library resolves a node from the answers of a registry for its parts. The proof follows the
mutual recursion of the resolvers; there is nothing else in it than the rules for putting
resolutions together.
-/

namespace ObjectQuery
namespace Resolution
namespace Hereditary

variable {holds : {result : Type} → Resolution result → Prop} (hereditary : Hereditary holds)
variable {registry : Resolvers}

include hereditary

mutual

/-- The library's own answer for a node has every hereditary property. -/
theorem answer (hosts : registry.HostsHave holds) :
    (node : Expression) → holds (BuiltIn.answer registry node)
  | .path found => by
      simp only [BuiltIn.answer]
      exact hereditary.returning (hereditary.path found)
  | .constant value => by
      simp only [BuiltIn.answer]
      exact hereditary.returning (hereditary.constant value)
  | .function call => by
      simp only [BuiltIn.answer]
      exact hereditary.returning (function hosts call)
  | .subQuery query => by
      simp only [BuiltIn.answer]
      exact hereditary.returning (subQuery hosts query)
  | .filter condition => by
      simp only [BuiltIn.answer]
      exact filter hosts condition
  | .sort keys => by
      simp only [BuiltIn.answer]
      exact hereditary.returning (sortKeys hosts keys)
  | .aggregation grouping => by
      simp only [BuiltIn.answer]
      exact hereditary.returning (aggregation hosts grouping)
  | .projection selected => by
      simp only [BuiltIn.answer]
      exact hereditary.returning (projection hosts selected)
  | .target found => by
      simp only [BuiltIn.answer]
      exact hereditary.returning (target hosts found)
  | .custom node => by
      simp only [BuiltIn.answer]
      exact hereditary.fail _

theorem function (hosts : registry.HostsHave holds) :
    (call : FunctionCall) → holds (BuiltIn.function registry call)
  | .mk kind arguments distinct => by
      simp only [BuiltIn.function]
      exact hereditary.bind (fragments hosts arguments) fun _ => hereditary.spelled _ _ _

theorem fragments (hosts : registry.HostsHave holds) :
    (nodes : List Expression) → holds (BuiltIn.fragments registry nodes)
  | [] => by
      simp only [BuiltIn.fragments]
      exact hereditary.pure _
  | first :: rest => by
      simp only [BuiltIn.fragments]
      exact hereditary.bind (hereditary.fragment hosts (answer hosts first)) fun _ =>
        hereditary.returning (fragments hosts rest)

theorem filter (hosts : registry.HostsHave holds) :
    (condition : Filter) → holds (BuiltIn.filter registry condition)
  | .isNull operand | .isNotNull operand => by
      simp only [BuiltIn.filter]
      exact hereditary.returning (hereditary.fragment hosts (answer hosts operand))
  | .compare left _ right | .isIn left right | .isNotIn left right => by
      simp only [BuiltIn.filter]
      refine hereditary.bind (hereditary.fragment hosts (answer hosts left)) fun _ => ?_
      exact hereditary.returning
        (hereditary.withHint _ (hereditary.fragment hosts (answer hosts right)))
  | .between operand lower upper => by
      simp only [BuiltIn.filter]
      refine hereditary.bind (hereditary.fragment hosts (answer hosts operand)) fun _ => ?_
      refine hereditary.bind (hereditary.withHint _ (hereditary.fragment hosts (answer hosts lower)))
        fun _ => ?_
      exact hereditary.returning
        (hereditary.withHint _ (hereditary.fragment hosts (answer hosts upper)))
  | .stringMatch left value mode ignoreCase => by
      simp only [BuiltIn.filter]
      refine hereditary.bind (hereditary.matchedText value) fun _ => ?_
      refine hereditary.bind (hereditary.fragment hosts (answer hosts left)) fun _ => ?_
      exact hereditary.returning (hereditary.matchText _ _ _ _)
  | .and [] | .or [] => by
      simp only [BuiltIn.filter]
      exact hereditary.pure _
  | .and (first :: rest) | .or (first :: rest) => by
      simp only [BuiltIn.filter]
      exact hereditary.bind (hereditary.predicate hosts (filter hosts first)) fun _ =>
        hereditary.returning (predicates hosts rest)
  | .not condition => by
      simp only [BuiltIn.filter]
      exact hereditary.returning (hereditary.predicate hosts (filter hosts condition))
  | .hasRows query | .hasNoRows query => by
      simp only [BuiltIn.filter]
      refine hereditary.returning (hereditary.fragment hosts ?_)
      exact hereditary.returning (subQuery hosts query)

theorem predicates (hosts : registry.HostsHave holds) :
    (conditions : List Filter) → holds (BuiltIn.predicates registry conditions)
  | [] => by
      simp only [BuiltIn.predicates]
      exact hereditary.pure _
  | first :: rest => by
      simp only [BuiltIn.predicates]
      exact hereditary.bind (hereditary.predicate hosts (filter hosts first)) fun _ =>
        hereditary.returning (predicates hosts rest)

theorem sortKeys (hosts : registry.HostsHave holds) :
    (keys : List SortKey) → holds (BuiltIn.sortKeys registry keys)
  | [] => by
      simp only [BuiltIn.sortKeys]
      exact hereditary.pure _
  | .mk key direction :: rest => by
      simp only [BuiltIn.sortKeys, BuiltIn.sortKey]
      refine hereditary.bind ?_ fun _ => hereditary.returning (sortKeys hosts rest)
      exact hereditary.returning (hereditary.fragment hosts (answer hosts key))

theorem aggregation (hosts : registry.HostsHave holds) :
    (grouping : Aggregation) → holds (BuiltIn.aggregation registry grouping)
  | .mk keys none => by
      simp only [BuiltIn.aggregation]
      exact hereditary.returning (fragments hosts keys)
  | .mk keys (some having) => by
      simp only [BuiltIn.aggregation]
      exact hereditary.bind (fragments hosts keys) fun _ =>
        hereditary.returning (hereditary.predicate hosts (filter hosts having))

theorem projection (hosts : registry.HostsHave holds) :
    (selected : Projection) → holds (BuiltIn.projection registry selected)
  | .path found => by
      simp only [BuiltIn.projection]
      refine hereditary.returning (hereditary.fragment hosts ?_)
      exact hereditary.returning (hereditary.path found)
  | .function call => by
      simp only [BuiltIn.projection]
      refine hereditary.returning (hereditary.fragment hosts ?_)
      exact hereditary.returning (function hosts call)
  | .constant value => by
      simp only [BuiltIn.projection]
      exact hereditary.constantPlan value
  | .target name => by
      simp only [BuiltIn.projection]
      exact hereditary.entityPlan name
  | .properties items => by
      simp only [BuiltIn.projection]
      exact hereditary.bind (projectionItems hosts items) fun _ =>
        hereditary.returning hereditary.dialect
  | .selectAll => by
      simp only [BuiltIn.projection]
      exact hereditary.attributesPlan
  | .countAll => by
      simp only [BuiltIn.projection]
      exact hereditary.countPlan

theorem projectionItems (hosts : registry.HostsHave holds) :
    (items : List NamedProperty) → holds (BuiltIn.projectionItems registry items)
  | [] => by
      simp only [BuiltIn.projectionItems]
      exact hereditary.pure _
  | .mk name item :: rest => by
      simp only [BuiltIn.projectionItems, BuiltIn.projectionItem]
      refine hereditary.bind ?_ fun _ => hereditary.returning (projectionItems hosts rest)
      exact hereditary.returning (hereditary.fragment hosts (answer hosts item))

theorem target (hosts : registry.HostsHave holds) :
    (found : Target) → holds (BuiltIn.target registry found)
  | .mk name entity aliasName joined => by
      simp only [BuiltIn.target]
      exact hereditary.bind (hereditary.introduce _) fun _ =>
        hereditary.returning (joins hosts joined)

theorem joins (hosts : registry.HostsHave holds) :
    (joined : List Join) → holds (BuiltIn.joins registry joined)
  | [] => by
      simp only [BuiltIn.joins]
      exact hereditary.pure _
  | .mk joinType (.mk name entity aliasName within) none :: rest => by
      simp only [BuiltIn.joins, BuiltIn.join, BuiltIn.joinCondition, BuiltIn.innerJoins]
      refine hereditary.bind ?_ fun _ => hereditary.returning (joins hosts rest)
      refine hereditary.bind (hereditary.introduceJoined _ _) fun _ => ?_
      exact hereditary.bind (hereditary.pure _) fun _ => hereditary.returning (joins hosts within)
  | .mk joinType (.mk name entity aliasName within) (some condition) :: rest => by
      simp only [BuiltIn.joins, BuiltIn.join, BuiltIn.joinCondition, BuiltIn.innerJoins]
      refine hereditary.bind ?_ fun _ => hereditary.returning (joins hosts rest)
      refine hereditary.bind (hereditary.introduceJoined _ _) fun _ => ?_
      refine hereditary.bind ?_ fun _ => hereditary.returning (joins hosts within)
      exact hereditary.returning (hereditary.predicate hosts (filter hosts condition))

theorem subQuery (hosts : registry.HostsHave holds) :
    (query : SubQuery) → holds (BuiltIn.subQuery registry query)
  | .mk queried condition selected correlations => by
      simp only [BuiltIn.subQuery]
      refine hereditary.reading (fun context => hereditary.inChild _ ?_) fun _ _ => rfl
      refine hereditary.bind (hereditary.checkCorrelations _) fun _ => ?_
      refine hereditary.bind (hereditary.withTarget (hereditary.fragment hosts ?_) _)
        fun draft => ?_
      · exact hereditary.returning (target hosts queried)
      refine hereditary.bind (conditionStage hosts draft condition) fun draft => ?_
      refine hereditary.bind (hereditary.withProjection (hereditary.plan hosts ?_) _)
        fun draft => ?_
      · exact hereditary.returning (projection hosts selected)
      exact hereditary.returning (hereditary.ofExcept _)

theorem conditionStage (hosts : registry.HostsHave holds) (draft : SelectDraft) :
    (condition : Option Filter) → holds (BuiltIn.conditionStage registry draft condition)
  | none => by
      simp only [BuiltIn.conditionStage]
      exact hereditary.pure _
  | some condition => by
      simp only [BuiltIn.conditionStage]
      exact hereditary.withFilter (hereditary.predicate hosts (filter hosts condition)) draft

end

end Hereditary
end Resolution
end ObjectQuery
