import ObjectQuery.Expression.Build

/-!
# Sample custom nodes

Nodes of a host: a row number, another node of the same name but of its own type, a
choice of the first value, and a node that is never valid. Each may stand in the
places where other nodes hold one.
-/

namespace ObjectQuery
namespace Sample

/-- The sample node with a name. -/
def customNode? : String → Option CustomNode
  | "rownum" => some ⟨"rownum", "rownum", .integer, none⟩
  | "rownum_twin" => some ⟨"rownum_twin", "rownum", .any, none⟩
  | "coalesce" => some ⟨"coalesce", "coalesce", .any, none⟩
  | "broken" => some ⟨"broken", "broken", .any, some ⟨"broken", "always invalid"⟩⟩
  | _ => none

/-- A node in the place that a word names; without a word the node alone. -/
def within? (node : Expression) : Option String → Option Expression
  | none => some node
  | some "compare_left" => some (.filter (.compare node .equal (.constant (.integer 1))))
  | some "compare_right" =>
      some (.filter (.compare (.path (Path.of "price" .decimal)) (.less false) node))
  | some "is_null" => some (.filter (.isNull node))
  | some "in_left" => some (.filter (.inValues node (.list [.integer 1, .integer 2])))
  | some "in_right" => some (.filter (.isIn (.path (Path.untyped "id")) node))
  | some "match_left" => some (.filter (Filter.matching .contains node "a%").ignoringCase)
  | some "function" => some (.function (.unary .max node))
  | some "sort" => some (.sort [.mk node .descending])
  | some "group_by" => some (.aggregation (Aggregation.by [node]))
  | some "property" => some (.projection (.properties [.mk "c" node]))
  | some _ => none

end Sample
end ObjectQuery
