import ObjectQuery.Composition.Select
import ObjectQuery.Text.Case

/-!
# The library's own resolvers

How each kind of node is written. The parts of a node are resolved through the
registry, so that the host's resolvers may answer for any of them; what is defined
here is only what the library itself says of a node whose parts are resolved.

Filters put sub-queries that they compare between parentheses. A constant that
stands right of an operand is bound with the operand's type.
-/

namespace ObjectQuery
namespace BuiltIn

open Resolution

/-- The alias of the target that a path belongs to: the one it names, else the root target. -/
def owningAlias (path : Path) : Resolution (Option String) :=
  match path.qualifier? with
  | some qualifier => qualifyingAlias qualifier
  | none => do
      let context ← context
      return context.rootTarget?.bind BoundTarget.aliasName

/-- A path after the alias of its target, if that has one. -/
def path (path : Path) : Resolution String := do
  let aliasName ← owningAlias path
  match aliasName with
  | some aliasName => return aliasName ++ "." ++ path.fullName
  | none => return path.fullName

/-- The type with which a value is bound: the expected one if it says anything. -/
def bindingType (hint : Option ValueType) (value : Value) : ValueType :=
  match hint with
  | some (.list .any) | some .any | none => value.valueType
  | some (.list element) => element
  | some expected => expected

/-- A value bound with the expected type. -/
def bindValue (value : Value) : Resolution String := do
  let context ← context
  newReference value (bindingType context.hint value)

/-- The items of a list, each bound on its own. -/
def bindItems : List Value → Resolution (List String)
  | [] => return []
  | item :: rest => do
      let reference ← bindValue item
      let references ← bindItems rest
      return reference :: references

/-- A constant: null is written, a list binds its items, other values are bound. -/
def constant : Value → Resolution String
  | .null => return "NULL"
  | .list items => do
      let references ← bindItems items
      return ",".intercalate references
  | value => bindValue value

/-- A call with written arguments, as the dialect spells it. -/
def spelled (kind : FunctionKind) (arguments : List String) (distinct : Bool) :
    Resolution String := do
  let dialect ← dialect
  ofExcept (dialect.callText kind arguments distinct)

/-- An operand's text, between parentheses if it is a sub-query. -/
def enclose (operand : Expression) (text : String) : String :=
  match operand with
  | .subQuery _ => "(" ++ text ++ ")"
  | _ => text

/-- Conditions between parentheses, joined by a word. -/
def joinConditions (word : String) (conditions : List String) : String :=
  (" " ++ word ++ " ").intercalate (conditions.map fun text => "(" ++ text ++ ")")

/-- The text that a string match looks for. -/
def matchedText (value : Expression) : Resolution String :=
  match value.constant?.bind Value.text? with
  | some text => return text
  | none => fail (.invalid ⟨"filter", "string match has no right operand"⟩)

/-- The written left side of a string match, in small letters where case does not count. -/
def matchSubject (left : String) (ignoreCase : Bool) : Resolution String :=
  if ignoreCase then spelled .lower [left] false else return left

/-- The pattern that a string match binds. -/
def matchPattern (dialect : Dialect) (text : String) (mode : MatchMode) (ignoreCase : Bool) :
    String :=
  let escaped := dialect.escapePattern text
  Text.Pattern.wrap mode (if ignoreCase then Text.lowercase escaped else escaped)

/-- A string match whose left side is written. -/
def matchText (left text : String) (mode : MatchMode) (ignoreCase : Bool) :
    Resolution String := do
  let dialect ← dialect
  let subject ← matchSubject left ignoreCase
  let reference ← newReference (.string (matchPattern dialect text mode ignoreCase)) .string
  return subject ++ " LIKE " ++ reference ++ " " ++ dialect.escapeSuffix

/-- The target that a projection selects as a whole: the named one, else the root target. -/
def selectedTarget (name : Option String) : Resolution BoundTarget :=
  match name with
  | some name => lookup name
  | none => do
      let context ← context
      match context.rootTarget? with
      | some binding => return binding
      | none => fail (.missingTarget "root")

/-- The plan of a whole entity. -/
def entityPlan (name : Option String) : Resolution ProjectionPlan := do
  let binding ← selectedTarget name
  return ⟨[⟨binding.reference, none⟩], .scalar (.entity binding.entity), .entity binding.entity⟩

/-- The plan of every attribute that the catalog lists for the root target. -/
def attributesPlan : Resolution ProjectionPlan := do
  let context ← context
  match context.rootTarget? with
  | none => fail (.missingTarget "root")
  | some binding =>
      if binding.attributes.isEmpty then
        unsupported ("select all of " ++ binding.entity ++ " without catalog attributes")
      else do
        let dialect ← dialect
        return .record dialect.recordShape
          (binding.attributes.map fun found =>
            (found.name, binding.qualify found.name, found.valueType))

/-- The plan of the number of rows. -/
def countPlan : Resolution ProjectionPlan := do
  let context ← context
  let counted := (context.rootTarget?.bind BoundTarget.aliasName).getD "*"
  let text ← spelled .count [counted] false
  return .scalar text none .integer

/-- The plan of a constant, which is written into the select list. -/
def constantPlan (value : Value) : Resolution ProjectionPlan := do
  let dialect ← dialect
  let text ← ofExcept (dialect.literalText value)
  return ⟨[⟨text, none⟩], .scalar value.valueType, .constant value⟩

/-- A joined target is bound; the platform must join entities, and the scope alias them. -/
def introduceJoined (joinType : JoinType) (target : Target) : Resolution BoundTarget := do
  let dialect ← dialect
  let context ← context
  if !dialect.supports .entityJoins || context.current.aliasMode == .unsupported then
    unsupported (joinType.keyword ++ " of " ++ target.name)
  else do
    let binding ← introduce target
    match binding.aliasName with
    | some _ => return binding
    | none => fail (.joinWithoutAlias target.name)

/-- The targets that a sub-query reads must be bound around it. -/
def checkCorrelations : List String → Resolution Unit
  | [] => return ()
  | name :: rest => do
      let _ ← aliasOf name
      checkCorrelations rest

/-- A sub-query may always alias its own targets. -/
def childMode : AliasPolicy → AliasPolicy
  | .unsupported => .auto
  | mode => mode

mutual

/-- The library's own answer for a node. -/
def answer (registry : Resolvers) : Expression → Resolution Resolved
  | .path found => do
      let text ← path found
      return .fragment text
  | .constant value => do
      let text ← constant value
      return .fragment text
  | .function call => do
      let text ← function registry call
      return .fragment text
  | .subQuery query => do
      let text ← subQuery registry query
      return .fragment text
  | .filter condition => filter registry condition
  | .sort keys => do
      let items ← sortKeys registry keys
      return .fragment ("ORDER BY " ++ ", ".intercalate items)
  | .aggregation found => do
      let text ← aggregation registry found
      return .fragment text
  | .projection found => do
      let plan ← projection registry found
      return .projection plan
  | .target found => do
      let text ← target registry found
      return .fragment text
  | .custom node => fail (.unresolvable node.kindName .fragment)

/-- A function call, its arguments resolved. -/
def function (registry : Resolvers) : FunctionCall → Resolution String
  | .mk kind arguments distinct => do
      let written ← fragments registry arguments
      spelled kind written distinct

/-- The texts of nodes, one after the other. -/
def fragments (registry : Resolvers) : List Expression → Resolution (List String)
  | [] => return []
  | first :: rest => do
      let text ← registry.fragment first (answer registry first)
      let texts ← fragments registry rest
      return text :: texts

/-- A filter, its operands and conditions resolved. -/
def filter (registry : Resolvers) : Filter → Resolution Resolved
  | .isNull operand => do
      let text ← registry.fragment operand (answer registry operand)
      return .fragment (enclose operand text ++ " IS NULL")
  | .isNotNull operand => do
      let text ← registry.fragment operand (answer registry operand)
      return .fragment (enclose operand text ++ " IS NOT NULL")
  | .compare left operator right => do
      let leftText ← registry.fragment left (answer registry left)
      let rightText ← withHint left.valueType (registry.fragment right (answer registry right))
      return .fragment (enclose left leftText ++ operator.symbol ++ enclose right rightText)
  | .between operand lower upper => do
      let text ← registry.fragment operand (answer registry operand)
      let lowerText ←
        withHint operand.valueType (registry.fragment lower (answer registry lower))
      let upperText ←
        withHint operand.valueType (registry.fragment upper (answer registry upper))
      return .fragment (enclose operand text ++ " BETWEEN " ++ enclose lower lowerText ++
        " AND " ++ enclose upper upperText)
  | .isIn left right => do
      let leftText ← registry.fragment left (answer registry left)
      let rightText ← withHint left.valueType (registry.fragment right (answer registry right))
      return .fragment (enclose left leftText ++ " IN (" ++ rightText ++ ")")
  | .isNotIn left right => do
      let leftText ← registry.fragment left (answer registry left)
      let rightText ← withHint left.valueType (registry.fragment right (answer registry right))
      return .fragment (enclose left leftText ++ " NOT IN (" ++ rightText ++ ")")
  | .stringMatch left value mode ignoreCase => do
      let text ← matchedText value
      let leftText ← registry.fragment left (answer registry left)
      let written ← matchText (enclose left leftText) text mode ignoreCase
      return .fragment written
  | .and [] | .or [] => return .emptyPredicate
  | .and (first :: rest) => do
      let text ← registry.predicate (.filter first) (filter registry first)
      let texts ← predicates registry rest
      return .fragment (joinConditions "AND" (text :: texts))
  | .or (first :: rest) => do
      let text ← registry.predicate (.filter first) (filter registry first)
      let texts ← predicates registry rest
      return .fragment (joinConditions "OR" (text :: texts))
  | .not condition => do
      let text ← registry.predicate (.filter condition) (filter registry condition)
      return .fragment ("NOT (" ++ text ++ ")")
  | .hasRows query => do
      let text ← registry.fragment (.subQuery query) (do
        let text ← subQuery registry query
        return .fragment text)
      return .fragment ("EXISTS (" ++ text ++ ")")
  | .hasNoRows query => do
      let text ← registry.fragment (.subQuery query) (do
        let text ← subQuery registry query
        return .fragment text)
      return .fragment ("NOT EXISTS (" ++ text ++ ")")

/-- The texts of conditions, none of which may be empty. -/
def predicates (registry : Resolvers) : List Filter → Resolution (List String)
  | [] => return []
  | first :: rest => do
      let text ← registry.predicate (.filter first) (filter registry first)
      let texts ← predicates registry rest
      return text :: texts

/-- The texts of sort keys. -/
def sortKeys (registry : Resolvers) : List SortKey → Resolution (List String)
  | [] => return []
  | first :: rest => do
      let text ← sortKey registry first
      let texts ← sortKeys registry rest
      return text :: texts

/-- A sort key with its direction. -/
def sortKey (registry : Resolvers) : SortKey → Resolution String
  | .mk key direction => do
      let text ← registry.fragment key (answer registry key)
      return text ++ " " ++ direction.keyword

/-- A grouping with the condition on its groups. -/
def aggregation (registry : Resolvers) : Aggregation → Resolution String
  | .mk keys having => do
      let texts ← fragments registry keys
      let grouping := "GROUP BY " ++ ", ".intercalate texts
      match having with
      | none => return grouping
      | some condition => do
          let text ← registry.predicate (.filter condition) (filter registry condition)
          return grouping ++ " HAVING " ++ text

/-- The plan of a projection, its parts resolved. -/
def projection (registry : Resolvers) : Projection → Resolution ProjectionPlan
  | .path found => do
      let text ← registry.fragment (.path found) (do
        let text ← path found
        return .fragment text)
      return .scalar text found.aliasName found.valueType
  | .function call => do
      let text ← registry.fragment (.function call) (do
        let text ← function registry call
        return .fragment text)
      return .scalar text none call.resultType
  | .constant value => constantPlan value
  | .target name => entityPlan name
  | .properties items => do
      let columns ← projectionItems registry items
      let dialect ← dialect
      return .record dialect.recordShape columns
  | .selectAll => attributesPlan
  | .countAll => countPlan

/-- The names, texts and types of projected properties. -/
def projectionItems (registry : Resolvers) :
    List NamedProperty → Resolution (List (String × String × ValueType))
  | [] => return []
  | first :: rest => do
      let column ← projectionItem registry first
      let columns ← projectionItems registry rest
      return column :: columns

/-- The name, text and type of a projected property. -/
def projectionItem (registry : Resolvers) :
    NamedProperty → Resolution (String × String × ValueType)
  | .mk name item => do
      let text ← registry.fragment item (answer registry item)
      return (name, text, item.valueType)

/-- The declaration of a target and of the targets joined to it. -/
def target (registry : Resolvers) : Target → Resolution String
  | .mk name entity aliasName joined => do
      let binding ← introduce (.mk name entity aliasName joined)
      let text ← joins registry joined
      return binding.declaration ++ text

/-- The declarations of joins, one after the other. -/
def joins (registry : Resolvers) : List Join → Resolution String
  | [] => return ""
  | first :: rest => do
      let text ← join registry first
      let texts ← joins registry rest
      return text ++ texts

/-- The declaration of a join, its condition, and the joins within it. -/
def join (registry : Resolvers) : Join → Resolution String
  | .mk joinType joined condition => do
      let binding ← introduceJoined joinType joined
      let text ← joinCondition registry condition
      let inner ← innerJoins registry joined
      return " " ++ joinType.keyword ++ " " ++ binding.declaration ++ text ++ inner

/-- The condition of a join, if it has one. -/
def joinCondition (registry : Resolvers) : Option Filter → Resolution String
  | none => return ""
  | some condition => do
      let text ← registry.predicate (.filter condition) (filter registry condition)
      return " ON " ++ text

/-- The declarations of the joins within a target. -/
def innerJoins (registry : Resolvers) : Target → Resolution String
  | .mk _ _ _ joined => joins registry joined

/-- A sub-query, drafted in a scope of its own. -/
def subQuery (registry : Resolvers) : SubQuery → Resolution String
  | .mk queried condition selected correlations => do
      let context ← context
      inChild (childMode context.current.aliasMode) do
        checkCorrelations correlations
        let draft ← SelectDraft.start.withTarget
          (registry.fragment (.target queried) (do
            let text ← target registry queried
            return .fragment text))
        let draft ← conditionStage registry draft condition
        let draft ← draft.withProjection
          (registry.plan (.projection selected) (do
            let plan ← projection registry selected
            return .projection plan))
        let select ← ofExcept draft.assemble
        return select.text

/-- The stage of a sub-query for its condition, if it has one. -/
def conditionStage (registry : Resolvers) (draft : SelectDraft) :
    Option Filter → Resolution SelectDraft
  | none => return draft
  | some condition =>
      draft.withFilter (registry.predicate (.filter condition) (filter registry condition))

end

end BuiltIn

namespace Resolvers

/-- The answer for a node. -/
def resolve (registry : Resolvers) (expression : Expression) (output : OutputKind) :
    Resolution Resolved :=
  registry.dispatch expression output (BuiltIn.answer registry expression)

/-- The text of a node. -/
def fragmentOf (registry : Resolvers) (expression : Expression) :
    Resolution String :=
  registry.fragment expression (BuiltIn.answer registry expression)

/-- The text of a condition, if it is not an empty predicate. -/
def conditionOf? (registry : Resolvers) (expression : Expression) :
    Resolution (Option String) :=
  registry.predicate? expression (BuiltIn.answer registry expression)

/-- The text of a condition that must not be an empty predicate. -/
def conditionOf (registry : Resolvers) (expression : Expression) :
    Resolution String :=
  registry.predicate expression (BuiltIn.answer registry expression)

/-- The plan of a projection. -/
def planOf (registry : Resolvers) (expression : Expression) :
    Resolution ProjectionPlan :=
  registry.plan expression (BuiltIn.answer registry expression)

end Resolvers
end ObjectQuery
