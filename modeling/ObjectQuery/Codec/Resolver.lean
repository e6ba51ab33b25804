import ObjectQuery.Codec.FunctionSpelling
import ObjectQuery.Codec.NodeReader
import ObjectQuery.Resolution.BuiltIn
import ObjectQuery.Resolution.Scripted
import ObjectQuery.Sample.Custom

/-!
# Described resolvers, registries and dialects

A registry is described by the scripts of its resolvers, before and after the
library's own, and a dialect by what differs from the usual one on its platform.
Wherever a node may be a custom one, it is given by name, alone or within another.
-/

namespace ObjectQuery

/-- The node that a document describes, which may be or hold a sample custom node. -/
def Expression.ofExtendedJson? (json : Json) : Option Expression :=
  match json.fields?.bind (Json.field? "custom") with
  | some (.string name) => do
      let fields ← json.fields?
      let node ← Sample.customNode? name
      let form ← Json.optional? Json.text? "wrap" fields
      Sample.within? (.custom node) form
  | _ => Expression.ofJson? json

namespace Resolver

/-- The kind of node with a name. -/
def kindNamed? (name : String) : Option ExpressionKind :=
  (ExpressionKind.own.find? fun kind => kind.name = name).or
    ((Sample.customNode? name).map fun node => (Expression.custom node).kind)

/-- The output that a word asks for. -/
def outputNamed : Option Json → OutputKind
  | some (.string "projection") => .projection
  | _ => .fragment

/-- What a script does, given the text it may answer. -/
def action? (name text : String) (fields : List (String × Json)) : Option ScriptedAction :=
  match name with
  | "pass" => some .pass
  | "text" => some (.answer (.fragment text))
  | "empty" => some (.answer .emptyPredicate)
  | "fail" => some (.fail text)
  | "project" => do
      let fragments ← Json.required? (Json.list? Json.text?) "fragments" fields
      let column ← Json.optional? Json.word? "column" fields
      return .answer (.projection (.scripted fragments column))
  | _ => none

/-- The scripted resolver that a document describes. -/
def ofJson? (json : Json) : Option Resolver := do
  let fields ← json.fields?
  let kind ← (Json.required? Json.text? "kind" fields).bind kindNamed?
  let start ← Json.optional? Json.text? "when_prefix" fields
  let bound ← Json.optional? (Json.list? Value.ofExtendedJson?) "bind" fields
  let name ← Json.required? Json.text? "action" fields
  let text ← Json.optional? Json.text? "text" fields
  let action ← action? name (text.getD "") fields
  return scripted kind (outputNamed (Json.field? "output" fields)) start (bound.getD []) action

end Resolver

/-- The registry that a document describes. -/
def Resolvers.ofJson? (json : Json) : Option Resolvers := do
  let fields ← json.fields?
  let builtIn ← Json.optional? Json.bool? "builtin" fields
  let user ← Json.optional? (Json.list? Resolver.ofJson?) "user" fields
  let fallback ← Json.optional? (Json.list? Resolver.ofJson?) "fallback" fields
  return ⟨user.getD [], builtIn.getD true, fallback.getD []⟩

/-- A platform with a spelling for it. -/
def SpellingRegistry.entryOf? (json : Json) : Option (Platform × FunctionSpelling) := do
  let fields ← json.fields?
  let platform ← Json.required? Platform.ofJson? "platform" fields
  let spelling ← Json.required? FunctionSpelling.ofJson? "metadata" fields
  return (platform, spelling)

/-- The registry of the spellings that a document lists. -/
def SpellingRegistry.ofJson? (json : Json) : Option SpellingRegistry := do
  let entries ← Json.list? entryOf? json
  return entries.foldl (fun registry entry => registry.register entry.1 entry.2) standard

/-- The dialect that a document describes. -/
def Dialect.ofJson? (json : Json) : Option Dialect := do
  let fields ← json.fields?
  let platform ← Json.optional? Platform.ofJson? "platform" fields
  let escape ← Json.optional? Json.character? "escape" fields
  let marker ← Json.optional? Json.character? "marker" fields
  let start ← Json.optional? Json.text? "prefix" fields
  let functions ← Json.optional? SpellingRegistry.ofJson? "functions" fields
  let usual := standard (platform.getD .unknown)
  return { usual with
    functions := functions.getD usual.functions
    escapeCharacter := escape.getD usual.escapeCharacter
    parameterMarker := marker.getD usual.parameterMarker
    parameterPrefix := start.getD usual.parameterPrefix }

end ObjectQuery
