import ObjectQuery.Codec.FunctionSpelling
import ObjectQuery.Compiler.Configuration
import ObjectQuery.Json.Writer

/-!
# Configurations in JSON

A configuration is a record all of whose fields may be left out and which has no
others. The settings of a host hold it in a section of their own, where the platform
is given by a name in any usual spelling, or found from the name of a provider.
-/

namespace ObjectQuery

/-- An alias mode in JSON. -/
def AliasPolicy.toJson : AliasPolicy → Json
  | .default => .string "default"
  | .auto => .string "auto"
  | .unsupported => .string "unsupported"

/-- The alias mode that a document writes. -/
def AliasPolicy.ofJson? (json : Json) : Option AliasPolicy :=
  match json.unitVariant? with
  | some "default" => some .default
  | some "auto" => some .auto
  | some "unsupported" => some .unsupported
  | _ => none

namespace Configuration

/-- A configuration in JSON. -/
def toJson (config : Configuration) : Json :=
  .object
    [("platform", config.platform.toJson),
      ("aliasMode", config.aliasMode.toJson),
      ("parameterPrefix", .string config.parameterPrefix),
      ("parameterMarker", .string (String.singleton config.parameterMarker)),
      ("escapeChar", .string (String.singleton config.escapeCharacter)),
      ("logStatements", .bool config.logStatements),
      ("maxDepth", .ofNat config.maxDepth),
      ("catalogScope", .string config.catalogScope)]

/-- The names of a configuration's fields. -/
def fieldNames : List String :=
  ["platform", "aliasMode", "parameterPrefix", "parameterMarker", "escapeChar",
    "logStatements", "maxDepth", "catalogScope"]

/-- The configuration that a document describes. -/
def ofJson? (json : Json) : Option Configuration := do
  let usual := standard .unknown
  let fields ← json.recordWith? fieldNames 0
  if fields.all fun field => fieldNames.contains field.1 then
    let platform ← Json.withDefault? Platform.ofJson? usual.platform "platform" fields
    let aliasMode ← Json.withDefault? AliasPolicy.ofJson? usual.aliasMode "aliasMode" fields
    let parameterPrefix ←
      Json.withDefault? Json.text? usual.parameterPrefix "parameterPrefix" fields
    let parameterMarker ←
      Json.withDefault? Json.character? usual.parameterMarker "parameterMarker" fields
    let escapeCharacter ←
      Json.withDefault? Json.character? usual.escapeCharacter "escapeChar" fields
    let logStatements ←
      Json.withDefault? Json.bool? usual.logStatements "logStatements" fields
    let maxDepth ← Json.withDefault? Json.word? usual.maxDepth "maxDepth" fields
    let catalogScope ← Json.withDefault? Json.text? usual.catalogScope "catalogScope" fields
    return ⟨platform, aliasMode, parameterPrefix, parameterMarker, escapeCharacter,
      logStatements, maxDepth, catalogScope⟩
  else
    none

/-- The platform that a section gives by name, or by provider. -/
def platformOf (platform provider : Option Json) : Except ConfigurationError Platform :=
  match platform, provider with
  | some (.string name), _ =>
      match Platform.ofName? name with
      | some platform => .ok platform
      | none => .error (.unknownPlatform name)
  | some other, _ => .error (.textExpected "platform" other.compact)
  | none, some (.string provider) => .ok (Platform.detect provider)
  | none, some other => .error (.textExpected "provider" other.compact)
  | none, none => .ok .unknown

/-- The configuration of a section, before it is checked. -/
def ofSection (fields : List (String × Json)) : Except ConfigurationError Configuration :=
  let others := fields.filter fun field => field.1 ≠ "platform" ∧ field.1 ≠ "provider"
  match ofJson? (.object others) with
  | none => .error .malformedSection
  | some config => do
      let platform ← platformOf (Json.field? "platform" fields) (Json.field? "provider" fields)
      .ok { config with platform }

/-- The checked configuration in the settings of a host; without a section the usual one. -/
def ofSettings (settings : Json) : Except ConfigurationError Configuration := do
  let config ←
    match settings.fields?.bind (Json.field? settingsSection) with
    | none => .ok (standard .unknown)
    | some (.object fields) => ofSection fields
    | some _ => .error .sectionNotObject
  config.validate
  .ok config

end Configuration
end ObjectQuery
