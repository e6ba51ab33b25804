import ObjectQuery.Codec.Catalog
import ObjectQuery.Compiler.Basic
import ObjectQuery.Evaluation.Basic

/-!
# Errors in JSON

An error is written as a variant named for its kind. Its report is a record of that
name, the message and the variant; a report of a resolution also says whether the
platform is at fault and how bad the error is, and one of a compilation the stage in
which it arose.
-/

namespace ObjectQuery

/-- The record of an error's kind, message and detail. -/
def Json.report (kind message : String) (detail : Json) : List (String × Json) :=
  [("error", .string kind), ("message", .string message), ("detail", detail)]

namespace NodeFault

/-- A rejected node in JSON. -/
def toJson (fault : NodeFault) : Json :=
  .object [("expression", .string fault.expression), ("reason", .string fault.reason)]

/-- The report of a rejected node. -/
def report (fault : NodeFault) : Json :=
  .object (Json.report "Invalid" fault.message fault.toJson)

end NodeFault

namespace CatalogError

/-- The kind of a catalog error. -/
def kind : CatalogError → String
  | .entityNotFound _ _ => "EntityNotFound"
  | .configuration _ => "ConfigurationError"

/-- A catalog error in JSON. -/
def toJson (error : CatalogError) : Json :=
  .tagged error.kind
    (match error with
      | .entityNotFound name scope =>
          .object [("name", .string name), ("scope", .string scope)]
      | .configuration reason => .string reason)

/-- The report of a catalog error. -/
def report (error : CatalogError) : Json :=
  .object (Json.report error.kind error.message error.toJson)

end CatalogError

/-- The report of a text that gives no catalog. -/
def CatalogSourceError.report : CatalogSourceError → Json
  | .malformed => .tagged "error" (.string "SerializationError")
  | .rejected error => error.report

/-- The name of a severity. -/
def Severity.name : Severity → String
  | .warning => "Warning"
  | .error => "Error"
  | .bug => "Bug"

namespace ResolutionError

/-- The kind of a resolution error. -/
def kind : ResolutionError → String
  | .unresolvable _ _ => "Unresolvable"
  | .invalid _ => "Invalid"
  | .unsupported _ _ => "Unsupported"
  | .missingTarget _ | .joinWithoutAlias _ => "MissingContextState"
  | .emptyPredicate => "EmptyPredicate"
  | .duplicateAlias _ => "DuplicateAlias"
  | .nestingLimit _ _ => "RecursionLimitExceeded"
  | .catalog _ => "Catalog"
  | .build _ => "Build"

/-- What a resolution error holds, if it holds anything. -/
def content? (error : ResolutionError) : Option Json :=
  match error with
  | .unresolvable kind output =>
      some (.object [("kind", .string kind), ("output", .string output.name)])
  | .invalid fault => some fault.toJson
  | .unsupported construct platform =>
      some (.object [("construct", .string construct), ("platform", .string platform)])
  | .missingTarget _ | .joinWithoutAlias _ => some (.ofText? error.missingState?)
  | .emptyPredicate => none
  | .duplicateAlias aliasName => some (.string aliasName)
  | .nestingLimit depth limit =>
      some (.object
        [("context", .string nestingContext),
          ("depth", .ofNat depth),
          ("limit", .ofNat limit)])
  | .catalog found => some found.toJson
  | .build reason => some (.string reason)

/-- A resolution error in JSON. -/
def toJson (error : ResolutionError) : Json :=
  match error.content? with
  | some content => .tagged error.kind content
  | none => .string error.kind

/-- The fields of the report of a resolution error. -/
def reportFields (error : ResolutionError) : List (String × Json) :=
  Json.report error.kind error.message error.toJson ++
    [("unsupported", .bool error.isUnsupported), ("severity", .string error.severity.name)]

/-- The report of a resolution error. -/
def report (error : ResolutionError) : Json :=
  .object error.reportFields

end ResolutionError

namespace ConfigurationError

/-- The kind of a configuration error. -/
def kind : ConfigurationError → String
  | .parameterPrefix _ => "InvalidParameterPrefix"
  | .parameterMarker _ => "InvalidParameterMarker"
  | .escapeCharacter _ => "InvalidEscapeChar"
  | .maxDepth => "InvalidMaxDepth"
  | .catalogScope => "EmptyCatalogScope"
  | .unknownPlatform _ => "UnknownPlatform"
  | .sectionNotObject | .textExpected _ _ | .malformedSection => "InvalidSettings"

/-- A configuration error in JSON. -/
def toJson (error : ConfigurationError) : Json :=
  match error with
  | .parameterPrefix given | .unknownPlatform given => .tagged error.kind (.string given)
  | .parameterMarker given | .escapeCharacter given =>
      .tagged error.kind (.string (String.singleton given))
  | .maxDepth | .catalogScope => .string error.kind
  | .sectionNotObject | .textExpected _ _ | .malformedSection =>
      .tagged error.kind (.ofText? error.settingsReason?)

/-- The fields of the report; of a malformed section nothing but the kind is said. -/
def reportFields (error : ConfigurationError) : List (String × Json) :=
  match error with
  | .malformedSection => [("error", .string error.kind)]
  | _ => Json.report error.kind error.message error.toJson

/-- The report of a configuration error. -/
def report (error : ConfigurationError) : Json :=
  .object error.reportFields

end ConfigurationError

/-- The report of a compilation error. -/
def CompileError.report (error : CompileError) : Json :=
  match error with
  | .resolve found => .object (found.reportFields ++ [("stage", .string "Resolve")])
  | .config found =>
      .object (found.reportFields ++
        [("unsupported", .bool error.isUnsupported),
          ("severity", .string error.severity.name),
          ("stage", .string "Config")])

namespace RowError

/-- The kind of a conversion error. -/
def kind : RowError → String
  | .typeMismatch _ _ => "TypeMismatch"
  | .missingColumn _ => "MissingColumn"
  | .arityMismatch _ _ => "ArityMismatch"
  | .shapeMismatch _ _ => "ShapeMismatch"

/-- A conversion error in JSON. -/
def toJson (error : RowError) : Json :=
  .tagged error.kind
    (match error with
      | .typeMismatch expected found | .shapeMismatch expected found =>
          .object [("expected", .string expected), ("found", .string found)]
      | .missingColumn name => .string name
      | .arityMismatch expected found =>
          .object [("expected", .ofNat expected), ("found", .ofNat found)])

/-- The report of a conversion error. -/
def report (error : RowError) : Json :=
  .object (Json.report error.kind error.message error.toJson)

end RowError

namespace EvaluationError

/-- The kind of an evaluation error. -/
def kind : EvaluationError → String
  | .unknownProperty _ => "UnknownProperty"
  | .unsupported _ => "Unsupported"
  | .parameterCount _ _ => "ParameterCount"
  | .malformedPattern _ => "MalformedPattern"

/-- The report of an evaluation error. -/
def report (error : EvaluationError) : Json :=
  .object [("error", .string error.kind), ("message", .string error.message)]

end EvaluationError
end ObjectQuery
