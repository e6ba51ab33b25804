import ObjectQuery.Dialect
import ObjectQuery.Resolution.Context
import ObjectQuery.Text.Blank
import ObjectQuery.Text.Identifier

/-!
# Configuration of a compiler

The platform and the textual conventions of the statements. A configuration is
accepted when parameter names and references cannot be taken for identifiers,
literals or wildcards, and when nesting depth and catalog scope are usable.
-/

namespace ObjectQuery

/-- The settings of a compiler. -/
structure Configuration where
  platform : Platform
  aliasMode : AliasPolicy
  parameterPrefix : String
  parameterMarker : Char
  escapeCharacter : Char
  /-- Whether each statement is reported; this does not change the statement. -/
  logStatements : Bool
  maxDepth : Nat
  catalogScope : String
  deriving DecidableEq, Repr

/-- Why a configuration is rejected. -/
inductive ConfigurationError where
  | parameterPrefix (given : String)
  | parameterMarker (given : Char)
  | escapeCharacter (given : Char)
  | maxDepth
  | catalogScope
  | unknownPlatform (name : String)
  /-- The section of the settings is no object. -/
  | sectionNotObject
  /-- A field that must be a text holds something else, given by its compact JSON text. -/
  | textExpected (field found : String)
  /-- The section has a field that is not known, or content of a wrong form. -/
  | malformedSection
  deriving DecidableEq, Repr

/-- The name of the compiler's section in the settings of a host. -/
def settingsSection : String :=
  "unifiedQuery"

/-- What is said of settings that do not hold a configuration, where more is known than that. -/
def ConfigurationError.settingsReason? : ConfigurationError → Option String
  | .sectionNotObject => some ("'" ++ settingsSection ++ "' must be an object")
  | .textExpected field found => some (field ++ " must be a string, got " ++ found)
  | _ => none

/-- The message of a configuration error. -/
def ConfigurationError.message : ConfigurationError → String
  | .parameterPrefix given => "Parameter prefix '" ++ given ++ "' is not an identifier"
  | .parameterMarker given =>
      "Parameter marker '" ++ String.singleton given ++
        "' cannot introduce a parameter reference"
  | .escapeCharacter given =>
      "'" ++ String.singleton given ++ "' cannot be used as LIKE escape character"
  | .maxDepth => "Maximum nesting depth must be > 0"
  | .catalogScope => "Catalog scope is empty"
  | .unknownPlatform name => "Unknown platform '" ++ name ++ "'"
  | .malformedSection => "Invalid settings"
  | other => "Invalid settings: " ++ other.settingsReason?.getD ""

namespace Configuration

/-- The usual settings on a platform. -/
def standard (platform : Platform) : Configuration :=
  ⟨platform, .auto, "p", ':', '!', false, standardDepthLimit, "default"⟩

instance : Inhabited Configuration :=
  ⟨standard .unknown⟩

/-- Punctuation that may not introduce a parameter reference. -/
def forbiddenMarkers : List Char :=
  [Text.quoteMark, '(', ')', ',', '.', '%', '_']

/-- Punctuation that may not escape a wildcard. -/
def forbiddenEscapes : List Char :=
  ['%', '_', Text.quoteMark]

/-- Whether a character can introduce a parameter reference. -/
def isMarker (character : Char) : Bool :=
  Text.isPunctuation character && !forbiddenMarkers.contains character

/-- Whether a character can escape a wildcard. -/
def isEscape (character : Char) : Bool :=
  Text.isPunctuation character && !forbiddenEscapes.contains character

/-- The check of a configuration. -/
def validate (config : Configuration) : Except ConfigurationError Unit :=
  if !Text.isIdentifier config.parameterPrefix then
    .error (.parameterPrefix config.parameterPrefix)
  else if !isMarker config.parameterMarker then
    .error (.parameterMarker config.parameterMarker)
  else if !isEscape config.escapeCharacter then
    .error (.escapeCharacter config.escapeCharacter)
  else if config.escapeCharacter = config.parameterMarker then
    .error (.escapeCharacter config.escapeCharacter)
  else if config.maxDepth = 0 then
    .error .maxDepth
  else if Text.isBlank config.catalogScope then
    .error .catalogScope
  else
    .ok ()

theorem isIdentifier_of_validate {config : Configuration} (valid : config.validate = .ok ()) :
    Text.isIdentifier config.parameterPrefix = true := by
  unfold validate at valid
  split at valid
  · simp at valid
  · next identifier => simpa using identifier

theorem isMarker_of_validate {config : Configuration} (valid : config.validate = .ok ()) :
    isMarker config.parameterMarker = true := by
  unfold validate at valid
  split at valid
  · simp at valid
  · split at valid
    · simp at valid
    · next accepted => simpa using accepted

/-- The dialect with the conventions of a configuration. -/
def dialect (config : Configuration) : Dialect :=
  { Dialect.standard config.platform with
    parameterPrefix := config.parameterPrefix
    parameterMarker := config.parameterMarker
    escapeCharacter := config.escapeCharacter }

end Configuration
end ObjectQuery
