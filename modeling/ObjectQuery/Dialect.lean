import ObjectQuery.Calendar.Layout
import ObjectQuery.FunctionSpelling
import ObjectQuery.Number.Layout
import ObjectQuery.Resolution.Error
import ObjectQuery.Row.Basic
import ObjectQuery.Text.Pattern
import ObjectQuery.Text.Quoted
import ObjectQuery.Value.Layout

/-!
# Dialects

Everything about the text of statements that hangs on the platform or on the
configuration: function spellings, names and references of parameters, the escape
character of patterns, and the form of literals.
-/

namespace ObjectQuery

/-- The platform with the conventions of its statement text. -/
structure Dialect where
  platform : Platform
  functions : SpellingRegistry
  escapeCharacter : Char
  parameterMarker : Char
  parameterPrefix : String

namespace Dialect

/-- The usual conventions on a platform. -/
def standard (platform : Platform) : Dialect :=
  ⟨platform, SpellingRegistry.standard, '!', ':', "p"⟩

/-- Whether the platform has an ability. -/
def supports (dialect : Dialect) (capability : Capability) : Bool :=
  dialect.platform.supports capability

/-- The shape of rows with several columns. -/
def recordShape (dialect : Dialect) : RowShape :=
  if dialect.supports .tupleResults then .tuple else .array

/-- The name of the parameter with a number, counted from one. -/
def numberedName (dialect : Dialect) (number : Nat) : String :=
  dialect.parameterPrefix ++ Calendar.padded 4 number

/-- The reference to a parameter in a statement. -/
def referenceTo (dialect : Dialect) (name : String) : String :=
  String.singleton dialect.parameterMarker ++ name

/-- Whether a text looks like a reference: the marker and at least one more character. -/
def looksLikeReference (dialect : Dialect) (text : String) : Bool :=
  match text.toList with
  | first :: _ :: _ => first == dialect.parameterMarker
  | _ => false

/-- A function call with written arguments. -/
def callText (dialect : Dialect) (kind : FunctionKind) (arguments : List String)
    (distinct : Bool) : Except ResolutionError String :=
  match dialect.functions.render? dialect.platform kind arguments distinct with
  | some text => .ok text
  | none => .error (.unsupportedOn dialect.platform ("function " ++ kind.name))

/-- A text with its pattern characters escaped. -/
def escapePattern (dialect : Dialect) (text : String) : String :=
  Text.Pattern.escape text dialect.escapeCharacter

/-- What ends every pattern match. -/
def escapeSuffix (dialect : Dialect) : String :=
  "ESCAPE " ++ Text.quote (String.singleton dialect.escapeCharacter)

/-- A text between braces, after a word and with quotes. -/
def temporalLiteral (word text : String) : String :=
  "\x7b" ++ word ++ " '" ++ text ++ "'\x7d"

/-- A finite number with a point. -/
def floatLiteral (number : Binary64) : String :=
  let text := number.toPlain
  if text.toList.contains '.' then text else text ++ ".0"

/-- A constant as it stands in a statement. -/
def literalText (dialect : Dialect) (value : Value) : Except ResolutionError String :=
  match value with
  | .null => .ok "NULL"
  | .boolean true => .ok "TRUE"
  | .boolean false => .ok "FALSE"
  | .integer number => .ok (toString number.toInt)
  | .decimal digits => .ok digits
  | .string text => .ok (Text.quote text)
  | .date day => .ok (temporalLiteral "d" day.toText)
  | .time clock => .ok (temporalLiteral "t" clock.toClockText)
  | .dateTime moment => .ok (temporalLiteral "ts" moment.toText)
  | .float number =>
      if number.isFinite then
        .ok (floatLiteral number)
      else
        .error (.unsupportedOn dialect.platform ("inline literal " ++ value.toDiagnostic))
  | .enum _ | .list _ =>
      .error (.unsupportedOn dialect.platform ("inline literal " ++ value.toDiagnostic))

end Dialect
end ObjectQuery
