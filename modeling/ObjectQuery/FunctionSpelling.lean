import ObjectQuery.Expression.Basic
import ObjectQuery.Platform
import ObjectQuery.Table
import ObjectQuery.Text.Ascii
import ObjectQuery.Text.Search
import ObjectQuery.Value.Basic

/-!
# Function spellings

How functions are written on a platform. A spelling is a template in which a
number in braces stands for the argument at that position. Most functions are
spelled alike everywhere; the parts of dates are not. Hosts may register spellings
of their own.
-/

namespace ObjectQuery

/-- What a function works on. -/
inductive FunctionClass where
  | scalar
  | aggregate
  /-- A function without arguments that tells the current date or time. -/
  | temporal
  deriving DecidableEq, Repr

/-- The spelling of a function on a platform. -/
structure FunctionSpelling where
  name : String
  kind : FunctionKind
  /-- The type of the result; `any` is that of the first argument. -/
  returnType : ValueType
  functionType : FunctionClass
  template : String
  description : Option String
  deriving DecidableEq, Repr

namespace FunctionSpelling

/-- The mark of the argument at a position. -/
def placeholder (position : Nat) : String :=
  "\x7b" ++ toString position ++ "\x7d"

/-- A text with the marks from a position on replaced by the arguments, one after the other. -/
def fill (text : String) (position : Nat) : List String → String
  | [] => text
  | argument :: rest =>
      fill (Text.replaceAll text (placeholder position) argument) (position + 1) rest

/-- The call of a function with written arguments; `distinct` marks the first of them. -/
def render (spelling : FunctionSpelling) (arguments : List String) (distinct : Bool) : String :=
  let written :=
    match arguments with
    | first :: rest => (if distinct then "DISTINCT " ++ first else first) :: rest
    | [] => []
  fill spelling.template 0 written

/-- Template and result type. -/
def signature (spelling : FunctionSpelling) : String :=
  spelling.template ++ " -> " ++ spelling.returnType.label

/-- The parts of a date and the words for them. -/
def dateParts : List (FunctionKind × String) :=
  [(.year, "YEAR"), (.month, "MONTH"), (.day, "DAY"), (.hour, "HOUR")]

/-- How a platform writes a part of a date. -/
def datePartTemplate (platform : Platform) (part : String) : String :=
  match platform with
  | .hibernate => Text.asciiLower part ++ "(" ++ placeholder 0 ++ ")"
  | .openJpa => "FUNCTION('" ++ part ++ "', " ++ placeholder 0 ++ ")"
  | .dataNucleus => part ++ "(" ++ placeholder 0 ++ ")"
  | .eclipseLink | .unknown => "EXTRACT(" ++ part ++ " FROM " ++ placeholder 0 ++ ")"

/-- A function written by its name, with its one argument in parentheses. -/
def call (kind : FunctionKind) (returnType : ValueType) (functionType : FunctionClass)
    (description : String) : FunctionSpelling :=
  ⟨kind.name, kind, returnType, functionType, kind.name ++ "(" ++ placeholder 0 ++ ")",
    some description⟩

/-- A function written by its name in capitals. -/
def keyword (kind : FunctionKind) (name : String) (returnType : ValueType)
    (description : String) : FunctionSpelling :=
  ⟨name, kind, returnType, .temporal, name, some description⟩

/-- The functions that every platform spells alike. -/
def portable : List FunctionSpelling :=
  [call .count .integer .aggregate "Count the number of rows",
    call .sum .any .aggregate "Sum of values",
    call .avg .float .aggregate "Average of values",
    call .min .any .aggregate "Minimum value",
    call .max .any .aggregate "Maximum value",
    call .lower .string .scalar "Convert to lowercase",
    call .upper .string .scalar "Convert to uppercase",
    keyword .currentDate "CURRENT_DATE" .date "Current date",
    keyword .currentTime "CURRENT_TIME" .time "Current time",
    keyword .currentTimestamp "CURRENT_TIMESTAMP" .dateTime "Current date and time"]

/-- The parts of dates as a platform spells them. -/
def dateFunctions (platform : Platform) : List FunctionSpelling :=
  dateParts.map fun (kind, part) =>
    ⟨part, kind, .integer, .scalar, datePartTemplate platform part,
      some (Text.asciiLower part ++ " part of a date/time value")⟩

/-- Every spelling that a platform comes with. -/
def standard (platform : Platform) : List FunctionSpelling :=
  portable ++ dateFunctions platform

end FunctionSpelling

/-- The spellings that hosts registered, the later before the earlier. -/
structure SpellingRegistry where
  registered : List (Platform × FunctionSpelling)
  deriving Inhabited

namespace SpellingRegistry

/-- The spellings that the platforms come with. -/
def standard : SpellingRegistry :=
  ⟨[]⟩

/-- The registry with one function's spelling on a platform replaced. -/
def register (registry : SpellingRegistry) (platform : Platform) (spelling : FunctionSpelling) :
    SpellingRegistry :=
  ⟨(platform, spelling) :: registry.registered⟩

/-- The spelling of a function on a platform: the last registered, else the standard one. -/
def find? (registry : SpellingRegistry) (platform : Platform) (kind : FunctionKind) :
    Option FunctionSpelling :=
  let registered := registry.registered.find? fun entry =>
    entry.1 = platform ∧ entry.2.kind = kind
  match registered with
  | some entry => some entry.2
  | none => (FunctionSpelling.standard platform).find? fun spelling => spelling.kind = kind

/-- The spellings on a platform, in the order of the functions. -/
def spellings (registry : SpellingRegistry) (platform : Platform) : List FunctionSpelling :=
  FunctionKind.all.filterMap (registry.find? platform)

/-- The spelling with a name on a platform, the case of letters aside. -/
def findByName? (registry : SpellingRegistry) (platform : Platform) (name : String) :
    Option FunctionSpelling :=
  (registry.spellings platform).find? fun spelling => Text.equalIgnoringCase spelling.name name

/-- A function call with written arguments, if the platform has a spelling. -/
def render? (registry : SpellingRegistry) (platform : Platform) (kind : FunctionKind)
    (arguments : List String) (distinct : Bool) : Option String :=
  (registry.find? platform kind).map fun spelling => spelling.render arguments distinct

end SpellingRegistry
end ObjectQuery
