import ObjectQuery.Text.Ascii
import ObjectQuery.Text.Search

/-!
# Persistence platforms

The platforms share one query language and differ in a few abilities: the shape of
rows with several columns, aliases in bulk writes, joins of unrelated entities, and
the spelling of date parts.
-/

namespace ObjectQuery

/-- The provider that runs a statement. -/
inductive Platform where
  | hibernate
  | eclipseLink
  | openJpa
  | dataNucleus
  /-- A provider that could not be told; only portable behaviour is used. -/
  | unknown
  deriving DecidableEq, Repr, Inhabited

/-- Abilities that differ between platforms. -/
inductive Capability where
  /-- Rows with several columns come as named tuples. -/
  | tupleResults
  /-- A bulk update may alias its target. -/
  | updateTargetAlias
  /-- A bulk delete may alias its target. -/
  | deleteTargetAlias
  /-- Unrelated entities may be joined. -/
  | entityJoins
  deriving DecidableEq, Repr

namespace Platform

/-- The known platforms. -/
def all : List Platform :=
  [.hibernate, .eclipseLink, .openJpa, .dataNucleus]

/-- Whether a platform has an ability. -/
def supports (platform : Platform) (capability : Capability) : Bool :=
  match capability with
  | .tupleResults => [hibernate, eclipseLink, dataNucleus].contains platform
  | .updateTargetAlias | .deleteTargetAlias =>
      [hibernate, eclipseLink, openJpa].contains platform
  | .entityJoins => [hibernate, eclipseLink].contains platform

/-- The name that messages show. -/
def name : Platform → String
  | .hibernate => "hibernate"
  | .eclipseLink => "eclipselink"
  | .openJpa => "openjpa"
  | .dataNucleus => "datanucleus"
  | .unknown => "unknown"

/-- The platform that the name of a provider class or product speaks of. -/
def detect (provider : String) : Platform :=
  let provider := Text.asciiLower provider
  if Text.contains provider "hibernate" then
    .hibernate
  else if Text.contains provider "eclipselink" || Text.contains provider "toplink" then
    .eclipseLink
  else if Text.contains provider "openjpa" then
    .openJpa
  else if Text.contains provider "datanucleus" then
    .dataNucleus
  else
    .unknown

/-- The platform with a configured name; hyphens, underscores and case are free. -/
def ofName? (name : String) : Option Platform :=
  let letters := (Text.asciiLower name).toList.filter fun letter =>
    letter != '-' && letter != '_'
  match String.ofList letters with
  | "hibernate" => some .hibernate
  | "eclipselink" => some .eclipseLink
  | "openjpa" => some .openJpa
  | "datanucleus" => some .dataNucleus
  | "unknown" | "generic" => some .unknown
  | _ => none

end Platform
end ObjectQuery
