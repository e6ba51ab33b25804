/-!
# Patterns of a string match

A pattern holds wildcards, `%` for any run of characters and `_` for any one
character. An escape character before a character makes it stand for itself.
A string match writes its text with every wildcard and escape character
escaped, and adds a wildcard on each side that is left open.
-/

namespace ObjectQuery

/-- The sides on which a string match leaves its subject open. -/
inductive MatchMode where
  | contains
  | startsWith
  | endsWith
  deriving DecidableEq, Repr

namespace Text
namespace Pattern

/-- Characters that a pattern must escape to mean themselves. -/
def needsEscape (escape character : Char) : Bool :=
  character == escape || character == '%' || character == '_'

/-- The pattern that only a given text matches. -/
def escapeCharacters (escape : Char) : List Char → List Char
  | [] => []
  | character :: rest =>
      if needsEscape escape character then
        escape :: character :: escapeCharacters escape rest
      else
        character :: escapeCharacters escape rest

/-- The pattern that only a given text matches. -/
def escape (text : String) (escapeCharacter : Char) : String :=
  String.ofList (escapeCharacters escapeCharacter text.toList)

/-- Wildcards on the open sides of an escaped text. -/
def wrap (mode : MatchMode) (escaped : String) : String :=
  match mode with
  | .contains => "%" ++ escaped ++ "%"
  | .startsWith => escaped ++ "%"
  | .endsWith => "%" ++ escaped

/-- The text behind an escaped one; `none` when it ends with an escape character. -/
def unescapeCharacters (escape : Char) : List Char → Option (List Char)
  | [] => some []
  | [character] => if character = escape then none else some [character]
  | character :: next :: rest =>
      if character = escape then
        (unescapeCharacters escape rest).map (next :: ·)
      else
        (unescapeCharacters escape (next :: rest)).map (character :: ·)

/-- The characters after an opening wildcard. -/
def dropOpening? : List Char → Option (List Char)
  | '%' :: rest => some rest
  | _ => none

/-- The characters before a closing wildcard. -/
def dropClosing? (characters : List Char) : Option (List Char) :=
  if characters.getLast? = some '%' then some characters.dropLast else none

/-- What stands between the wildcards that a mode adds. -/
def body? (mode : MatchMode) (pattern : List Char) : Option (List Char) :=
  match mode with
  | .contains => (dropOpening? pattern).bind dropClosing?
  | .startsWith => dropClosing? pattern
  | .endsWith => dropOpening? pattern

/-- The text that a bound pattern was made from, if it fits its mode. -/
def unwrap? (mode : MatchMode) (pattern : String) (escape : Char) : Option String :=
  ((body? mode pattern.toList).bind (unescapeCharacters escape)).map String.ofList

end Pattern
end Text
end ObjectQuery
