import ObjectQuery.Text.Ascii

/-!
# Identifiers and dotted names

An identifier is a letter or underscore followed by letters, digits and
underscores, all ASCII. A dotted name is cut at its points into segments.
-/

namespace ObjectQuery
namespace Text

/-- Whether a text can stand as an alias or an identification variable. -/
def isIdentifier (text : String) : Bool :=
  match text.toList with
  | [] => false
  | first :: rest => isNameStart first && rest.all isNameCharacter

/-- The parts of a text between its points. -/
def segmentsOf : List Char → List (List Char)
  | [] => [[]]
  | character :: rest =>
      if character = '.' then
        [] :: segmentsOf rest
      else
        match segmentsOf rest with
        | [] => [[character]]
        | segment :: segments => (character :: segment) :: segments

/-- The parts of a dotted name. -/
def segments (name : String) : List (List Char) :=
  segmentsOf name.toList

/-- The part of a dotted name after its last point. -/
def lastSegment (name : String) : List Char :=
  (segments name).getLastD []

/-- A name whose points separate identifiers. -/
def isDottedIdentifier (name : String) : Bool :=
  (segments name).all fun segment => isIdentifier (String.ofList segment)

theorem segmentsOf_ne_nil (characters : List Char) : segmentsOf characters ≠ [] := by
  cases characters with
  | nil => simp [segmentsOf]
  | cons character rest =>
      simp only [segmentsOf]
      split
      · simp
      · split <;> simp

end Text
end ObjectQuery
