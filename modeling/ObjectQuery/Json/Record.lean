import ObjectQuery.Json.Basic
import ObjectQuery.Table

/-!
# Records and variants in JSON

A record is an object, or the array of its fields in their order. A variant is a
text when it has no content, and otherwise an object with one field that is named
for the variant. The nesting of a document bounds how deep a reader has to go.
-/

namespace ObjectQuery
namespace Json

mutual

/-- How deep containers are nested in a document, counting the document itself. -/
def nesting : Json → Nat
  | .array items => nestingOfItems items + 1
  | .object fields => nestingOfFields fields + 1
  | _ => 1

/-- The deepest nesting of some documents. -/
def nestingOfItems : List Json → Nat
  | [] => 0
  | item :: rest => max (nesting item) (nestingOfItems rest)

/-- The deepest nesting of the contents of some fields. -/
def nestingOfFields : List (String × Json) → Nat
  | [] => 0
  | (_, content) :: rest => max (nesting content) (nestingOfFields rest)

end

/-- The fields of a record with the given names, of which an array has at least the first ones. -/
def recordWith? (names : List String) (least : Nat) : Json → Option (List (String × Json))
  | .object fields => some fields
  | .array items =>
      if least ≤ items.length ∧ items.length ≤ names.length then
        some (names.zip items)
      else
        none
  | _ => none

/-- The fields of an object. -/
def fields? : Json → Option (List (String × Json))
  | .object fields => some fields
  | _ => none

/-- The fields of a record with the given names. -/
def record? (names : List String) (json : Json) : Option (List (String × Json)) :=
  recordWith? names names.length json

/-- Whether no field has the name of a later one. -/
def hasDistinctNames (fields : List (String × Json)) : Bool :=
  (fields.map Prod.fst).eraseDups.length == fields.length

/-- The fields of a record that names none of the given fields twice. -/
def distinctRecord? (names : List String) (least : Nat) (json : Json) :
    Option (List (String × Json)) :=
  match json.recordWith? names least with
  | some fields =>
      if hasDistinctNames (fields.filter fun field => names.contains field.1) then
        some fields
      else
        none
  | none => none

/-- The content of a field; of several with one name the last counts. -/
def field? (name : String) (fields : List (String × Json)) : Option Json :=
  Table.findLast? name fields

/-- A field that must be there. -/
def required? {content : Type} (decode : Json → Option content) (name : String)
    (fields : List (String × Json)) : Option content :=
  (field? name fields).bind decode

/-- A field that may be missing or null. -/
def optional? {content : Type} (decode : Json → Option content) (name : String)
    (fields : List (String × Json)) : Option (Option content) :=
  match field? name fields with
  | none | some .null => some none
  | some json => (decode json).map some

/-- A field that may be missing, with the content it then has. -/
def withDefault? {content : Type} (decode : Json → Option content) (otherwise : content)
    (name : String) (fields : List (String × Json)) : Option content :=
  match field? name fields with
  | none => some otherwise
  | some json => decode json

/-- The name of a variant and its content, if it has one. -/
def variant? : Json → Option (String × Option Json)
  | .string name => some (name, none)
  | .object [(name, content)] => some (name, some content)
  | _ => none

/-- The name of a variant without content. -/
def unitVariant? (json : Json) : Option String :=
  match json.variant? with
  | some (name, none) | some (name, some .null) => some name
  | _ => none

/-- A text. -/
def text? : Json → Option String
  | .string text => some text
  | _ => none

/-- A truth value. -/
def bool? : Json → Option Bool
  | .bool value => some value
  | _ => none

/-- An integer. -/
def int? : Json → Option Int
  | .int value => some value
  | _ => none

/-- The items of an array. -/
def items? : Json → Option (List Json)
  | .array items => some items
  | _ => none

/-- The items of an array, each read alike. -/
def list? {content : Type} (decode : Json → Option content) (json : Json) :
    Option (List content) :=
  json.items?.bind fun items => items.mapM decode

/-- A text of one character. -/
def character? (json : Json) : Option Char :=
  match json.text?.map String.toList with
  | some [character] => some character
  | _ => none

/-- A natural number below two to the sixty-fourth. -/
def word? (json : Json) : Option Nat :=
  match json.int? with
  | some value => if 0 ≤ value ∧ value < UInt64.size then some value.toNat else none
  | none => none

end Json
end ObjectQuery
