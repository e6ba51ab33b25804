import ObjectQuery.Json.Basic
import ObjectQuery.Number.Layout
import ObjectQuery.Table

/-!
# Compact JSON text

Documents are written without spaces and with the fields of every object sorted
by name, so that equal documents have equal texts. Control characters are escaped,
all others stand for themselves.
-/

namespace ObjectQuery
namespace Json

/-- How one character of a string is written. -/
def writeCharacter (character : Char) : List Char :=
  match character with
  | '"' => ['\\', '"']
  | '\\' => ['\\', '\\']
  | '\x08' => ['\\', 'b']
  | '\x0c' => ['\\', 'f']
  | '\n' => ['\\', 'n']
  | '\r' => ['\\', 'r']
  | '\t' => ['\\', 't']
  | other =>
      if other.toNat < 32 then
        let digits := Nat.toDigits 16 other.toNat
        ['\\', 'u'] ++ List.replicate (4 - digits.length) '0' ++ digits
      else
        [other]

/-- A string between quotes. -/
def writeString (text : String) : String :=
  String.ofList ('"' :: (text.toList.flatMap writeCharacter ++ ['"']))

mutual

/-- The compact text of a document. -/
def compact : Json → String
  | .null => "null"
  | .bool true => "true"
  | .bool false => "false"
  | .int value => toString value
  | .float value => value.toJsonText
  | .string text => writeString text
  | .array items => "[" ++ ",".intercalate (compactItems items) ++ "]"
  | .object fields =>
      let written := (Table.sort (compactFields fields)).map fun (name, content) =>
        writeString name ++ ":" ++ content
      "\x7b" ++ ",".intercalate written ++ "\x7d"

/-- The texts of the items of an array. -/
def compactItems : List Json → List String
  | [] => []
  | item :: rest => compact item :: compactItems rest

/-- The fields of an object with the texts of their contents. -/
def compactFields : List (String × Json) → List (String × String)
  | [] => []
  | (name, content) :: rest => (name, compact content) :: compactFields rest

end

end Json
end ObjectQuery
