import ObjectQuery.Number.Binary64

/-!
# JSON values

A number written without fraction and exponent is an integer as long as it fits
sixty-four bits; every other number is a floating point number. An object keeps
its fields as they were written; the last of several with one name counts.
-/

namespace ObjectQuery

/-- A JSON document. -/
inductive Json where
  | null
  | bool (value : Bool)
  | int (value : Int)
  | float (value : Binary64)
  | string (value : String)
  | array (items : List Json)
  | object (fields : List (String × Json))
  deriving Repr, Inhabited

namespace Json

/-- A number; there is none for infinities and NaN. -/
def ofBinary64 (number : Binary64) : Json :=
  if number.isFinite then .float number else .null

/-- A text, or null. -/
def ofText? : Option String → Json
  | some text => .string text
  | none => .null

/-- A natural number. -/
def ofNat (number : Nat) : Json :=
  .int number

/-- An array of texts. -/
def ofTexts (texts : List String) : Json :=
  .array (texts.map .string)

/-- An object with one field. -/
def tagged (name : String) (content : Json) : Json :=
  .object [(name, content)]

end Json
end ObjectQuery
