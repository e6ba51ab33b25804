/-!
# Quoted literals

A literal stands between single quotes, and a quote inside it is written twice.
-/

namespace ObjectQuery
namespace Text

/-- The single quote. -/
def quoteMark : Char := '\x27'

/-- Every quote is written twice. -/
def doubleQuotes : List Char → List Char
  | [] => []
  | character :: rest =>
      if character = quoteMark then
        quoteMark :: quoteMark :: doubleQuotes rest
      else
        character :: doubleQuotes rest

/-- The literal that stands for a text. -/
def quote (text : String) : String :=
  String.ofList (quoteMark :: (doubleQuotes text.toList ++ [quoteMark]))

@[simp]
theorem doubleQuotes_nil : doubleQuotes [] = [] := rfl

end Text
end ObjectQuery
