import ObjectQuery.Text.Case
import ObjectQuery.Text.PictureTable

/-!
# Diagnostic text of a string

Messages show a string between double quotes. The quote, the backslash and the
common controls have short escapes, and every other character without a picture
of its own is shown by its code point.
-/

namespace ObjectQuery
namespace Text

/-- The digits of a number in base sixteen, in small letters. -/
def hexadecimal (number : Nat) : List Char :=
  Nat.toDigits 16 number

/-- Whether a character has no picture of its own. -/
def isHidden (character : Char) : Bool :=
  inRanges PictureTable.hiddenRanges character.toNat

/-- How one character of a string is shown. -/
def showCharacter (character : Char) : List Char :=
  match character with
  | '\x00' => ['\\', '0']
  | '\t' => ['\\', 't']
  | '\r' => ['\\', 'r']
  | '\n' => ['\\', 'n']
  | '"' => ['\\', '"']
  | '\\' => ['\\', '\\']
  | other =>
      if isHidden other then
        ['\\', 'u', '\x7b'] ++ hexadecimal other.toNat ++ ['\x7d']
      else
        [other]

/-- A string as messages show it. -/
def showString (text : String) : String :=
  String.ofList ('"' :: (text.toList.flatMap showCharacter ++ ['"']))

end Text
end ObjectQuery
