/-!
# Blank text

The blank characters are those with the Unicode property White_Space. A text is
blank when it holds nothing else; the empty text is blank.
-/

namespace ObjectQuery
namespace Text

/-- The characters with the property White_Space. -/
def isBlankCharacter (character : Char) : Bool :=
  let code := character.toNat
  (0x9 ≤ code && code ≤ 0xD) || code == 0x20 || code == 0x85 || code == 0xA0 ||
    code == 0x1680 || (0x2000 ≤ code && code ≤ 0x200A) || code == 0x2028 ||
    code == 0x2029 || code == 0x202F || code == 0x205F || code == 0x3000

/-- A text without a visible character. -/
def isBlank (text : String) : Bool :=
  text.toList.all isBlankCharacter

/-- A text that holds a blank character. -/
def hasBlank (text : String) : Bool :=
  text.toList.any isBlankCharacter

end Text
end ObjectQuery
