/-!
# Searching and replacing

Occurrences of one text in another, from left to right and without overlap.
-/

namespace ObjectQuery
namespace Text

/-- What follows the first occurrence of `needle`, if there is one. -/
def afterFirst? (needle : List Char) : List Char → Option (List Char)
  | [] => if needle.isEmpty then some [] else none
  | character :: rest =>
      if needle.isPrefixOf (character :: rest) then
        some ((character :: rest).drop needle.length)
      else
        afterFirst? needle rest

/-- Whether `needle` occurs in `text`. -/
def contains (text needle : String) : Bool :=
  (afterFirst? needle.toList text.toList).isSome

/-- Whether `text` begins with `start`. -/
def beginsWith (text start : String) : Bool :=
  start.toList.isPrefixOf text.toList

/-- Whether `text` ends with `finish`. -/
def finishesWith (text finish : String) : Bool :=
  finish.toList.isSuffixOf text.toList

/--
Replacement of the occurrences of a non-empty `needle`; the first argument
counts the characters of an occurrence that are still to be passed over.
-/
def replaceFrom (needle replacement : List Char) : Nat → List Char → List Char
  | _, [] => []
  | passed + 1, _ :: rest => replaceFrom needle replacement passed rest
  | 0, character :: rest =>
      if needle.isPrefixOf (character :: rest) then
        replacement ++ replaceFrom needle replacement (needle.length - 1) rest
      else
        character :: replaceFrom needle replacement 0 rest

/-- Every occurrence of a non-empty `needle` gives way to `replacement`. -/
def replaceAll (text needle replacement : String) : String :=
  String.ofList (replaceFrom needle.toList replacement.toList 0 text.toList)

end Text
end ObjectQuery
