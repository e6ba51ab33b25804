import ObjectQuery.Text.CaseTable

/-!
# Small and capital letters

Full Unicode case mapping. Characters map one by one, some of them to several;
only the capital sigma looks around: at the end of a word it becomes the final
form. A word ends there when, leaving case-ignorable characters aside, a cased
character stands before the sigma and none after it.
-/

namespace ObjectQuery
namespace Text

/-- Whether a code point lies in one of the ranges. -/
def inRanges (ranges : List (Nat × Nat)) (code : Nat) : Bool :=
  ranges.any fun range => range.1 ≤ code && code ≤ range.2

/-- The image of a code point under the first run that covers it. -/
def imageUnder (runs : List (Nat × Nat × Nat × Nat)) (code : Nat) : Nat :=
  match runs.find? fun (first, last, step, _) =>
      first ≤ code && code ≤ last && (code - first) % step == 0 with
  | some (first, _, _, image) => image + (code - first)
  | none => code

/-- The image of a character: an expansion if one is listed, else one character. -/
def mapCase
    (expansions : List (Nat × List Nat))
    (runs : List (Nat × Nat × Nat × Nat))
    (character : Char) : List Char :=
  match expansions.lookup character.toNat with
  | some codes => codes.map Char.ofNat
  | none => [Char.ofNat (imageUnder runs character.toNat)]

/-- The small form of a character that stands alone. -/
def smallForm (character : Char) : List Char :=
  if character.toNat < 128 then
    [character.toLower]
  else
    mapCase CaseTable.smallExpansions CaseTable.smallRuns character

/-- The capital form of a character. -/
def capitalForm (character : Char) : List Char :=
  if character.toNat < 128 then
    [character.toUpper]
  else
    mapCase CaseTable.capitalExpansions CaseTable.capitalRuns character

/-- Characters that are passed over when the end of a word is looked for. -/
def isCaseIgnorable (character : Char) : Bool :=
  inRanges CaseTable.ignorableRanges character.toNat

/-- Characters that count as letters with case. -/
def isCased (character : Char) : Bool :=
  inRanges CaseTable.casedRanges character.toNat

/-- Whether the first character that is not case-ignorable is cased. -/
def leadsToCased (characters : List Char) : Bool :=
  match characters.dropWhile isCaseIgnorable with
  | [] => false
  | character :: _ => isCased character

/-- The small forms of the characters, those already passed given in reverse. -/
def smallForms (passed : List Char) : List Char → List Char
  | [] => []
  | character :: rest =>
      (if character = 'Σ' then
        if leadsToCased passed && !leadsToCased rest then ['ς'] else ['σ']
      else
        smallForm character) ++ smallForms (character :: passed) rest

/-- The text in small letters. -/
def lowercase (text : String) : String :=
  String.ofList (smallForms [] text.toList)

/-- The text in capital letters. -/
def uppercase (text : String) : String :=
  String.ofList (text.toList.flatMap capitalForm)

end Text
end ObjectQuery
