/-!
# Tokens of YAML

The text of a document is cut into scalars and indicators, each with its line and
column. Inside brackets the indicators of flow collections end a plain scalar; outside
of them a tab may not indent. Scalars stand on one line. Comments and blanks between
tokens are dropped.
-/

namespace ObjectQuery
namespace Yaml

/-- A scalar or an indicator. -/
inductive Token where
  | plain (text : String)
  | quoted (text : String)
  /-- The start of an item of a block sequence. -/
  | dash
  /-- What stands between a key and its value. -/
  | colon
  | comma
  | openSequence
  | closeSequence
  | openMapping
  | closeMapping
  deriving DecidableEq, Repr

/-- A token with its place in the text. -/
structure Placed where
  line : Nat
  column : Nat
  token : Token
  deriving DecidableEq, Repr

/-- Characters that end a line. -/
def isBreak (character : Char) : Bool :=
  ['\n', '\r', '\x85', '\u2028', '\u2029'].contains character

/-- Whether a text goes on with a blank, a new line or not at all. -/
def startsBlank : List Char → Bool
  | [] => true
  | character :: _ => character == ' ' || character == '\t' || isBreak character

/-- Characters that a document may hold. -/
def isPrintable (character : Char) : Bool :=
  let code := character.toNat
  ['\t', '\n', '\r', '\x85'].contains character || (32 ≤ code && code ≤ 126) ||
    (160 ≤ code && code ≤ 0xFFFD) || 0x10000 ≤ code

/-- The indicators of flow collections. -/
def flowIndicators : List Char :=
  [',', '[', ']', '\x7b', '\x7d']

/-- Whether a text starts with an indicator that may not follow a colon inside brackets. -/
def startsWithIndicator : List Char → Bool
  | character :: _ => flowIndicators.contains character || character == '?'
  | [] => false

/-- Whether only blanks are left on a line before its end or a comment. -/
def lineEnds (characters : List Char) : Bool :=
  match characters.dropWhile fun character => character == ' ' || character == '\t' with
  | [] => true
  | character :: _ => isBreak character || character == '#'

/-- A plain scalar, with the blanks after its words, and the text behind it. -/
def plainRest? (flow : Bool) : List Char → Option (List Char × List Char)
  | [] => some ([], [])
  | character :: rest =>
      if isBreak character then
        some ([], character :: rest)
      else if (character == ' ' || character == '\t') && lineEnds rest then
        some ([], character :: rest)
      else if character == ':' && startsBlank rest then
        some ([], character :: rest)
      else if flow && flowIndicators.contains character then
        some ([], character :: rest)
      else if flow && character == ':' && startsWithIndicator rest then
        none
      else
        (plainRest? flow rest).map fun (text, after) => (character :: text, after)

/-- The text of a plain scalar without the blanks behind it. -/
def withoutTrailingBlanks (characters : List Char) : List Char :=
  (characters.reverse.dropWhile fun character => character == ' ' || character == '\t').reverse

/-- A scalar between single quotes, after the first; two quotes stand for one. -/
def singleRest? : List Char → Option (List Char × List Char)
  | [] => none
  | '\'' :: '\'' :: rest =>
      (singleRest? rest).map fun (text, after) => ('\'' :: text, after)
  | '\'' :: rest => some ([], rest)
  | character :: rest =>
      if isBreak character then
        none
      else
        (singleRest? rest).map fun (text, after) => (character :: text, after)

/-- The character that a letter after a backslash stands for. -/
def escaped? : Char → Option Char
  | '0' => some '\x00'
  | 'a' => some '\x07'
  | 'b' => some '\x08'
  | 't' | '\t' => some '\t'
  | 'n' => some '\n'
  | 'v' => some '\x0b'
  | 'f' => some '\x0c'
  | 'r' => some '\r'
  | 'e' => some '\x1b'
  | ' ' => some ' '
  | '"' => some '"'
  | '/' => some '/'
  | '\\' => some '\\'
  | 'N' => some '\x85'
  | '_' => some '\xa0'
  | 'L' => some '\u2028'
  | 'P' => some '\u2029'
  | _ => none

/-- How many hexadecimal digits follow a letter after a backslash. -/
def codeLength? : Char → Option Nat
  | 'x' => some 2
  | 'u' => some 4
  | 'U' => some 8
  | _ => none

/-- The value of a hexadecimal digit. -/
def hexDigit? (character : Char) : Option Nat :=
  if character.isDigit then
    some (character.toNat - '0'.toNat)
  else if 'a' ≤ character ∧ character ≤ 'f' then
    some (character.toNat - 'a'.toNat + 10)
  else if 'A' ≤ character ∧ character ≤ 'F' then
    some (character.toNat - 'A'.toNat + 10)
  else
    none

/-- The character whose code so many hexadecimal digits write. -/
def codeCharacter? (digits : List Char) (length : Nat) : Option Char := do
  if digits.length = length then
    let values ← digits.mapM hexDigit?
    let code := values.foldl (fun code digit => 16 * code + digit) 0
    if code.isValidChar then some (Char.ofNat code) else none
  else
    none

/-- A scalar between double quotes, after the first; the first argument bounds its length. -/
def doubleRest? : Nat → List Char → Option (List Char × List Char)
  | 0, _ => none
  | _, [] => none
  | _, '"' :: rest => some ([], rest)
  | steps + 1, '\\' :: letter :: rest =>
      match codeLength? letter with
      | some length => do
          let character ← codeCharacter? (rest.take length) length
          let (text, after) ← doubleRest? steps (rest.drop length)
          return (character :: text, after)
      | none => do
          let character ← escaped? letter
          let (text, after) ← doubleRest? steps rest
          return (character :: text, after)
  | steps + 1, character :: rest =>
      if isBreak character then
        none
      else
        (doubleRest? steps rest).map fun (text, after) => (character :: text, after)

/-- The indicator that a character is inside or outside of brackets. -/
def indicator? : Char → Option Token
  | ',' => some .comma
  | '[' => some .openSequence
  | ']' => some .closeSequence
  | '\x7b' => some .openMapping
  | '\x7d' => some .closeMapping
  | _ => none

/-- How many brackets are open after a token. -/
def depthAfter (depth : Nat) : Token → Option Nat
  | .openSequence | .openMapping => some (depth + 1)
  | .closeSequence | .closeMapping => if depth = 0 then none else some (depth - 1)
  | _ => some depth

/-- Characters with which no plain scalar starts. -/
def reservedStarts : List Char :=
  "&*!|>%@`".toList

/-- Where the scanner is: the line and column, the open brackets, and whether a tab would indent. -/
structure Position where
  line : Nat
  column : Nat
  depth : Nat
  indenting : Bool
  deriving Repr

/-- The position behind so many characters of a line. -/
def Position.advance (position : Position) (length : Nat) : Position :=
  { position with column := position.column + length, indenting := false }

/-- The tokens of a text from a position on; the first argument bounds the length of the text. -/
def scan : Nat → Position → List Char → Option (List Placed)
  | 0, _, _ => none
  | _, _, [] => some []
  | steps + 1, position, character :: rest =>
      let place := Placed.mk position.line position.column
      if isBreak character then
        scan steps ⟨position.line + 1, 0, position.depth, true⟩ rest
      else if character == ' ' then
        scan steps { position with column := position.column + 1 } rest
      else if character == '\t' then
        if position.indenting && position.depth == 0 then
          none
        else
          scan steps { position with column := position.column + 1 } rest
      else if character == '#' then
        scan steps position (rest.dropWhile fun other => !isBreak other)
      else
        match indicator? character with
        | some token => do
            let depth ← depthAfter position.depth token
            let tokens ← scan steps { position.advance 1 with depth } rest
            return place token :: tokens
        | none =>
            if character == '-' && startsBlank rest then
              if position.depth == 0 then
                (scan steps { position with column := position.column + 1, indenting := true }
                  rest).map (place .dash :: ·)
              else
                none
            else if character == ':' && (startsBlank rest || position.depth != 0) then
              (scan steps (position.advance 1) rest).map (place .colon :: ·)
            else if character == '\'' then do
              let (text, after) ← singleRest? rest
              let next := position.advance (rest.length + 1 - after.length)
              let tokens ← scan steps next after
              return place (.quoted (String.ofList text)) :: tokens
            else if character == '"' then do
              let (text, after) ← doubleRest? (rest.length + 1) rest
              let next := position.advance (rest.length + 1 - after.length)
              let tokens ← scan steps next after
              return place (.quoted (String.ofList text)) :: tokens
            else if reservedStarts.contains character || (character == '?' && startsBlank rest) then
              none
            else do
              let (text, after) ← plainRest? (position.depth != 0) (character :: rest)
              let next := position.advance (rest.length + 1 - after.length)
              let tokens ← scan steps next after
              return place (.plain (String.ofList (withoutTrailingBlanks text))) :: tokens

/-- The tokens of a text. -/
def tokens? (text : String) : Option (List Placed) :=
  let characters := text.toList
  if characters.all isPrintable then
    scan (characters.length + 1) ⟨0, 0, 0, true⟩ characters
  else
    none

end Yaml
end ObjectQuery
