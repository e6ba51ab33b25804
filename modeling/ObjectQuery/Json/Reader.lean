import ObjectQuery.Json.Basic
import ObjectQuery.Number.Reader

/-!
# Reading JSON text

A reader takes a value from the front of the characters and gives back what
follows. Containers may be nested up to a given depth; numbers beyond the range of
double precision and lone surrogates are refused.
-/

namespace ObjectQuery
namespace Json

/-- Space, tab and line ends. -/
def isSpace (character : Char) : Bool :=
  character == ' ' || character == '\t' || character == '\n' || character == '\r'

/-- What follows leading spaces. -/
def skipSpaces (characters : List Char) : List Char :=
  characters.dropWhile isSpace

/-- The value of a hexadecimal digit. -/
def hexDigit? (character : Char) : Option Nat :=
  if character.isDigit then
    some (character.toNat - 48)
  else if 'a' ≤ character ∧ character ≤ 'f' then
    some (character.toNat - 87)
  else if 'A' ≤ character ∧ character ≤ 'F' then
    some (character.toNat - 55)
  else
    none

/-- The value of four hexadecimal digits. -/
def codeUnit? (first second third fourth : Char) : Option Nat := do
  let first ← hexDigit? first
  let second ← hexDigit? second
  let third ← hexDigit? third
  let fourth ← hexDigit? fourth
  pure (((first * 16 + second) * 16 + third) * 16 + fourth)

/-- The character that a one-letter escape stands for. -/
def escaped? (letter : Char) : Option Char :=
  match letter with
  | '"' => some '"'
  | '\\' => some '\\'
  | '/' => some '/'
  | 'b' => some '\x08'
  | 'f' => some '\x0c'
  | 'n' => some '\n'
  | 'r' => some '\r'
  | 't' => some '\t'
  | _ => none

/--
The rest of a string, up to its closing quote; `done` holds in reverse the
characters already read.
-/
def stringRest? (done : List Char) : List Char → Option (String × List Char)
  | [] => none
  | '"' :: rest => some (String.ofList done.reverse, rest)
  | '\\' :: 'u' :: a :: b :: c :: d :: '\\' :: 'u' :: e :: f :: g :: h :: rest =>
      match codeUnit? a b c d with
      | none => none
      | some high =>
          if 0xD800 ≤ high ∧ high < 0xDC00 then
            match codeUnit? e f g h with
            | none => none
            | some low =>
                if 0xDC00 ≤ low ∧ low < 0xE000 then
                  let code := 0x10000 + (high - 0xD800) * 0x400 + (low - 0xDC00)
                  stringRest? (Char.ofNat code :: done) rest
                else
                  none
          else if 0xDC00 ≤ high ∧ high < 0xE000 then
            none
          else
            stringRest? (Char.ofNat high :: done) ('\\' :: 'u' :: e :: f :: g :: h :: rest)
  | '\\' :: 'u' :: a :: b :: c :: d :: rest =>
      match codeUnit? a b c d with
      | none => none
      | some code =>
          if 0xD800 ≤ code ∧ code < 0xE000 then
            none
          else
            stringRest? (Char.ofNat code :: done) rest
  | '\\' :: letter :: rest =>
      match escaped? letter with
      | some character => stringRest? (character :: done) rest
      | none => none
  | character :: rest =>
      if character.toNat < 32 ∨ character = '\\' then
        none
      else
        stringRest? (character :: done) rest

/-- Whether digits may stand before the point: a zero leads only when alone. -/
def wholeDigits (digits : List Char) : Bool :=
  match digits with
  | [] => false
  | '0' :: rest => rest.isEmpty
  | _ => true

/-- The fraction digits after a point, and what follows them. -/
def fractionPart? : List Char → Option (List Char × List Char)
  | '.' :: rest =>
      let (digits, after) := Number.takeDigits rest
      if digits.isEmpty then none else some (digits, after)
  | characters => some ([], characters)

/-- The exponent after its mark, and what follows it. -/
def exponentPart? (characters : List Char) : Option (Option Int × List Char) :=
  match characters with
  | mark :: rest =>
      if mark = 'e' ∨ mark = 'E' then
        let (negative, afterSign) := Number.takeSign rest
        let (digits, after) := Number.takeDigits afterSign
        if digits.isEmpty then
          none
        else
          let magnitude : Int := Number.ofDigits digits
          some (some (if negative then -magnitude else magnitude), after)
      else
        some (none, characters)
  | [] => some (none, characters)

/-- The value of a number without fraction and exponent. -/
def integerValue? (negative : Bool) (digits : List Char) : Option Json :=
  let magnitude := Number.ofDigits digits
  if negative && magnitude = 0 then
    some (.float (Binary64.ofMagnitude true 0))
  else if negative && magnitude ≤ Int64.minValue.toInt.natAbs then
    some (.int (-(magnitude : Int)))
  else if !negative && magnitude < UInt64.size then
    some (.int magnitude)
  else
    let number := (Number.Scientific.mk negative digits 0).toBinary64
    if number.isFinite then some (.float number) else none

/-- A number, and what follows it. -/
def number? (characters : List Char) : Option (Json × List Char) := do
  let (negative, unsigned) :=
    match characters with
    | '-' :: rest => (true, rest)
    | other => (false, other)
  let (whole, afterWhole) := Number.takeDigits unsigned
  if !wholeDigits whole then
    none
  else
    let (fraction, afterFraction) ← fractionPart? afterWhole
    let (exponent, rest) ← exponentPart? afterFraction
    if fraction.isEmpty && exponent.isNone then
      let value ← integerValue? negative whole
      pure (value, rest)
    else
      let power := exponent.getD 0 - (fraction.length : Int)
      let number := (Number.Scientific.mk negative (whole ++ fraction) power).toBinary64
      if number.isFinite then pure (.float number, rest) else none

/-- What follows a given word. -/
def keyword? (word : List Char) (value : Json) (characters : List Char) :
    Option (Json × List Char) :=
  if word.isPrefixOf characters then some (value, characters.drop word.length) else none

mutual

/-- A value, with `depth` containers allowed around its parts. -/
def value? : Nat → Nat → List Char → Option (Json × List Char)
  | 0, _, _ => none
  | steps + 1, depth, characters =>
      match skipSpaces characters with
      | '"' :: rest => (stringRest? [] rest).map fun (text, after) => (.string text, after)
      | '[' :: rest =>
          match depth with
          | 0 => none
          | depth + 1 =>
              match skipSpaces rest with
              | ']' :: after => some (.array [], after)
              | first => itemsRest? steps depth [] first
      | '\x7b' :: rest =>
          match depth with
          | 0 => none
          | depth + 1 =>
              match skipSpaces rest with
              | '\x7d' :: after => some (.object [], after)
              | first => fieldsRest? steps depth [] first
      | 't' :: rest => keyword? ['r', 'u', 'e'] (.bool true) rest
      | 'f' :: rest => keyword? ['a', 'l', 's', 'e'] (.bool false) rest
      | 'n' :: rest => keyword? ['u', 'l', 'l'] .null rest
      | start => number? start

/-- The items of an array up to its bracket; `done` holds the earlier ones in reverse. -/
def itemsRest? : Nat → Nat → List Json → List Char → Option (Json × List Char)
  | 0, _, _, _ => none
  | steps + 1, depth, done, characters =>
      match value? steps depth characters with
      | none => none
      | some (item, after) =>
          match skipSpaces after with
          | ',' :: rest => itemsRest? steps depth (item :: done) rest
          | ']' :: rest => some (.array (item :: done).reverse, rest)
          | _ => none

/-- The fields of an object up to its brace; `done` holds the earlier ones in reverse. -/
def fieldsRest? : Nat → Nat → List (String × Json) → List Char → Option (Json × List Char)
  | 0, _, _, _ => none
  | steps + 1, depth, done, characters =>
      match skipSpaces characters with
      | '"' :: afterQuote =>
          match stringRest? [] afterQuote with
          | none => none
          | some (name, afterName) =>
              match skipSpaces afterName with
              | ':' :: afterColon =>
                  match value? steps depth afterColon with
                  | none => none
                  | some (content, after) =>
                      match skipSpaces after with
                      | ',' :: rest => fieldsRest? steps depth ((name, content) :: done) rest
                      | '\x7d' :: rest => some (.object ((name, content) :: done).reverse, rest)
                      | _ => none
              | _ => none
      | _ => none

end

/-- The document that a text writes, with containers nested at most `depth` deep. -/
def parseWithin? (depth : Nat) (text : String) : Option Json :=
  let characters := text.toList
  match value? (2 * characters.length + 2) depth characters with
  | some (document, rest) => if (skipSpaces rest).isEmpty then some document else none
  | none => none

/-- The document that a text writes. -/
def parse? (text : String) : Option Json :=
  parseWithin? text.length text

end Json
end ObjectQuery
