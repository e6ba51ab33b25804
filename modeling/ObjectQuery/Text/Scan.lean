import ObjectQuery.Text.Ascii
import ObjectQuery.Text.Quoted
import ObjectQuery.Text.Search

/-!
# Scanning statements

What can be read off the text of a statement: the parameters it refers to, whether
its parentheses are balanced, and the order of its clauses. Quotes open and close
literals, in which neither references nor parentheses count.
-/

namespace ObjectQuery
namespace Text

/-- The name read so far, in reverse, is put before further names unless it is empty. -/
def addName (name : List Char) (names : List String) : List String :=
  if name.isEmpty then names else String.ofList name.reverse :: names

/--
The names of the references in a text. The flag tells whether a literal is open; a
name that is being read is held in reverse.
-/
def referencesFrom (marker : Char) : Bool → Option (List Char) → List Char → List String
  | _, none, [] => []
  | _, some name, [] => addName name []
  | literal, none, character :: rest =>
      if character = quoteMark then
        referencesFrom marker (!literal) none rest
      else if character = marker ∧ literal = false then
        referencesFrom marker literal (some []) rest
      else
        referencesFrom marker literal none rest
  | literal, some name, character :: rest =>
      if isNameCharacter character then
        referencesFrom marker literal (some (character :: name)) rest
      else if character = quoteMark then
        addName name (referencesFrom marker (!literal) none rest)
      else if character = marker then
        addName name (referencesFrom marker literal (some []) rest)
      else
        addName name (referencesFrom marker literal none rest)

/-- One more character outside names. -/
theorem referencesFrom_none_cons
    (marker : Char)
    (literal : Bool)
    (character : Char)
    (rest : List Char) :
    referencesFrom marker literal none (character :: rest) =
      if character = quoteMark then
        referencesFrom marker (!literal) none rest
      else if character = marker ∧ literal = false then
        referencesFrom marker literal (some []) rest
      else
        referencesFrom marker literal none rest :=
  rfl

/-- One more character after a name, which it continues or ends. -/
theorem referencesFrom_some_cons
    (marker : Char)
    (literal : Bool)
    (name : List Char)
    (character : Char)
    (rest : List Char) :
    referencesFrom marker literal (some name) (character :: rest) =
      if isNameCharacter character then
        referencesFrom marker literal (some (character :: name)) rest
      else if character = quoteMark then
        addName name (referencesFrom marker (!literal) none rest)
      else if character = marker then
        addName name (referencesFrom marker literal (some []) rest)
      else
        addName name (referencesFrom marker literal none rest) :=
  rfl

/-- The names of the parameters that a text refers to, in order. -/
def referencesIn (text : String) (marker : Char) : List String :=
  referencesFrom marker false none text.toList

/-- Whether parentheses outside literals are balanced, so many being open. -/
def balancedFrom : Nat → Bool → List Char → Bool
  | depth, _, [] => depth == 0
  | depth, literal, character :: rest =>
      if character = quoteMark then
        balancedFrom depth (!literal) rest
      else if literal then
        balancedFrom depth literal rest
      else if character = '(' then
        balancedFrom (depth + 1) literal rest
      else if character = ')' then
        match depth with
        | 0 => false
        | depth + 1 => balancedFrom depth literal rest
      else
        balancedFrom depth literal rest

theorem balancedFrom_cons
    (depth : Nat)
    (literal : Bool)
    (character : Char)
    (rest : List Char) :
    balancedFrom depth literal (character :: rest) =
      if character = quoteMark then
        balancedFrom depth (!literal) rest
      else if literal then
        balancedFrom depth literal rest
      else if character = '(' then
        balancedFrom (depth + 1) literal rest
      else if character = ')' then
        match depth with
        | 0 => false
        | depth + 1 => balancedFrom depth literal rest
      else
        balancedFrom depth literal rest :=
  rfl

/-- Whether parentheses outside literals are balanced. -/
def isBalanced (text : String) : Bool :=
  balancedFrom 0 false text.toList

/-- Whether a text holds a pair of parentheses with nothing between them. -/
def hasEmptyGroup (text : String) : Bool :=
  contains text "()"

/-- Whether texts occur one after the other. -/
def occurInOrder (characters : List Char) : List String → Bool
  | [] => true
  | clause :: rest =>
      match afterFirst? clause.toList characters with
      | some after => occurInOrder after rest
      | none => false

/-- Whether clauses occur in a statement in the given order. -/
def clausesInOrder (text : String) (clauses : List String) : Bool :=
  occurInOrder text.toList clauses

end Text
end ObjectQuery
