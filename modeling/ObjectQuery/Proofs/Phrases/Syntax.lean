import ObjectQuery.Proofs.Spelling
import ObjectQuery.Resolution.BuiltIn

/-!
# Phrases

What is left of a condition without sub-queries once it is written: names, bound values and
the words between them. Conditions that mean the same may have one phrase: a disjunction of
one condition is taken for a conjunction, and a list of one value for the value. The
characters of a phrase depend on how many parameters were bound before it.
-/

namespace ObjectQuery
namespace Phrase

/-! ## Terms, tests and conditions -/

/-- An operand. -/
inductive Term where
  | name (text : String)
  | null
  | value (bound : Value)
  /-- A call without arguments. -/
  | word (kind : FunctionKind)
  | call (kind : FunctionKind) (distinct : Bool) (argument : Term)

/-- What stands behind `IN`. -/
inductive Members where
  | listed (first : Value) (rest : List Value)
  | single (only : Term)

/-- What is tested of a term. -/
inductive Predicate where
  | isNull (negated : Bool)
  | compare (operator : CompareOperator) (right : Term)
  | between (lower upper : Term)
  | isIn (negated : Bool) (members : Members)
  | like (pattern : String)

/-- What a predicate says of its terms. -/
inductive Form where
  | isNull (negated : Bool)
  | compare (operator : CompareOperator)
  | between
  | isIn (negated : Bool)
  | like
  deriving DecidableEq

/-- The form of a predicate. -/
def Predicate.form : Predicate → Form
  | .isNull negated => .isNull negated
  | .compare operator _ => .compare operator
  | .between _ _ => .between
  | .isIn negated _ => .isIn negated
  | .like _ => .like

/-- A condition. -/
inductive Condition where
  | test (subject : Term) (predicate : Predicate)
  /-- A conjunction or a disjunction of one condition or more. -/
  | junction (conjunctive : Bool) (first : Condition) (rest : List Condition)
  | not (condition : Condition)

/-! ## Bound values -/

/-- The values that a term binds. -/
def Term.values : Term → List Value
  | .value bound => [bound]
  | .call _ _ argument => argument.values
  | .name _ | .null | .word _ => []

/-- The values that members bind. -/
def Members.values : Members → List Value
  | .listed first rest => first :: rest
  | .single only => only.values

/-- The values that a predicate binds. -/
def Predicate.values : Predicate → List Value
  | .isNull _ => []
  | .compare _ right => right.values
  | .between lower upper => lower.values ++ upper.values
  | .isIn _ members => members.values
  | .like pattern => [.string pattern]

mutual

/-- The values that a condition binds. -/
def Condition.values : Condition → List Value
  | .test subject predicate => subject.values ++ predicate.values
  | .junction _ first rest => Condition.values first ++ Condition.allValues rest
  | .not condition => Condition.values condition

/-- The values that some conditions bind. -/
def Condition.allValues : List Condition → List Value
  | [] => []
  | first :: rest => Condition.values first ++ Condition.allValues rest

end

/-! ## Characters -/

section

variable (dialect : Dialect)

/-- The reference to the parameter that is bound after so many others. -/
def reference (bound : Nat) : List Char :=
  (dialect.referenceTo (dialect.numberedName (bound + 1))).toList

/-- An argument that may be marked as distinct. -/
def marked (distinct : Bool) (argument : List Char) : List Char :=
  if distinct then "DISTINCT ".toList ++ argument else argument

/-- The characters of a term. -/
def Term.characters (bound : Nat) : Term → List Char
  | .name text => text.toList
  | .null => "NULL".toList
  | .value _ => reference dialect bound
  | .word kind => kind.word.toList
  | .call kind distinct argument =>
      (kind.opening dialect.platform).toList ++
        (marked distinct (argument.characters bound) ++ [')'])

/-- The references behind the first one, each after a comma. -/
def otherReferences (bound : Nat) : List Value → List Char
  | [] => []
  | _ :: rest => ',' :: reference dialect bound ++ otherReferences (bound + 1) rest

/-- The characters of members. -/
def Members.characters (bound : Nat) : Members → List Char
  | .listed _ rest => reference dialect bound ++ otherReferences dialect (bound + 1) rest
  | .single only => only.characters dialect bound

/-- The words with which a predicate of a form begins. -/
def Form.keyword : Form → String
  | .isNull negated => if negated then " IS NOT NULL" else " IS NULL"
  | .compare operator => operator.symbol
  | .between => " BETWEEN "
  | .isIn negated => if negated then " NOT IN (" else " IN ("
  | .like => " LIKE "

/-- What follows the first words of a predicate. -/
def Predicate.remainder (bound : Nat) : Predicate → List Char
  | .isNull _ => []
  | .compare _ right => right.characters dialect bound
  | .between lower upper =>
      lower.characters dialect bound ++
        (" AND ".toList ++ upper.characters dialect (bound + lower.values.length))
  | .isIn _ members => members.characters dialect bound ++ [')']
  | .like _ => reference dialect bound ++ (" " ++ dialect.escapeSuffix).toList

/-- What opens each condition of a junction behind the first one. -/
def separator (conjunctive : Bool) : List Char :=
  if conjunctive then " AND (".toList else " OR (".toList

mutual

/-- The characters of a condition. -/
def Condition.characters (bound : Nat) : Condition → List Char
  | .test subject predicate =>
      subject.characters dialect bound ++
        (predicate.form.keyword.toList ++
          predicate.remainder dialect (bound + subject.values.length))
  | .junction conjunctive first rest =>
      '(' :: (Condition.characters bound first ++
        ')' :: Condition.others conjunctive (bound + (Condition.values first).length) rest)
  | .not condition => "NOT (".toList ++ (Condition.characters bound condition ++ [')'])

/-- The conditions of a junction behind the first one, each after the word. -/
def Condition.others (conjunctive : Bool) (bound : Nat) : List Condition → List Char
  | [] => []
  | first :: rest =>
      separator conjunctive ++
        (Condition.characters bound first ++
          ')' :: Condition.others conjunctive (bound + (Condition.values first).length) rest)

end

end

/-! ## Phrases that are written -/

/-- The words that stand for no property. -/
def reserved : List String :=
  ["NULL", "CURRENT_DATE", "CURRENT_TIME", "CURRENT_TIMESTAMP"]

/-- A term with dotted names that are no words, and calls with as many arguments as they take. -/
def Term.IsWritten : Term → Prop
  | .name text => Text.isDottedIdentifier text = true ∧ text ∉ reserved
  | .null | .value _ => True
  | .word kind => kind.arity = 0
  | .call kind _ argument => kind.arity = 1 ∧ argument.IsWritten

/-- Members of which a single one is no bound value. -/
def Members.IsWritten : Members → Prop
  | .listed _ _ => True
  | .single only => (∀ bound, only ≠ .value bound) ∧ only.IsWritten

/-- A predicate of written terms. -/
def Predicate.IsWritten : Predicate → Prop
  | .isNull _ | .like _ => True
  | .compare _ right => right.IsWritten
  | .between lower upper => lower.IsWritten ∧ upper.IsWritten
  | .isIn _ members => members.IsWritten

mutual

/-- A condition of written tests, in which a junction of one condition is a conjunction. -/
def Condition.IsWritten : Condition → Prop
  | .test subject predicate => subject.IsWritten ∧ predicate.IsWritten
  | .junction conjunctive first rest =>
      (rest = [] → conjunctive = true) ∧
        Condition.IsWritten first ∧ Condition.AreWritten rest
  | .not condition => Condition.IsWritten condition

/-- Conditions of written tests. -/
def Condition.AreWritten : List Condition → Prop
  | [] => True
  | first :: rest => Condition.IsWritten first ∧ Condition.AreWritten rest

end

end Phrase

/-! ## The phrases of filters -/

open Phrase

mutual

/-- The term of a path, a constant or a call; no other node has one. -/
def Expression.term : Expression → Term
  | .path found => .name found.fullName
  | .constant .null => .null
  | .constant value => .value value
  | .function call => Expression.callTerm call
  | _ => .null

/-- The term of a call. -/
def Expression.callTerm : FunctionCall → Term
  | .mk kind [] _ => .word kind
  | .mk kind (argument :: _) distinct => .call kind distinct (Expression.term argument)

end

/-- What is searched: the items of a list, else one operand. -/
def Expression.members : Expression → Members
  | .constant (.list (first :: rest)) => .listed first rest
  | .constant (.list []) | .constant .null => .single .null
  | .constant value => .listed value []
  | other => .single other.term

/-- The text that a string match looks for. -/
def Expression.needle (value : Expression) : String :=
  (value.constant?.bind Value.text?).getD ""

mutual

/--
The phrase of a condition. A junction without conditions, which is never written, is taken for
a test that always holds or never does.
-/
def Filter.phrase (dialect : Dialect) : Filter → Condition
  | .isNull operand => .test operand.term (.isNull false)
  | .isNotNull operand => .test operand.term (.isNull true)
  | .compare left operator right => .test left.term (.compare operator right.term)
  | .between operand lower upper => .test operand.term (.between lower.term upper.term)
  | .isIn left right => .test left.term (.isIn false right.members)
  | .isNotIn left right => .test left.term (.isIn true right.members)
  | .stringMatch left value mode ignoreCase =>
      .test (if ignoreCase then .call .lower false left.term else left.term)
        (.like (BuiltIn.matchPattern dialect value.needle mode ignoreCase))
  | .and [] => .test .null (.isNull false)
  | .or [] | .hasRows _ | .hasNoRows _ => .test .null (.isNull true)
  | .and (first :: rest) =>
      .junction true (Filter.phrase dialect first) (Filter.phrases dialect rest)
  | .or (first :: rest) =>
      .junction rest.isEmpty (Filter.phrase dialect first) (Filter.phrases dialect rest)
  | .not condition => .not (Filter.phrase dialect condition)

/-- The phrases of conditions. -/
def Filter.phrases (dialect : Dialect) : List Filter → List Condition
  | [] => []
  | first :: rest => Filter.phrase dialect first :: Filter.phrases dialect rest

end

/-! ## Plain filters -/

mutual

/--
An operand that is an unqualified path, whose dotted name is no word of the language, a
constant that is no list, or a call of such operands.
-/
def Expression.IsPlain : Expression → Prop
  | .path found => found.qualifier? = none ∧ Text.isDottedIdentifier found.fullName = true ∧
      found.fullName ∉ reserved
  | .constant value => value.isList = false
  | .function call => Expression.IsPlainCall call
  | _ => False

/-- A call of plain operands. -/
def Expression.IsPlainCall : FunctionCall → Prop
  | .mk _ arguments _ => Expression.ArePlain arguments

/-- Plain operands. -/
def Expression.ArePlain : List Expression → Prop
  | [] => True
  | first :: rest => Expression.IsPlain first ∧ Expression.ArePlain rest

end

/-- What is searched is a constant, which may be a list, or a plain operand. -/
def Expression.IsSearchable : Expression → Prop
  | .constant _ => True
  | other => other.IsPlain

mutual

/-- A condition of plain operands; lists are only searched, and there are no sub-queries. -/
def Filter.IsPlain : Filter → Prop
  | .isNull operand | .isNotNull operand => operand.IsPlain
  | .compare left _ right => left.IsPlain ∧ right.IsPlain
  | .between operand lower upper => operand.IsPlain ∧ lower.IsPlain ∧ upper.IsPlain
  | .isIn left right | .isNotIn left right => left.IsPlain ∧ right.IsSearchable
  | .stringMatch left _ _ _ => left.IsPlain
  | .and conditions | .or conditions => Filter.ArePlain conditions
  | .not condition => Filter.IsPlain condition
  | .hasRows _ | .hasNoRows _ => False

/-- Conditions of plain operands. -/
def Filter.ArePlain : List Filter → Prop
  | [] => True
  | first :: rest => Filter.IsPlain first ∧ Filter.ArePlain rest

end

end ObjectQuery
