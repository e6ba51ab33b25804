import ObjectQuery.FunctionSpelling

/-!
# Calls in the standard spellings

Every standard spelling of a function with an argument ends with the argument and a closing
parenthesis; what stands before the argument depends on the function and the platform. The
functions without arguments are written as one word.
-/

namespace ObjectQuery
namespace FunctionKind

/-- What a call writes before its argument. -/
def opening (platform : Platform) : FunctionKind → String
  | .year => datePart "YEAR"
  | .month => datePart "MONTH"
  | .day => datePart "DAY"
  | .hour => datePart "HOUR"
  | kind => kind.name ++ "("
where
  /-- What stands before the date of which a part is taken. -/
  datePart (part : String) : String :=
    match platform with
    | .hibernate => Text.asciiLower part ++ "("
    | .openJpa => "FUNCTION('" ++ part ++ "', "
    | .dataNucleus => part ++ "("
    | .eclipseLink | .unknown => "EXTRACT(" ++ part ++ " FROM "

theorem opening_ne_nil (platform : Platform) (kind : FunctionKind) :
    (kind.opening platform).toList ≠ [] := by
  unfold opening
  split
  case h_5 => simp
  all_goals
    unfold opening.datePart
    cases platform <;> simp

/-- The word for a function without arguments. -/
def word : FunctionKind → String
  | .currentDate => "CURRENT_DATE"
  | .currentTime => "CURRENT_TIME"
  | .currentTimestamp => "CURRENT_TIMESTAMP"
  | kind => kind.name

/-- A function has one argument or none. -/
theorem arity_cases (kind : FunctionKind) : kind.arity = 0 ∨ kind.arity = 1 := by
  cases kind <;> decide

theorem standard_template
    (platform : Platform)
    {kind : FunctionKind}
    (unary : kind.arity = 1) :
    ∃ spelling, SpellingRegistry.standard.find? platform kind = some spelling ∧
      spelling.template.toList = (kind.opening platform).toList ++ "\x7b0\x7d)".toList ∧
      '\x7b' ∉ (kind.opening platform).toList := by
  cases kind with
  | currentDate | currentTime | currentTimestamp => simp [arity] at unary
  | _ => cases platform <;> exact ⟨_, rfl, by decide, by decide⟩

end FunctionKind

/-- The argument takes the place of its mark. -/
theorem Text.replaceFrom_placeholder
    {start : List Char}
    (argument : List Char)
    (unmarked : '\x7b' ∉ start) :
    replaceFrom (FunctionSpelling.placeholder 0).toList argument 0
        (start ++ "\x7b0\x7d)".toList) =
      start ++ argument ++ [')'] := by
  have mark : (FunctionSpelling.placeholder 0).toList = ['\x7b', '0', '\x7d'] := by decide
  have finish : "\x7b0\x7d)".toList = ['\x7b', '0', '\x7d', ')'] := by decide
  rw [mark, finish]
  induction start with
  | nil => simp [replaceFrom, List.isPrefixOf]
  | cons character start inductionHypothesis =>
      simp only [List.mem_cons, not_or] at unmarked
      have different : ('\x7b' == character) = false := by simpa using unmarked.1
      simp [replaceFrom, List.isPrefixOf, different, inductionHypothesis unmarked.2]

namespace SpellingRegistry

/-- A call is its opening, the argument, and a closing parenthesis. -/
theorem standard_call
    (platform : Platform)
    {kind : FunctionKind}
    (unary : kind.arity = 1)
    (argument : String)
    (distinct : Bool) :
    standard.render? platform kind [argument] distinct =
      some (kind.opening platform ++ ((if distinct then "DISTINCT " else "") ++ argument) ++
        ")") := by
  obtain ⟨spelling, found, template, unmarked⟩ := FunctionKind.standard_template platform unary
  simp only [render?, found, Option.map_some, FunctionSpelling.render, FunctionSpelling.fill,
    Text.replaceAll, template, Text.replaceFrom_placeholder _ unmarked]
  congr 1
  apply String.toList_inj.mp
  cases distinct <;> simp

theorem standard_word
    (platform : Platform)
    {kind : FunctionKind}
    (nullary : kind.arity = 0)
    (distinct : Bool) :
    standard.render? platform kind [] distinct = some kind.word := by
  cases kind with
  | currentDate | currentTime | currentTimestamp => cases platform <;> rfl
  | _ => simp [FunctionKind.arity] at nullary

end SpellingRegistry
end ObjectQuery
