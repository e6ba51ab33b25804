import ObjectQuery.Expression.Basic
import ObjectQuery.Proofs.Parameters.Names

/-!
# Signs in front of names

A scan finds a reference wherever the marker stands right in front of a name. A marker that is
told apart from words, from what stands between words and from quotes can still be one of the
signs that statements write: a sign of comparison, a minus, or the brace of a literal. Here is
which signs a piece of text shows, those that stand in it right in front of a name.
-/

namespace ObjectQuery

/-- What a statement may write right in front of a name. -/
inductive Sign where
  | equals
  | less
  | greater
  | minus
  | brace
  deriving DecidableEq, Repr

namespace Sign

/-- The character of a sign. -/
def character : Sign → Char
  | .equals => '='
  | .less => '<'
  | .greater => '>'
  | .minus => '-'
  | .brace => '\x7b'

theorem character_mem (sign : Sign) : sign.character ∈ ['=', '<', '>', '-', '\x7b'] := by
  cases sign <;> decide

/-- The sign in front of something, where it begins with a name. -/
def inFront (sign : Sign) (begins : Bool) : List Sign :=
  if begins then [sign] else []

end Sign

/-- The last character of an operator. -/
def CompareOperator.sign : CompareOperator → Sign
  | .equal | .greater true | .less true => .equals
  | .notEqual | .greater false => .greater
  | .less false => .less

namespace Text

/-- A character of words, or one that stands between words and marks no references. -/
def isNeutral (character : Char) : Bool :=
  isNameCharacter character || " (),.".toList.contains character

/-- A marker of references that is told apart from words, from what is between them, and from
quotes. -/
structure Accepted (marker : Char) : Prop where
  neutral : isNeutral marker = false
  quote : marker ≠ quoteMark

/-- The scan passes over the text, whatever follows. -/
def Passes (marker : Char) (text : String) : Prop :=
  ∀ rest, referencesFrom marker false none (text.toList ++ rest) =
    referencesFrom marker false none rest

/-- The scan finds a reference in the text if the marker is among the signs, and only then. -/
def Shows (marker : Char) (text : String) (signs : List Sign) : Prop :=
  ∀ rest, Separated rest →
    (referencesFrom marker false none (text.toList ++ rest) ≠ [] ↔
      marker ∈ signs.map Sign.character ∨ referencesFrom marker false none rest ≠ [])

variable {marker : Char} {text text' : String} {signs signs' : List Sign}

/-! ## Putting pieces together -/

theorem Passes.append (passes : Passes marker text) (passes' : Passes marker text') :
    Passes marker (text ++ text') := by
  intro rest
  rw [String.toList_append, List.append_assoc, passes, passes']

theorem Passes.shows (passes : Passes marker text) : Shows marker text [] := by
  intro rest _
  simp [passes rest]

theorem passes_intercalate
    {separator : String}
    {texts : List String}
    (passes : Passes marker separator)
    (each : ∀ text ∈ texts, Passes marker text) :
    Passes marker (separator.intercalate texts) := by
  induction texts with
  | nil => exact fun _ => rfl
  | cons first rest inductionHypothesis =>
      obtain ⟨here, later⟩ := List.forall_mem_cons.mp each
      cases rest with
      | nil => simpa using here
      | cons second rest =>
          rw [String.intercalate_cons_cons]
          exact (here.append passes).append (inductionHypothesis later)

/-- What is passed over needs nothing behind it. -/
theorem Passes.before (passes : Passes marker text) (shows' : Shows marker text' signs) :
    Shows marker (text ++ text') signs := by
  intro rest separated
  rw [String.toList_append, List.append_assoc, passes]
  exact shows' rest separated

namespace Shows

theorem append
    (shown : Shows marker text signs)
    (apart : Apart text')
    (shown' : Shows marker text' signs') :
    Shows marker (text ++ text') (signs ++ signs') := by
  intro rest separated
  rw [String.toList_append, List.append_assoc, shown _ (apart.separated separated),
    shown' rest separated, List.map_append, List.mem_append, or_assoc]

theorem andThen
    (shown : Shows marker text signs)
    (apart : Apart text')
    (passes : Passes marker text') :
    Shows marker (text ++ text') signs := by
  simpa using shown.append apart passes.shows

/-- Two pieces with words between them. -/
theorem joined
    (shown : Shows marker text signs)
    {separator : String}
    (apart : Apart separator)
    (visible : separator ≠ "")
    (passes : Passes marker separator)
    (shown' : Shows marker text' signs') :
    Shows marker (text ++ (separator ++ text')) (signs ++ signs') :=
  shown.append (apart.append_left visible) (passes.before shown')

end Shows

/-! ## Words -/

theorem referencesFrom_of_neutral
    (accepted : Accepted marker)
    {character : Char}
    (neutral : isNeutral character = true)
    (rest : List Char) :
    referencesFrom marker false none (character :: rest) =
      referencesFrom marker false none rest := by
  have noQuote : character ≠ quoteMark := by
    rintro rfl
    revert neutral
    decide
  have noMarker : character ≠ marker := by
    rintro rfl
    simp [accepted.neutral] at neutral
  simp [referencesFrom_none_cons, noQuote, noMarker]

/-- Neutral characters are passed over. -/
theorem passes_of_neutral
    (accepted : Accepted marker)
    (neutral : text.toList.all isNeutral = true) :
    Passes marker text := by
  intro rest
  generalize text.toList = characters at neutral
  induction characters with
  | nil => rfl
  | cons character characters inductionHypothesis =>
      simp only [List.all_cons, Bool.and_eq_true] at neutral
      rw [List.cons_append, referencesFrom_of_neutral accepted neutral.1,
        inductionHypothesis neutral.2]

theorem passes_quote (marker : Char) (text : String) : Passes marker (quote text) :=
  (plain_quote text).references

theorem isNeutral_of_isNameCharacter {character : Char} (name : isNameCharacter character = true) :
    isNeutral character = true := by
  simp [isNeutral, name]

theorem isNeutral_of_isDottedIdentifier {name : String} (dotted : isDottedIdentifier name = true) :
    name.toList.all isNeutral = true := by
  rw [List.all_eq_true]
  intro character member
  rcases mem_segmentsOf member with rfl | ⟨segment, among, inSegment⟩
  · decide
  · exact isNeutral_of_isNameCharacter
      (nameCharacters_of_isIdentifier (List.all_eq_true.mp dotted segment among) character inSegment)

/-! ## Signs -/

/-- A name that has begun is found in any case. -/
theorem referencesFrom_some_ne_nil {name : List Char} (begun : name ≠ []) (characters : List Char) :
    referencesFrom marker false (some name) characters ≠ [] := by
  have found : ∀ names, addName name names ≠ [] := fun names => by simp [addName, begun]
  induction characters generalizing name with
  | nil => exact found []
  | cons character rest inductionHypothesis =>
      rw [referencesFrom_some_cons]
      split
      · exact inductionHypothesis (List.cons_ne_nil _ _) fun names => by simp [addName]
      · split
        · exact found _
        · split <;> exact found _

/-- A sign is found if it is the marker and a name follows it. -/
theorem referencesFrom_sign
    {sign : Char}
    (unquoted : sign ≠ quoteMark)
    (rest : List Char) :
    referencesFrom marker false none (sign :: rest) ≠ [] ↔
      (sign = marker ∧ ¬ Separated rest) ∨ referencesFrom marker false none rest ≠ [] := by
  rw [referencesFrom_none_cons, if_neg unquoted]
  by_cases same : sign = marker
  · rw [if_pos ⟨same, rfl⟩]
    by_cases separated : Separated rest
    · rw [referencesFrom_some separated]
      simp [separated, addName]
    · have found : referencesFrom marker false (some []) rest ≠ [] := by
        cases rest with
        | nil => exact absurd separated_nil separated
        | cons character rest =>
            have name : isNameCharacter character = true := by simpa [Separated] using separated
            rw [referencesFrom_some_cons, if_pos name]
            exact referencesFrom_some_ne_nil (List.cons_ne_nil _ _) rest
      simp [same, separated, found]
  · simp [same]

/-- Of the characters of an operator only the last one can stand in front of a name. -/
theorem referencesFrom_symbol (operator : CompareOperator) (rest : List Char) :
    referencesFrom marker false none (operator.symbol.toList ++ rest) ≠ [] ↔
      (operator.sign.character = marker ∧ ¬ Separated rest) ∨
        referencesFrom marker false none rest ≠ [] := by
  have single : ∀ {sign : Char}, sign ≠ quoteMark → ∀ rest,
      referencesFrom marker false none ([sign] ++ rest) ≠ [] ↔
        (sign = marker ∧ ¬ Separated rest) ∨ referencesFrom marker false none rest ≠ [] :=
    fun unquoted rest => referencesFrom_sign unquoted rest
  have double : ∀ {sign sign' : Char}, sign ≠ quoteMark → sign' ≠ quoteMark →
      isNameCharacter sign' = false → ∀ rest,
      referencesFrom marker false none ([sign, sign'] ++ rest) ≠ [] ↔
        (sign' = marker ∧ ¬ Separated rest) ∨ referencesFrom marker false none rest ≠ [] := by
    intro sign sign' unquoted unquoted' noName rest
    have separated : Separated (sign' :: rest) := by simpa [Separated] using noName
    rw [List.cons_append, referencesFrom_sign unquoted, ← referencesFrom_sign unquoted']
    simp [separated]
  match operator with
  | .equal => exact single (by decide) rest
  | .notEqual => exact double (by decide) (by decide) (by decide) rest
  | .greater false => exact single (by decide) rest
  | .greater true => exact double (by decide) (by decide) (by decide) rest
  | .less false => exact single (by decide) rest
  | .less true => exact double (by decide) (by decide) (by decide) rest

theorem separated_append_iff {rest : List Char} (separated : Separated rest) :
    Separated (text.toList ++ rest) ↔ Apart text := by
  refine ⟨fun both => ?_, fun apart => apart.separated separated⟩
  unfold Apart
  cases equal : text.toList with
  | nil => exact separated_nil
  | cons character characters =>
      rw [equal] at both
      simpa [Separated] using both

/-- An operator shows its sign in front of a name. -/
theorem Shows.behind
    (shown : Shows marker text signs)
    (operator : CompareOperator)
    {begins : Bool}
    (start : ¬ Apart text ↔ begins = true) :
    Shows marker (operator.symbol ++ text) (operator.sign.inFront begins ++ signs) := by
  intro rest separated
  rw [String.toList_append, List.append_assoc, referencesFrom_symbol, shown rest separated,
    separated_append_iff separated, start, List.map_append, List.mem_append, or_assoc]
  cases begins <;> simp [Sign.inFront, @eq_comm _ marker]

theorem apart_symbol (operator : CompareOperator) :
    Apart operator.symbol ∧ operator.symbol ≠ "" := by
  match operator with
  | .equal => decide
  | .notEqual => decide
  | .greater false => decide
  | .greater true => decide
  | .less false => decide
  | .less true => decide

end Text
end ObjectQuery
