import ObjectQuery.Text.Scan

/-!
# What a scan reads off pieces of text

The scan of a statement goes from left to right. A piece of text reads certain names when
the scan, coming to it outside literals, finds these names in it, and leaves it outside
literals with as many parentheses open as before. Whether a name goes on is seen only in
the character that follows it, so pieces are put together where no name can go on.

A plain piece reads no names whatever follows it. Most of what a statement writes between
its operands is plain: it holds words and signs that are not the marker of references.
-/

namespace ObjectQuery
namespace Text

/-- No name goes on in what is left of a text. -/
def Separated (characters : List Char) : Prop :=
  ∀ character ∈ characters.head?, isNameCharacter character = false

/-- No name that stands before a text goes on in it. -/
def Apart (text : String) : Prop :=
  Separated text.toList

instance (text : String) : Decidable (Apart text) :=
  decidable_of_iff ((text.toList.head?.all fun character => !isNameCharacter character) = true)
    (by simp [Apart, Separated, Option.all_eq_true])

/-- A character of words and signs, none of which opens or closes anything. -/
def isPlainCharacter (character : Char) : Bool :=
  isNameCharacter character || " ,.=<>-\x7b".toList.contains character

/-- A marker of references that is told apart from words, signs, parentheses and quotes. -/
structure Distinct (marker : Char) : Prop where
  plain : isPlainCharacter marker = false
  quote : marker ≠ quoteMark
  opening : marker ≠ '('
  closing : marker ≠ ')'

/-- The scan reads the names off the text and leaves literals and parentheses as they were. -/
structure Reads (marker : Char) (text : String) (names : List String) : Prop where
  references : ∀ rest, Separated rest →
    referencesFrom marker false none (text.toList ++ rest) =
      names ++ referencesFrom marker false none rest
  balance : ∀ depth rest,
    balancedFrom depth false (text.toList ++ rest) = balancedFrom depth false rest

/-- The scan passes over the text, whatever follows. -/
structure Plain (marker : Char) (text : String) : Prop where
  references : ∀ rest, referencesFrom marker false none (text.toList ++ rest) =
    referencesFrom marker false none rest
  balance : ∀ depth rest,
    balancedFrom depth false (text.toList ++ rest) = balancedFrom depth false rest

/-- The scan passes over the text, one more parenthesis being open after it. -/
structure Opening (marker : Char) (text : String) : Prop where
  references : ∀ rest, referencesFrom marker false none (text.toList ++ rest) =
    referencesFrom marker false none rest
  balance : ∀ depth rest,
    balancedFrom depth false (text.toList ++ rest) = balancedFrom (depth + 1) false rest

variable {marker : Char} {text text' : String} {names names' : List String}

/-! ## Putting pieces together -/

theorem separated_nil : Separated [] := by
  simp [Separated]

theorem Apart.separated
    (apart : Apart text)
    {rest : List Char}
    (separated : Separated rest) :
    Separated (text.toList ++ rest) := by
  unfold Apart at apart
  cases equal : text.toList with
  | nil => simpa using separated
  | cons character characters =>
      rw [equal] at apart
      simpa [Separated] using apart

theorem Apart.append
    (apart : Apart text)
    (apart' : Apart text') :
    Apart (text ++ text') := by
  rw [Apart, String.toList_append]
  exact apart.separated apart'

theorem Apart.append_left (apart : Apart text) (visible : text ≠ "") : Apart (text ++ text') := by
  unfold Apart at apart ⊢
  cases equal : text.toList with
  | nil => exact absurd (String.toList_eq_nil_iff.mp equal) visible
  | cons character characters =>
      rw [equal] at apart
      simpa [Separated, equal] using apart

namespace Plain

theorem empty : Plain marker "" :=
  ⟨fun _ => rfl, fun _ _ => rfl⟩

theorem reads (plain : Plain marker text) : Reads marker text [] :=
  ⟨fun rest _ => plain.references rest, plain.balance⟩

theorem append (plain : Plain marker text) (plain' : Plain marker text') :
    Plain marker (text ++ text') where
  references rest := by
    rw [String.toList_append, List.append_assoc, plain.references, plain'.references]
  balance depth rest := by
    rw [String.toList_append, List.append_assoc, plain.balance, plain'.balance]

/-- A plain piece before another needs nothing between them. -/
theorem before (plain : Plain marker text) (reads : Reads marker text' names) :
    Reads marker (text ++ text') names where
  references rest separated := by
    rw [String.toList_append, List.append_assoc, plain.references,
      reads.references rest separated]
  balance depth rest := by
    rw [String.toList_append, List.append_assoc, plain.balance, reads.balance]

end Plain

namespace Reads

theorem append
    (reads : Reads marker text names)
    (apart : Apart text')
    (reads' : Reads marker text' names') :
    Reads marker (text ++ text') (names ++ names') where
  references rest separated := by
    rw [String.toList_append, List.append_assoc,
      reads.references _ (apart.separated separated), reads'.references rest separated,
      List.append_assoc]
  balance depth rest := by
    rw [String.toList_append, List.append_assoc, reads.balance, reads'.balance]

/-- Plain words after a piece. -/
theorem andThen
    (reads : Reads marker text names)
    (apart : Apart text')
    (plain : Plain marker text') :
    Reads marker (text ++ text') names := by
  simpa using reads.append apart plain.reads

/-- Two pieces with plain words between them. -/
theorem joined
    (reads : Reads marker text names)
    (separator : String)
    (apart : Apart separator)
    (visible : separator ≠ "")
    (plain : Plain marker separator)
    (reads' : Reads marker text' names') :
    Reads marker (text ++ separator ++ text') (names ++ names') := by
  rw [String.append_assoc]
  exact reads.append (apart.append_left visible) (plain.before reads')

end Reads

/-! ## Single pieces -/

theorem referencesFrom_of_plain
    (distinct : Distinct marker)
    {character : Char}
    (plain : isPlainCharacter character = true)
    (rest : List Char) :
    referencesFrom marker false none (character :: rest) =
      referencesFrom marker false none rest := by
  have notQuote : character ≠ quoteMark := by
    rintro rfl
    revert plain
    decide
  have notMarker : character ≠ marker := by
    rintro rfl
    simp [distinct.plain] at plain
  simp [referencesFrom_none_cons, notQuote, notMarker]

theorem balancedFrom_of_plain
    {character : Char}
    (plain : isPlainCharacter character = true)
    (depth : Nat)
    (rest : List Char) :
    balancedFrom depth false (character :: rest) = balancedFrom depth false rest := by
  have notSign : ∀ sign ∈ [quoteMark, '(', ')'], character ≠ sign := by
    rintro sign member rfl
    revert plain
    simp only [List.mem_cons, List.not_mem_nil, or_false] at member
    rcases member with rfl | rfl | rfl <;> decide
  have notQuote := notSign quoteMark (by simp)
  have notOpening := notSign '(' (by simp)
  have notClosing := notSign ')' (by simp)
  simp [balancedFrom_cons, notQuote, notOpening, notClosing]

/-- Words and signs are plain. -/
theorem plain_of_all
    (distinct : Distinct marker)
    (all : text.toList.all isPlainCharacter = true) :
    Plain marker text := by
  constructor
  · intro rest
    generalize text.toList = characters at all
    induction characters with
    | nil => rfl
    | cons character characters inductionHypothesis =>
        simp only [List.all_cons, Bool.and_eq_true] at all
        rw [List.cons_append, referencesFrom_of_plain distinct all.1, inductionHypothesis all.2]
  · intro depth rest
    generalize text.toList = characters at all
    induction characters with
    | nil => rfl
    | cons character characters inductionHypothesis =>
        simp only [List.all_cons, Bool.and_eq_true] at all
        rw [List.cons_append, balancedFrom_of_plain all.1, inductionHypothesis all.2]

/-- Words and signs before an opening parenthesis. -/
theorem Plain.opening (distinct : Distinct marker) (plain : Plain marker text) :
    Opening marker (text ++ "(") where
  references rest := by
    have notMarker := Ne.symm distinct.opening
    have notQuote : '(' ≠ quoteMark := by decide
    simp [plain.references, referencesFrom_none_cons, notMarker, notQuote]
  balance depth rest := by
    have notQuote : '(' ≠ quoteMark := by decide
    simp [plain.balance, balancedFrom_cons, notQuote]

/-- A piece between an opening parenthesis and the closing one. -/
theorem Opening.around
    (distinct : Distinct marker)
    (opening : Opening marker text)
    (reads : Reads marker text' names) :
    Reads marker (text ++ text' ++ ")") names where
  references rest separated := by
    have notQuote : ')' ≠ quoteMark := by decide
    have notMarker := Ne.symm distinct.closing
    have apart : Separated (')' :: rest) := by
      simp [Separated, isNameCharacter]
    have closes : referencesFrom marker false none (')' :: rest) =
        referencesFrom marker false none rest := by
      simp [referencesFrom_none_cons, notQuote, notMarker]
    have closing : ")".toList = [')'] := rfl
    simp only [String.toList_append, List.append_assoc, closing, List.singleton_append]
    rw [opening.references, reads.references _ apart, closes]
  balance depth rest := by
    have notQuote : ')' ≠ quoteMark := by decide
    have closing : ")".toList = [')'] := rfl
    simp only [String.toList_append, List.append_assoc, closing, List.singleton_append]
    rw [opening.balance, reads.balance]
    simp [balancedFrom_cons, notQuote]

theorem opening_of_all
    (distinct : Distinct marker)
    {word : String}
    (pieces : text = word ++ "(")
    (all : word.toList.all isPlainCharacter = true) :
    Opening marker text :=
  pieces ▸ (plain_of_all distinct all).opening distinct

/-- A piece, and after it another between parentheses. -/
theorem Reads.joinedAround
    (distinct : Distinct marker)
    (reads : Reads marker text names)
    (separator : String)
    (apart : Apart separator)
    (visible : separator ≠ "")
    (opening : Opening marker separator)
    (reads' : Reads marker text' names') :
    Reads marker (text ++ separator ++ text' ++ ")") (names ++ names') := by
  have around := opening.around distinct reads'
  rw [String.append_assoc] at around
  rw [String.append_assoc, String.append_assoc]
  exact reads.append (apart.append_left visible) around

/-- Plain words after an opening parenthesis. -/
theorem Opening.andThen (opening : Opening marker text) (plain : Plain marker text') :
    Opening marker (text ++ text') where
  references rest := by
    rw [String.toList_append, List.append_assoc, opening.references, plain.references]
  balance depth rest := by
    rw [String.toList_append, List.append_assoc, opening.balance, plain.balance]

/-- The name being read ends where the text is separated. -/
theorem referencesFrom_some
    {name rest : List Char}
    (separated : Separated rest) :
    referencesFrom marker false (some name) rest =
      addName name (referencesFrom marker false none rest) := by
  cases rest with
  | nil => rfl
  | cons character rest =>
      have ends : isNameCharacter character = false := separated character rfl
      simp only [referencesFrom_some_cons, referencesFrom_none_cons, ends, Bool.false_eq_true,
        if_false, and_true]
      by_cases quote : character = quoteMark
      · simp [quote]
      · simp only [quote, if_false]
        by_cases marks : character = marker
        · simp only [marks, if_true]
        · simp only [marks, if_false]

theorem referencesFrom_some_append
    {name characters rest : List Char}
    (all : characters.all isNameCharacter = true)
    (separated : Separated rest) :
    referencesFrom marker false (some name) (characters ++ rest) =
      addName (characters.reverse ++ name) (referencesFrom marker false none rest) := by
  induction characters generalizing name with
  | nil => exact referencesFrom_some separated
  | cons character characters inductionHypothesis =>
      simp only [List.all_cons, Bool.and_eq_true] at all
      simp only [List.cons_append, referencesFrom_some_cons, all.1, if_true,
        inductionHypothesis all.2]
      simp

/-- The marker with a name after it is read as that name. -/
theorem reads_reference
    (distinct : Distinct marker)
    {name : String}
    (all : name.toList.all isNameCharacter = true)
    (visible : name ≠ "") :
    Reads marker (String.singleton marker ++ name) [name] where
  references rest separated := by
    have nonempty : name.toList ≠ [] := by simpa using visible
    simp only [String.toList_append, String.toList_singleton, List.cons_append, List.nil_append,
      referencesFrom_none_cons, distinct.quote, if_false, true_and, if_true]
    rw [referencesFrom_some_append all separated]
    simp [addName, nonempty]
  balance depth rest := by
    have plainName : ∀ depth rest, balancedFrom depth false (name.toList ++ rest) =
        balancedFrom depth false rest := by
      intro depth rest
      generalize name.toList = characters at all
      induction characters with
      | nil => rfl
      | cons character characters inductionHypothesis =>
          simp only [List.all_cons, Bool.and_eq_true] at all
          have plain : isPlainCharacter character = true := by simp [isPlainCharacter, all.1]
          rw [List.cons_append, balancedFrom_of_plain plain, inductionHypothesis all.2]
    simp [balancedFrom_cons, distinct.quote, distinct.opening, distinct.closing, plainName]

/-- A single sign, which may be the marker: no name follows it. -/
theorem reads_sign
    {sign : Char}
    (unquoted : sign ≠ quoteMark)
    (notOpening : sign ≠ '(')
    (notClosing : sign ≠ ')') :
    Reads marker (String.singleton sign) [] where
  references rest separated := by
    simp only [String.toList_singleton, List.singleton_append, referencesFrom_none_cons, unquoted,
      if_false, and_true]
    split
    · rw [referencesFrom_some separated]
      rfl
    · rfl
  balance depth rest := by
    simp [balancedFrom_cons, unquoted, notOpening, notClosing]

theorem referencesFrom_doubleQuotes (characters rest : List Char) :
    referencesFrom marker true none (doubleQuotes characters ++ quoteMark :: rest) =
      referencesFrom marker false none rest := by
  induction characters with
  | nil => simp [referencesFrom_none_cons]
  | cons character characters inductionHypothesis =>
      by_cases quote : character = quoteMark
      · simp [doubleQuotes, quote, referencesFrom_none_cons, inductionHypothesis]
      · simp [doubleQuotes, quote, referencesFrom_none_cons, inductionHypothesis]

theorem balancedFrom_doubleQuotes (depth : Nat) (characters rest : List Char) :
    balancedFrom depth true (doubleQuotes characters ++ quoteMark :: rest) =
      balancedFrom depth false rest := by
  induction characters with
  | nil => simp [balancedFrom_cons]
  | cons character characters inductionHypothesis =>
      by_cases quote : character = quoteMark
      · simp [doubleQuotes, quote, balancedFrom_cons, inductionHypothesis]
      · simp [doubleQuotes, quote, balancedFrom_cons, inductionHypothesis]

/-- Nothing is read inside a literal, whatever its text. -/
theorem plain_quote (text : String) : Plain marker (quote text) where
  references rest := by
    simp [quote, referencesFrom_none_cons, referencesFrom_doubleQuotes]
  balance depth rest := by
    simp [quote, balancedFrom_cons, balancedFrom_doubleQuotes]

/-! ## Lists of pieces -/

/-- Several texts, and the names that the scan reads off them one after the other. -/
inductive ReadsEach (marker : Char) : List String → List String → Prop
  | nil : ReadsEach marker [] []
  | cons
      {text : String}
      {texts names names' : List String}
      (first : Reads marker text names)
      (rest : ReadsEach marker texts names') :
      ReadsEach marker (text :: texts) (names ++ names')

namespace ReadsEach

variable {texts : List String}

theorem map
    {change : String → String}
    (kept : ∀ text names, Reads marker text names → Reads marker (change text) names)
    (each : ReadsEach marker texts names) :
    ReadsEach marker (texts.map change) names := by
  induction each with
  | nil => exact .nil
  | cons first rest inductionHypothesis => exact .cons (kept _ _ first) inductionHypothesis

theorem append
    {texts' : List String}
    (each : ReadsEach marker texts names)
    (each' : ReadsEach marker texts' names') :
    ReadsEach marker (texts ++ texts') (names ++ names') := by
  induction each with
  | nil => exact each'
  | cons first rest inductionHypothesis =>
      rw [List.cons_append, List.append_assoc]
      exact .cons first inductionHypothesis

/-- Texts with plain words between them. -/
theorem intercalate
    {separator : String}
    (plain : Plain marker separator)
    (apart : Apart separator)
    (visible : separator ≠ "")
    (each : ReadsEach marker texts names) :
    Reads marker (separator.intercalate texts) names := by
  induction each with
  | nil => simpa using Plain.empty.reads
  | @cons text texts names names' first rest inductionHypothesis =>
      cases texts with
      | nil =>
          cases rest
          simpa using first
      | cons text' texts =>
          rw [String.intercalate_cons_cons]
          rw [String.append_assoc]
          exact first.append (apart.append_left visible) (plain.before inductionHypothesis)

end ReadsEach

end Text
end ObjectQuery
