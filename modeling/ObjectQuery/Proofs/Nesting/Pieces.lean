import Mathlib.Data.List.Induction

/-!
# Pieces of a statement

What is known of a statement before it is written: the words that stand in it, and where its
sub-queries begin and end. Names, references and literals are gaps that any text may fill.
A sub-query is enclosed when an opening parenthesis stands directly before its `SELECT` and
a closing one directly behind its end, both of them among the words.
-/

namespace ObjectQuery

/-- A piece of a statement. -/
inductive Piece where
  /-- Words of the language, or of the spelling of a function. -/
  | words (text : String)
  /-- A name, a reference, a literal, or nothing at all. -/
  | gap
  /-- The `SELECT` with which a sub-query begins. -/
  | select
  /-- The place where a sub-query ends. -/
  | finish
  deriving DecidableEq, Repr

namespace Piece

/-! ## Texts of pieces -/

/-- The piece may be written so. -/
def Spells : Piece → String → Prop
  | .words known, text => text = known
  | .gap, _ => True
  | .select, text => text = "SELECT "
  | .finish, text => text = ""

/-- The text is made up of the pieces. -/
def Fits : List Piece → String → Prop
  | [], text => text = ""
  | piece :: rest, text => ∃ first tail, text = first ++ tail ∧ piece.Spells first ∧ Fits rest tail

variable {left right : List Piece} {leftText rightText text : String}

theorem fits_append :
    Fits (left ++ right) text ↔
      ∃ leftText rightText, text = leftText ++ rightText ∧ Fits left leftText ∧
        Fits right rightText := by
  induction left generalizing text with
  | nil => simp [Fits]
  | cons piece left inductionHypothesis =>
      simp only [List.cons_append, Fits, inductionHypothesis]
      constructor
      · rintro ⟨first, _, rfl, spells, leftText, rightText, rfl, fitsLeft, fitsRight⟩
        exact ⟨_, _, (String.append_assoc ..).symm, ⟨_, _, rfl, spells, fitsLeft⟩, fitsRight⟩
      · rintro ⟨_, rightText, rfl, ⟨first, leftText, rfl, spells, fitsLeft⟩, fitsRight⟩
        exact ⟨_, _, String.append_assoc .., spells, _, _, rfl, fitsLeft, fitsRight⟩

theorem Fits.append (fitsLeft : Fits left leftText) (fitsRight : Fits right rightText) :
    Fits (left ++ right) (leftText ++ rightText) :=
  fits_append.mpr ⟨_, _, rfl, fitsLeft, fitsRight⟩

theorem fits_words (known : String) : Fits [.words known] known :=
  ⟨known, "", by simp, rfl, rfl⟩

theorem fits_gap (text : String) : Fits [.gap] text :=
  ⟨text, "", by simp, trivial, rfl⟩

theorem Fits.afterWords (known : String) (fits : Fits right rightText) :
    Fits (.words known :: right) (known ++ rightText) :=
  ⟨_, _, rfl, rfl, fits⟩

theorem Fits.afterGap (filling : String) (fits : Fits right rightText) :
    Fits (.gap :: right) (filling ++ rightText) :=
  ⟨_, _, rfl, trivial, fits⟩

/-- Pieces in a row, with the same words between each two of them. -/
def separated (separator : String) : List (List Piece) → List Piece
  | [] => []
  | [only] => only
  | first :: second :: rest => first ++ .words separator :: separated separator (second :: rest)

theorem fits_separated
    (separator : String)
    {pieces : List (List Piece)}
    {texts : List String}
    (each : List.Forall₂ Fits pieces texts) :
    Fits (separated separator pieces) (separator.intercalate texts) := by
  induction each with
  | nil => simp [separated, Fits]
  | @cons piece text pieces texts fits each inductionHypothesis =>
      cases each with
      | nil => simpa [separated] using fits
      | cons fitsSecond each =>
          rw [String.intercalate_cons_cons, String.append_assoc]
          exact fits.append (inductionHypothesis.afterWords separator)

/-! ## What stands around pieces -/

/-- Whether an opening parenthesis stands directly before what follows a piece. -/
def opens (before : Bool) : Piece → Bool
  | .words text => if text = "" then before else text.toList.getLast? = some '('
  | .gap | .select | .finish => false

/-- Whether an opening parenthesis stands directly before what follows some pieces. -/
def opened (before : Bool) (pieces : List Piece) : Bool :=
  pieces.foldl opens before

/-- Whether a closing parenthesis stands directly behind what precedes a piece. -/
def closes (piece : Piece) (after : Bool) : Bool :=
  match piece with
  | .words text => if text = "" then after else text.toList.head? = some ')'
  | .gap | .select | .finish => false

/-- Whether a closing parenthesis stands directly behind what precedes some pieces. -/
def closed (after : Bool) (pieces : List Piece) : Bool :=
  pieces.foldr closes after

@[simp]
theorem opened_append (before : Bool) (left right : List Piece) :
    opened before (left ++ right) = opened (opened before left) right :=
  List.foldl_append

@[simp]
theorem closed_append (after : Bool) (left right : List Piece) :
    closed after (left ++ right) = closed (closed after right) left :=
  List.foldr_append

@[simp]
theorem opened_cons (before : Bool) (piece : Piece) (rest : List Piece) :
    opened before (piece :: rest) = opened (opens before piece) rest :=
  rfl

@[simp]
theorem closed_cons (after : Bool) (piece : Piece) (rest : List Piece) :
    closed after (piece :: rest) = piece.closes (closed after rest) :=
  rfl

@[simp]
theorem opened_nil (before : Bool) : opened before [] = before :=
  rfl

@[simp]
theorem closed_nil (after : Bool) : closed after [] = after :=
  rfl

/-- Where an opening parenthesis stands before what follows, the text ends with one. -/
theorem Fits.getLast?_of_opened (fits : Fits left text) (isOpen : opened false left = true) :
    text.toList.getLast? = some '(' := by
  induction left using List.reverseRecOn generalizing text with
  | nil => simp at isOpen
  | append_singleton left piece inductionHypothesis =>
      obtain ⟨leftText, last, rfl, fitsLeft, first, tail, rfl, spells, rfl⟩ := fits_append.mp fits
      cases piece with
      | words known =>
          obtain rfl : first = known := spells
          by_cases empty : first = ""
          · subst empty
            simpa using inductionHypothesis fitsLeft (by simpa [opens] using isOpen)
          · have last : first.toList.getLast? = some '(' := by simpa [opens, empty] using isOpen
            simp [List.getLast?_append, last]
      | gap | select | finish => simp [opens] at isOpen

/-! ## Enclosed sub-queries -/

/-- Each sub-query has an opening parenthesis directly before its `SELECT`, if need be the one
before all the pieces, and where it is asked for a closing one directly behind its end. -/
def Enclosed (closing : Bool) (before after : Bool) (pieces : List Piece) : Prop :=
  ∀ left right,
    (pieces = left ++ .select :: right → opened before left = true) ∧
      (pieces = left ++ .finish :: right → closing = true → closed after right = true)

variable {closing before after : Bool}

@[simp]
theorem enclosed_nil : Enclosed closing before after [] :=
  fun left right => ⟨by simp, by simp⟩

theorem enclosed_cons {piece : Piece} {rest : List Piece} :
    Enclosed closing before after (piece :: rest) ↔
      (piece = .select → before = true) ∧
        (piece = .finish → closing = true → closed after rest = true) ∧
          Enclosed closing (opens before piece) after rest := by
  constructor
  · intro enclosed
    refine ⟨?_, ?_, fun left right => ⟨?_, ?_⟩⟩
    · rintro rfl
      exact (enclosed [] rest).1 rfl
    · rintro rfl
      exact (enclosed [] rest).2 rfl
    · rintro rfl
      exact (enclosed (piece :: left) right).1 rfl
    · rintro rfl
      exact (enclosed (piece :: left) right).2 rfl
  · rintro ⟨starts, finishes, enclosed⟩ left right
    cases left with
    | nil =>
        constructor
        · intro split
          exact starts (List.cons.inj split).1
        · intro split
          obtain ⟨rfl, rfl⟩ := List.cons.inj split
          exact finishes rfl
    | cons piece' left =>
        constructor
        · intro split
          obtain ⟨rfl, splitRest⟩ := List.cons.inj split
          exact (enclosed left right).1 splitRest
        · intro split
          obtain ⟨rfl, splitRest⟩ := List.cons.inj split
          exact (enclosed left right).2 splitRest

/-- Each part sees of the other what stands next to it. -/
@[simp]
theorem enclosed_append :
    Enclosed closing before after (left ++ right) ↔
      Enclosed closing before (closed after right) left ∧
        Enclosed closing (opened before left) after right := by
  induction left generalizing before with
  | nil => simp
  | cons piece left inductionHypothesis =>
      simp only [List.cons_append, enclosed_cons, inductionHypothesis, closed_append, opened_cons,
        and_assoc]

@[simp]
theorem enclosed_words {known : String} {rest : List Piece} :
    Enclosed closing before after (.words known :: rest) ↔
      Enclosed closing (opens before (.words known)) after rest := by
  simp [enclosed_cons]

@[simp]
theorem enclosed_gap {rest : List Piece} :
    Enclosed closing before after (.gap :: rest) ↔ Enclosed closing false after rest := by
  simp [enclosed_cons, opens]

@[simp]
theorem enclosed_select {rest : List Piece} :
    Enclosed closing before after (.select :: rest) ↔
      before = true ∧ Enclosed closing false after rest := by
  simp [enclosed_cons, opens]

@[simp]
theorem enclosed_finish {rest : List Piece} :
    Enclosed closing before after (.finish :: rest) ↔
      (closing = true → closed after rest = true) ∧ Enclosed closing false after rest := by
  simp [enclosed_cons, opens]

/-! ## Words between pieces -/

/-- Words of which neither end is a parenthesis that encloses what stands next to it. -/
def Neutral (known : String) : Prop :=
  known ≠ "" ∧ known.toList.getLast? ≠ some '(' ∧ known.toList.head? ≠ some ')'

instance (known : String) : Decidable (Neutral known) :=
  inferInstanceAs (Decidable (_ ∧ _))

variable {known : String}

theorem Neutral.opens (neutral : Neutral known) (before : Bool) :
    opens before (.words known) = false := by
  simp [Piece.opens, neutral.1, neutral.2.1]

theorem Neutral.closes (neutral : Neutral known) (after : Bool) :
    closes (.words known) after = false := by
  simp [Piece.closes, neutral.1, neutral.2.2]

/-- Before pieces neutral words are as good as nothing. -/
theorem enclosed_after (neutral : Neutral known) :
    Enclosed closing before after (.words known :: right) ↔ Enclosed closing false after right := by
  rw [enclosed_words, neutral.opens]

/-- Neutral words part what stands before them from what follows. -/
theorem enclosed_parted (neutral : Neutral known) :
    Enclosed closing before after (left ++ .words known :: right) ↔
      Enclosed closing before false left ∧ Enclosed closing false after right := by
  rw [enclosed_append, enclosed_after neutral, closed_cons, neutral.closes]

/-- Pieces between parentheses are enclosed whatever stands around these. -/
theorem enclosed_around (opening : known.toList.getLast? = some '(') :
    Enclosed closing before after (.words known :: left ++ [.words ")"]) ↔
      Enclosed closing true true left := by
  have visible : known ≠ "" := by
    rintro rfl
    simp at opening
  have ends : closes (.words ")") after = true := by simp [closes]
  have starts : opens before (.words known) = true := by simp [opens, visible, opening]
  simp [starts, ends]

theorem enclosed_separated
    {separator : String}
    (neutral : Neutral separator)
    (first : List Piece)
    (rest : List (List Piece)) :
    Enclosed closing before after (separated separator (first :: rest)) ↔
      Enclosed closing before (rest.isEmpty && after) first ∧
        Enclosed closing false after (separated separator rest) := by
  cases rest with
  | nil => simp [separated]
  | cons second rest =>
      rw [separated, enclosed_parted neutral, List.isEmpty_cons, Bool.false_and]

/-! ## Texts -/

/-- In a text made up of pieces, an enclosed sub-query follows an opening parenthesis. -/
theorem Enclosed.exists_text
    (enclosed : Enclosed closing false false (left ++ .select :: right))
    (fits : Fits (left ++ .select :: right) text) :
    ∃ leftText rightText, text = leftText ++ "(SELECT " ++ rightText ∧
      Fits left (leftText ++ "(") ∧ Fits right rightText := by
  obtain ⟨leftText, _, rfl, fitsLeft, first, rightText, rfl, rfl, fitsRight⟩ := fits_append.mp fits
  have last := fitsLeft.getLast?_of_opened ((enclosed left right).1 rfl)
  obtain ⟨start, ends⟩ := List.getLast?_eq_some_iff.mp last
  have split : leftText = String.ofList start ++ "(" := by
    apply String.toList_inj.mp
    simp [ends]
  refine ⟨String.ofList start, rightText, ?_, split ▸ fitsLeft, fitsRight⟩
  rw [split]
  apply String.toList_inj.mp
  simp

end Piece
end ObjectQuery
