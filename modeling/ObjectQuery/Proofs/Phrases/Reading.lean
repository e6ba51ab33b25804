import ObjectQuery.Proofs.Parameters.Names
import ObjectQuery.Proofs.Phrases.Syntax

/-!
# Reading phrases back

The characters of a condition and the values that it binds determine the condition, as far
as it matters: where two conditions are followed by something that can be part of neither,
the same characters and the same values come from the same tests put together alike.
-/

namespace ObjectQuery

open Text

/-- References start like no name and no group, and continue no sign. -/
structure Dialect.IsLegible (dialect : Dialect) : Prop where
  noName : isNameStart dialect.parameterMarker = false
  noGroup : dialect.parameterMarker ≠ '('
  noSign : dialect.parameterMarker ≠ '=' ∧ dialect.parameterMarker ≠ '>'

namespace Phrase

variable {dialect : Dialect} {bound : Nat} {rest rest' : List Char} {values values' : List Value}

/-! ## Runs of name characters -/

/-- Whether a character may stand in a dotted name. -/
def inName (character : Char) : Bool :=
  isNameCharacter character || character == '.'

/-- Nothing of it can go on with a term. -/
def Delimited (rest : List Char) : Prop :=
  ∀ character, rest.head? = some character → inName character = false ∧ character ≠ '('

theorem delimited_closing (rest : List Char) : Delimited (')' :: rest) := by
  intro character head
  obtain rfl : ')' = character := by simpa using head
  decide

/-- Two runs that end where no name goes on are the same. -/
theorem eq_of_runs
    {run run' : List Char}
    (names : ∀ character ∈ run, inName character = true)
    (names' : ∀ character ∈ run', inName character = true)
    (ends : ∀ character, rest.head? = some character → inName character = false)
    (ends' : ∀ character, rest'.head? = some character → inName character = false)
    (same : run ++ rest = run' ++ rest') :
    run = run' ∧ rest = rest' := by
  induction run generalizing run' with
  | nil =>
      cases run' with
      | nil => exact ⟨rfl, same⟩
      | cons first run' =>
          have isName := names' first List.mem_cons_self
          have noName := ends first (by simp_all)
          exact absurd isName (by simp [noName])
  | cons first run inductionHypothesis =>
      cases run' with
      | nil =>
          have isName := names first List.mem_cons_self
          have noName := ends' first (by simp [← show _ = rest' from same])
          exact absurd isName (by simp [noName])
      | cons first' run' =>
          obtain ⟨rfl, sameRest⟩ := List.cons.inj same
          obtain ⟨rfl, rfl⟩ := inductionHypothesis
            (fun character member => names character (List.mem_cons_of_mem _ member))
            (fun character member => names' character (List.mem_cons_of_mem _ member)) sameRest
          exact ⟨rfl, rfl⟩

theorem inName_of_isDottedIdentifier {text : String} (dotted : isDottedIdentifier text = true) :
    ∀ character ∈ text.toList, inName character = true := by
  intro character member
  rcases mem_segmentsOf member with rfl | ⟨segment, among, inSegment⟩
  · decide
  · have identifier := List.all_eq_true.mp dotted segment among
    have isName := nameCharacters_of_isIdentifier identifier character inSegment
    simp [inName, isName]

theorem isNameStart_of_isDottedIdentifier
    {text : String}
    (dotted : isDottedIdentifier text = true) :
    ∃ first run, text.toList = first :: run ∧ isNameStart first = true := by
  cases characters : text.toList with
  | nil => simp [isDottedIdentifier, segments, segmentsOf, characters, isIdentifier] at dotted
  | cons first run =>
      refine ⟨first, run, rfl, ?_⟩
      simp only [isDottedIdentifier, segments, characters, segmentsOf] at dotted
      split at dotted
      · simp [isIdentifier] at dotted
      · split at dotted <;> simp_all [isIdentifier]

/-! ## Terms -/

theorem mem_all (kind : FunctionKind) : kind ∈ FunctionKind.all := by
  cases kind <;> decide

/-- Every call begins with a run of name characters and an opening parenthesis. -/
theorem opening_run (platform : Platform) (kind : FunctionKind) :
    ∃ first run tail, (kind.opening platform).toList = first :: run ++ '(' :: tail ∧
      isNameStart first = true ∧ ∀ character ∈ first :: run, inName character = true := by
  have each : ∀ kind ∈ FunctionKind.all,
      ((kind.opening platform).toList.takeWhile inName).head?.any isNameStart = true ∧
        ((kind.opening platform).toList.takeWhile inName).all inName = true ∧
          ((kind.opening platform).toList.dropWhile inName).head? = some '(' := by
    cases platform <;> decide +kernel
  obtain ⟨starts, names, ends⟩ := each kind (mem_all kind)
  have split := List.takeWhile_append_dropWhile (p := inName)
    (l := (kind.opening platform).toList)
  cases run : (kind.opening platform).toList.takeWhile inName with
  | nil => simp [run] at starts
  | cons first run' =>
      obtain ⟨tail, rest⟩ := List.head?_eq_some_iff.mp ends
      refine ⟨first, run', tail, ?_, by simpa [run] using starts, ?_⟩
      · rw [← run, ← rest, split]
      · rw [← run]
        exact List.all_eq_true.mp names

/-- No call begins as another one does. -/
theorem eq_of_opening_starts
    {platform : Platform}
    {kind kind' : FunctionKind}
    (starts : (kind.opening platform).toList <+: (kind'.opening platform).toList) :
    kind = kind' := by
  have each : ∀ kind ∈ FunctionKind.all, ∀ kind' ∈ FunctionKind.all,
      (kind.opening platform).toList.isPrefixOf (kind'.opening platform).toList = true →
        kind = kind' := by
    cases platform <;> decide +kernel
  exact each kind (mem_all kind) kind' (mem_all kind') (List.isPrefixOf_iff_prefix.mpr starts)

/-- The functions without arguments are written by different words, all of them reserved. -/
theorem word_mem_reserved {kind : FunctionKind} (nullary : kind.arity = 0) :
    kind.word ∈ reserved ∧ kind.word ≠ "NULL" := by
  have each : ∀ kind ∈ FunctionKind.all, kind.arity = 0 →
      kind.word ∈ reserved ∧ kind.word ≠ "NULL" := by decide
  exact each kind (mem_all kind) nullary

theorem eq_of_word_eq
    {kind kind' : FunctionKind}
    (nullary : kind.arity = 0)
    (nullary' : kind'.arity = 0)
    (same : kind.word = kind'.word) :
    kind = kind' := by
  have each : ∀ kind ∈ FunctionKind.all, ∀ kind' ∈ FunctionKind.all, kind.arity = 0 →
      kind'.arity = 0 → kind.word = kind'.word → kind = kind' := by decide
  exact each kind (mem_all kind) kind' (mem_all kind') nullary nullary' same

theorem reserved_run {word : String} (isReserved : word ∈ reserved) :
    ∃ first run, word.toList = first :: run ∧ isNameStart first = true ∧
      ∀ character ∈ first :: run, inName character = true := by
  have each : ∀ word ∈ reserved, word.toList.head?.any isNameStart = true ∧
      word.toList.all inName = true := by decide
  obtain ⟨starts, names⟩ := each word isReserved
  cases characters : word.toList with
  | nil => simp [characters] at starts
  | cons first run =>
      rw [characters] at starts names
      exact ⟨first, run, rfl, by simpa using starts, List.all_eq_true.mp names⟩

theorem reference_eq_cons (dialect : Dialect) (bound : Nat) :
    reference dialect bound =
      dialect.parameterMarker :: (dialect.numberedName (bound + 1)).toList := by
  simp [reference, Dialect.referenceTo]

namespace Term

/-- A term that is one run of name characters. -/
def isRun : Term → Bool
  | .name _ | .null | .word _ => true
  | .value _ | .call _ _ _ => false

theorem value_or (term : Term) : (∃ value, term = .value value) ∨ ∀ value, term ≠ .value value := by
  cases term <;> simp

/-- A term that is no reference begins with a run of name characters, and either ends there
or goes on with an opening parenthesis. -/
theorem exists_run
    (dialect : Dialect)
    (bound : Nat)
    {term : Term}
    (written : term.IsWritten)
    (noValue : ∀ value, term ≠ .value value)
    (delimited : Delimited rest) :
    ∃ first run tail, term.characters dialect bound ++ rest = first :: run ++ tail ∧
      isNameStart first = true ∧ (∀ character ∈ first :: run, inName character = true) ∧
        (∀ character, tail.head? = some character → inName character = false) ∧
          if term.isRun then term.characters dialect bound = first :: run ∧ tail = rest
          else tail.head? = some '(' := by
  have ends : ∀ character, rest.head? = some character → inName character = false :=
    fun character head => (delimited character head).1
  cases term with
  | name text =>
      obtain ⟨first, run, characters, starts⟩ := isNameStart_of_isDottedIdentifier written.1
      refine ⟨first, run, rest, by simp [Term.characters, characters], starts, ?_, ends, ?_⟩
      · rw [← characters]
        exact inName_of_isDottedIdentifier written.1
      · simpa [isRun, Term.characters] using characters
  | null =>
      obtain ⟨first, run, characters, starts, names⟩ :=
        reserved_run (by decide : "NULL" ∈ reserved)
      refine ⟨first, run, rest, by simp only [Term.characters, characters], starts, names, ends, ?_⟩
      simpa only [isRun, if_true, Term.characters, and_true] using characters
  | word kind =>
      obtain ⟨first, run, characters, starts, names⟩ := reserved_run (word_mem_reserved written).1
      refine ⟨first, run, rest, by simp only [Term.characters, characters], starts, names, ends, ?_⟩
      simpa only [isRun, if_true, Term.characters, and_true] using characters
  | value bound => exact absurd rfl (noValue bound)
  | call kind distinct argument =>
      obtain ⟨first, run, tail, opening, starts, names⟩ := opening_run dialect.platform kind
      refine ⟨first, run,
        '(' :: tail ++ (marked distinct (argument.characters dialect bound) ++ [')']) ++ rest,
        ?_, starts, names, ?_, rfl⟩
      · simp [Term.characters, opening]
      · intro character head
        obtain rfl : '(' = character := by simpa using head
        decide

/-- What follows a term that begins with a word, before a sign that no term goes on with. -/
theorem rest_of_word
    (legible : dialect.IsLegible)
    {term : Term}
    (written : term.IsWritten)
    (delimited : Delimited rest)
    {first sign : Char}
    {run : List Char}
    (starts : isNameStart first = true)
    (names : ∀ character ∈ first :: run, inName character = true)
    (noName : inName sign = false ∧ sign ≠ '(')
    (same : term.characters dialect bound ++ rest = first :: run ++ sign :: rest') :
    rest = sign :: rest' := by
  rcases term.value_or with ⟨value, rfl⟩ | noValue
  · rw [characters, reference_eq_cons] at same
    obtain ⟨rfl, -⟩ := List.cons.inj same
    exact absurd starts (by simp [legible.noName])
  · obtain ⟨first', run', tail, characters, -, names', ends, after⟩ :=
      exists_run dialect bound written noValue delimited
    rw [characters] at same
    obtain ⟨-, rfl⟩ := eq_of_runs names' names ends (by simpa using noName.1) same
    cases isRun : term.isRun with
    | true =>
        simp only [isRun, if_true] at after
        exact after.2.symm
    | false => exact absurd (by simpa [isRun] using after) noName.2

/-- Words that are runs of name characters are read back. -/
theorem eq_of_isRun
    {first second : Term}
    (isRun : first.isRun = true)
    (isRun' : second.isRun = true)
    (written : first.IsWritten)
    (written' : second.IsWritten)
    (same : first.characters dialect bound = second.characters dialect bound) :
    first = second := by
  have word : ∀ {kind : FunctionKind}, kind.arity = 0 → kind.word ∈ reserved ∧
      kind.word ≠ "NULL" := word_mem_reserved
  cases first with
  | value | call => simp [Term.isRun] at isRun
  | name text =>
      cases second with
      | value | call => simp [Term.isRun] at isRun'
      | name text' => exact congrArg name (String.toList_inj.mp same)
      | null =>
          obtain rfl : text = "NULL" := String.toList_inj.mp same
          exact absurd (by decide) written.2
      | word kind =>
          obtain rfl : text = kind.word := String.toList_inj.mp same
          exact absurd (word written').1 written.2
  | null =>
      cases second with
      | value | call => simp [Term.isRun] at isRun'
      | name text' =>
          obtain rfl : "NULL" = text' := String.toList_inj.mp same
          exact absurd (by decide) written'.2
      | null => rfl
      | word kind => exact absurd (String.toList_inj.mp same).symm (word written').2
  | word kind =>
      cases second with
      | value | call => simp [Term.isRun] at isRun'
      | name text' =>
          obtain rfl : kind.word = text' := String.toList_inj.mp same
          exact absurd (word written).1 written'.2
      | null => exact absurd (String.toList_inj.mp same) (word written).2
      | word kind' =>
          exact congrArg Term.word (eq_of_word_eq written written' (String.toList_inj.mp same))

/-- No reference is read as another term. -/
theorem ne_reference
    (legible : dialect.IsLegible)
    {term : Term}
    (written : term.IsWritten)
    (noValue : ∀ value, term ≠ .value value)
    (delimited : Delimited rest) :
    term.characters dialect bound ++ rest ≠ reference dialect bound ++ rest' := by
  intro same
  obtain ⟨first, run, tail, characters, starts, -⟩ :=
    exists_run dialect bound written noValue delimited
  rw [characters, reference_eq_cons] at same
  obtain ⟨rfl, -⟩ := List.cons.inj same
  exact absurd starts (by simp [legible.noName])

/-- A term that is one run of name characters is read back. -/
theorem read_run
    (legible : dialect.IsLegible)
    {first second : Term}
    (isRun : first.isRun = true)
    (written : first.IsWritten)
    (written' : second.IsWritten)
    (delimited : Delimited rest)
    (delimited' : Delimited rest')
    (same : first.characters dialect bound ++ rest = second.characters dialect bound ++ rest')
    (bindSame : first.values ++ values = second.values ++ values') :
    first = second ∧ rest = rest' ∧ values = values' := by
  have noValue : ∀ value, first ≠ .value value := by
    rintro value rfl
    simp [Term.isRun] at isRun
  rcases second.value_or with ⟨value, rfl⟩ | noValue'
  · exact absurd same (ne_reference legible written noValue delimited)
  · obtain ⟨start, run, tail, characters, -, names, ends, after⟩ :=
      exists_run dialect bound written noValue delimited
    obtain ⟨start', run', tail', characters', -, names', ends', after'⟩ :=
      exists_run dialect bound written' noValue' delimited'
    rw [characters, characters'] at same
    obtain ⟨sameRun, rfl⟩ := eq_of_runs names names' ends ends' same
    simp only [isRun, if_true] at after
    obtain ⟨whole, rfl⟩ := after
    cases isRun' : second.isRun with
    | true =>
        simp only [isRun', if_true] at after'
        obtain ⟨whole', rfl⟩ := after'
        obtain rfl : first = second :=
          eq_of_isRun isRun isRun' written written' (by rw [whole, whole', sameRun])
        exact ⟨rfl, rfl, List.append_cancel_left bindSame⟩
    | false =>
        have opens : tail.head? = some '(' := by simpa [isRun'] using after'
        exact absurd rfl (delimited '(' opens).2

/-- A mark of distinct arguments is read back. -/
theorem read_marked
    (legible : dialect.IsLegible)
    {distinct distinct' : Bool}
    {first second : Term}
    (written : first.IsWritten)
    (written' : second.IsWritten)
    (same : marked distinct (first.characters dialect bound) ++ ')' :: rest =
      marked distinct' (second.characters dialect bound) ++ ')' :: rest') :
    distinct = distinct' ∧
      first.characters dialect bound ++ ')' :: rest =
        second.characters dialect bound ++ ')' :: rest' := by
  have unmarked : ∀ {term : Term} {left right : List Char}, term.IsWritten →
      term.characters dialect bound ++ ')' :: left ≠ "DISTINCT".toList ++ ' ' :: right := by
    intro term left right written same
    have names : ('D' :: "ISTINCT".toList).all inName = true := by decide
    have next := rest_of_word legible written (delimited_closing left) (by decide)
      (List.all_eq_true.mp names)
      (by decide) same
    simp at next
  cases distinct <;> cases distinct'
  · exact ⟨rfl, same⟩
  · exact absurd (by simpa [marked] using same) (unmarked written)
  · exact absurd (by simpa [marked] using same.symm) (unmarked written')
  · refine ⟨rfl, ?_⟩
    simpa [marked] using same

/-- A term is read back from its characters and its values. -/
theorem read
    (legible : dialect.IsLegible)
    {first second : Term}
    (written : first.IsWritten)
    (written' : second.IsWritten)
    (delimited : Delimited rest)
    (delimited' : Delimited rest')
    (same : first.characters dialect bound ++ rest = second.characters dialect bound ++ rest')
    (bindSame : first.values ++ values = second.values ++ values') :
    first = second ∧ rest = rest' ∧ values = values' := by
  induction first generalizing second rest rest' with
  | name | null | word =>
      exact read_run legible rfl written written' delimited delimited' same bindSame
  | value held =>
      rcases second.value_or with ⟨held', rfl⟩ | noValue'
      · obtain ⟨rfl, rfl⟩ := List.cons.inj bindSame
        exact ⟨rfl, List.append_cancel_left same, rfl⟩
      · exact absurd same.symm (ne_reference legible written' noValue' delimited')
  | call kind distinct argument inductionHypothesis =>
      cases second with
      | name | null | word =>
          obtain ⟨sameTerm, sameRest, sameValues⟩ :=
            read_run legible rfl written' written delimited' delimited same.symm bindSame.symm
          exact ⟨sameTerm.symm, sameRest.symm, sameValues.symm⟩
      | value held => exact absurd same (ne_reference legible written (by simp) delimited)
      | call kind' distinct' argument' =>
          simp only [characters, List.append_assoc, List.cons_append, List.nil_append] at same
          obtain rfl : kind = kind' := by
            have starts : (kind.opening dialect.platform).toList <+:
                (kind'.opening dialect.platform).toList ++
                  (marked distinct' (argument'.characters dialect bound) ++ ')' :: rest') :=
              same ▸ List.prefix_append _ _
            rcases List.prefix_or_prefix_of_prefix starts (List.prefix_append _ _) with
              before | after
            · exact eq_of_opening_starts before
            · exact (eq_of_opening_starts after).symm
          obtain ⟨rfl, sameArgument⟩ :=
            read_marked legible written.2 written'.2 (List.append_cancel_left same)
          obtain ⟨rfl, sameRest, sameValues⟩ := inductionHypothesis written.2 written'.2
            (delimited_closing rest) (delimited_closing rest') sameArgument bindSame
          exact ⟨rfl, (List.cons.inj sameRest).2, sameValues⟩

/-- A term begins with no sign that continues an operator or opens a group. -/
theorem exists_head
    (legible : dialect.IsLegible)
    (bound : Nat)
    {term : Term}
    (written : term.IsWritten) :
    ∃ first tail, term.characters dialect bound = first :: tail ∧
      first ≠ '(' ∧ first ≠ '=' ∧ first ≠ '>' := by
  rcases term.value_or with ⟨value, rfl⟩ | noValue
  · exact ⟨_, _, reference_eq_cons dialect bound, legible.noGroup, legible.noSign⟩
  · obtain ⟨first, run, tail, characters, starts, -⟩ :=
      exists_run dialect bound written noValue (by simp [Delimited] : Delimited [])
    refine ⟨first, run ++ tail, by simpa using characters, ?_, ?_, ?_⟩ <;>
      · rintro rfl
        revert starts
        decide

end Term

/-! ## Predicates -/

/-- What may follow a condition: nothing, or the end of the group around it. -/
def Closed (rest : List Char) : Prop :=
  ∀ character, rest.head? = some character → character = ')'

theorem closed_closing (rest : List Char) : Closed (')' :: rest) := by
  simp [Closed]

theorem Closed.delimited (closed : Closed rest) : Delimited rest := by
  intro character head
  obtain rfl := closed character head
  decide

theorem otherReferences_read
    {others others' : List Value}
    (same : otherReferences dialect bound others ++ ')' :: rest =
      otherReferences dialect bound others' ++ ')' :: rest') :
    others.length = others'.length ∧ rest = rest' := by
  induction others generalizing bound others' with
  | nil =>
      cases others' with
      | nil => simpa [otherReferences] using same
      | cons first others' => simp [otherReferences] at same
  | cons first others inductionHypothesis =>
      cases others' with
      | nil => simp [otherReferences] at same
      | cons first' others' =>
          simp only [otherReferences, List.cons_append, List.append_assoc, List.cons.injEq,
            true_and] at same
          obtain ⟨lengths, sameRest⟩ := inductionHypothesis (List.append_cancel_left same)
          exact ⟨by simp [lengths], sameRest⟩

theorem Members.read
    (legible : dialect.IsLegible)
    {first second : Members}
    (written : first.IsWritten)
    (written' : second.IsWritten)
    (same : first.characters dialect bound ++ ')' :: rest =
      second.characters dialect bound ++ ')' :: rest')
    (bindSame : first.values ++ values = second.values ++ values') :
    first = second ∧ rest = rest' ∧ values = values' := by
  have closing := delimited_closing rest
  have closing' := delimited_closing rest'
  cases first with
  | listed head others =>
      cases second with
      | listed head' others' =>
          simp only [characters, List.append_assoc] at same
          obtain ⟨lengths, sameRest⟩ := otherReferences_read (List.append_cancel_left same)
          obtain ⟨sameHead, sameOthers⟩ := List.cons.inj bindSame
          obtain ⟨rfl, sameValues⟩ := List.append_inj sameOthers lengths
          exact ⟨by rw [sameHead], sameRest, sameValues⟩
      | single only' =>
          simp only [characters, List.append_assoc] at same
          exact absurd same.symm (Term.ne_reference legible written'.2 written'.1 closing')
  | single only =>
      cases second with
      | listed head' others' =>
          simp only [characters, List.append_assoc] at same
          exact absurd same (Term.ne_reference legible written.2 written.1 closing)
      | single only' =>
          obtain ⟨rfl, sameRest, sameValues⟩ :=
            Term.read legible written.2 written'.2 closing closing' same bindSame
          exact ⟨rfl, (List.cons.inj sameRest).2, sameValues⟩

/-- Neither sign by which an operator may be longer than another. -/
def ContinuesNoSign (rest : List Char) : Prop :=
  ∀ character, rest.head? = some character → character ≠ '=' ∧ character ≠ '>'

namespace Form

/-- Every form. -/
def all : List Form :=
  [.isNull false, .isNull true, .compare .equal, .compare .notEqual, .compare (.greater false),
    .compare (.greater true), .compare (.less false), .compare (.less true), .between,
    .isIn false, .isIn true, .like]

theorem mem_all (form : Form) : form ∈ all := by
  rcases form with (_ | _) | (_ | _ | (_ | _) | (_ | _)) | _ | (_ | _) | _ <;> decide

/-- No form's words continue those of another but by one of the signs. -/
theorem eq_of_keyword_eq_append
    {first second : Form}
    {extra : List Char}
    (continues : ContinuesNoSign (extra ++ rest))
    (longer : second.keyword.toList = first.keyword.toList ++ extra) :
    first = second ∧ extra = [] := by
  have each : ∀ form ∈ all, ∀ form' ∈ all,
      form.keyword.toList.isPrefixOf form'.keyword.toList = true →
        form = form' ∨ (form'.keyword.toList.drop form.keyword.toList.length).head?.any
          (fun character => character == '=' || character == '>') = true := by decide
  rcases each first first.mem_all second second.mem_all (by simp [longer]) with rfl | sign
  · exact ⟨rfl, by simpa using longer⟩
  · rw [longer, List.drop_left] at sign
    cases extra with
    | nil => simp at sign
    | cons character extra =>
        have noSign := continues character rfl
        simp [noSign] at sign

/-- No term goes on with the words of a predicate. -/
theorem keyword_delimited (form : Form) (rest : List Char) :
    Delimited (form.keyword.toList ++ rest) := by
  have each : ∀ form ∈ all, form.keyword.toList.head?.any
      (fun character => !inName character && character != '(') = true := by decide
  have starts := each form form.mem_all
  intro character head
  cases spelled : form.keyword.toList with
  | nil => simp [spelled] at starts
  | cons first word =>
      obtain rfl : first = character := by simpa [spelled] using head
      simpa [spelled] using starts

/-- The words of a predicate begin no group behind a blank. -/
theorem keyword_ne_group (form : Form) (rest rest' : List Char) :
    form.keyword.toList ++ rest ≠ ' ' :: '(' :: rest' := by
  rcases form with (_ | _) | (_ | _ | (_ | _) | (_ | _)) | _ | (_ | _) | _ <;>
    simp [keyword, CompareOperator.symbol]

/-- A form is read back from its words. -/
theorem read
    {first second : Form}
    (continues : ContinuesNoSign rest)
    (continues' : ContinuesNoSign rest')
    (same : first.keyword.toList ++ rest = second.keyword.toList ++ rest') :
    first = second ∧ rest = rest' := by
  rcases List.append_eq_append_iff.mp same with
    ⟨extra, longer, rfl⟩ | ⟨extra, longer, rfl⟩
  · obtain ⟨rfl, rfl⟩ := eq_of_keyword_eq_append continues longer
    exact ⟨rfl, rfl⟩
  · obtain ⟨rfl, rfl⟩ := eq_of_keyword_eq_append continues' longer
    exact ⟨rfl, rfl⟩

end Form

namespace Predicate

/-- What follows the first words of a predicate is none of an operator's signs. -/
theorem remainder_continuesNoSign
    (legible : dialect.IsLegible)
    (bound : Nat)
    {predicate : Predicate}
    (written : predicate.IsWritten)
    (closed : Closed rest) :
    ContinuesNoSign (predicate.remainder dialect bound ++ rest) := by
  have ofTerm : ∀ {term : Term} (rest : List Char), term.IsWritten →
      ContinuesNoSign (term.characters dialect bound ++ rest) := by
    intro term rest written character head
    obtain ⟨first, tail, characters, -, noSign⟩ := Term.exists_head legible bound written
    obtain rfl : first = character := by simpa [characters] using head
    exact noSign
  have ofReference : ∀ rest, ContinuesNoSign (reference dialect bound ++ rest) :=
    fun rest => @ofTerm (.value .null) rest trivial
  cases predicate with
  | isNull negated =>
      intro character head
      obtain rfl := closed character head
      decide
  | compare operator right => exact ofTerm rest written
  | between lower upper =>
      rw [remainder, List.append_assoc]
      exact ofTerm _ written.1
  | isIn negated members =>
      rw [remainder, List.append_assoc]
      cases members with
      | listed first others =>
          rw [Members.characters, List.append_assoc]
          exact ofReference _
      | single only => exact ofTerm _ written.2
  | like pattern =>
      rw [remainder, List.append_assoc]
      exact ofReference _

theorem read
    (legible : dialect.IsLegible)
    {first second : Predicate}
    (written : first.IsWritten)
    (written' : second.IsWritten)
    (closed : Closed rest)
    (closed' : Closed rest')
    (same : first.form.keyword.toList ++ (first.remainder dialect bound ++ rest) =
      second.form.keyword.toList ++ (second.remainder dialect bound ++ rest'))
    (bindSame : first.values ++ values = second.values ++ values') :
    first = second ∧ rest = rest' ∧ values = values' := by
  obtain ⟨sameForm, sameRest⟩ := Form.read
    (remainder_continuesNoSign legible bound written closed)
    (remainder_continuesNoSign legible bound written' closed') same
  cases first with
  | isNull negated =>
      cases second with
      | isNull negated' =>
          obtain rfl := Form.isNull.inj sameForm
          exact ⟨rfl, sameRest, bindSame⟩
      | _ => simp [form] at sameForm
  | compare operator right =>
      cases second with
      | compare operator' right' =>
          obtain rfl := Form.compare.inj sameForm
          obtain ⟨rfl, finish⟩ :=
            Term.read legible written written' closed.delimited closed'.delimited sameRest bindSame
          exact ⟨rfl, finish⟩
      | _ => simp [form] at sameForm
  | between lower upper =>
      cases second with
      | between lower' upper' =>
          have noTerm : ∀ rest, Delimited (" AND ".toList ++ rest) := by
            intro rest character head
            obtain rfl : ' ' = character := by simpa using head
            decide
          simp only [remainder, Predicate.values, List.append_assoc] at sameRest bindSame
          obtain ⟨rfl, sameUpper, bindUpper⟩ :=
            Term.read legible written.1 written'.1 (noTerm _) (noTerm _) sameRest bindSame
          obtain ⟨rfl, finish⟩ := Term.read legible written.2 written'.2 closed.delimited
            closed'.delimited (List.append_cancel_left sameUpper) bindUpper
          exact ⟨rfl, finish⟩
      | _ => simp [form] at sameForm
  | isIn negated members =>
      cases second with
      | isIn negated' members' =>
          obtain rfl := Form.isIn.inj sameForm
          simp only [remainder, List.append_assoc, List.cons_append, List.nil_append] at sameRest
          obtain ⟨rfl, finish⟩ := Members.read legible written written' sameRest bindSame
          exact ⟨rfl, finish⟩
      | _ => simp [form] at sameForm
  | like pattern =>
      cases second with
      | like pattern' =>
          simp only [remainder, List.append_assoc] at sameRest
          obtain ⟨sameValue, sameValues⟩ := List.cons.inj bindSame
          refine ⟨by rw [Value.string.inj sameValue], ?_, sameValues⟩
          exact List.append_cancel_left (List.append_cancel_left sameRest)
      | _ => simp [form] at sameForm

end Predicate

/-! ## Conditions -/

namespace Condition

/-- No test is read as a group. -/
theorem test_ne_group
    (legible : dialect.IsLegible)
    {subject : Term}
    (written : subject.IsWritten) :
    subject.characters dialect bound ++ rest ≠ '(' :: rest' := by
  intro same
  obtain ⟨first, tail, characters, noGroup, -⟩ := Term.exists_head legible bound written
  rw [characters] at same
  exact noGroup (List.cons.inj same).1

/-- No test is read as a negation. -/
theorem test_ne_negation
    (legible : dialect.IsLegible)
    {subject : Term}
    (written : subject.IsWritten)
    (form : Form) :
    subject.characters dialect bound ++ (form.keyword.toList ++ rest) ≠
      "NOT (".toList ++ rest' := by
  intro same
  have names : ('N' :: "OT".toList).all inName = true := by decide
  exact form.keyword_ne_group _ _ (Term.rest_of_word legible written (form.keyword_delimited rest)
    (by decide) (List.all_eq_true.mp names) (by decide) same)

/-- Nothing that ends a condition is read as another condition of a junction. -/
theorem others_ne_closed
    (closed : Closed rest')
    {conjunctive : Bool}
    {head : Condition}
    {tail : List Condition} :
    others dialect conjunctive bound (head :: tail) ++ rest ≠ rest' := by
  rintro rfl
  have ends := closed ' ' (by cases conjunctive <;> simp [others, separator])
  simp at ends

/-- The word of a junction is read back. -/
theorem separator_read
    {conjunctive conjunctive' : Bool}
    (same : separator conjunctive ++ rest = separator conjunctive' ++ rest') :
    conjunctive = conjunctive' ∧ rest = rest' := by
  cases conjunctive <;> cases conjunctive' <;> simp_all [separator]

mutual

/-- A condition is read back from its characters and its values. -/
theorem read
    (legible : dialect.IsLegible)
    {bound : Nat}
    {rest rest' : List Char}
    {values values' : List Value} :
    ∀ {first second : Condition}, first.IsWritten → second.IsWritten →
      Closed rest → Closed rest' →
        first.characters dialect bound ++ rest = second.characters dialect bound ++ rest' →
          first.values ++ values = second.values ++ values' →
            first = second ∧ rest = rest' ∧ values = values'
  | .test subject predicate, .test subject' predicate', written, written', closed, closed', same,
      bindSame => by
      simp only [characters, Condition.values, List.append_assoc] at same bindSame
      obtain ⟨rfl, sameRest, bindRest⟩ := Term.read legible written.1 written'.1
        (predicate.form.keyword_delimited _) (predicate'.form.keyword_delimited _) same bindSame
      obtain ⟨rfl, finish⟩ :=
        Predicate.read legible written.2 written'.2 closed closed' sameRest bindRest
      exact ⟨rfl, finish⟩
  | .test subject predicate, .junction _ _ _, written, _, _, _, same, _ => by
      simp only [characters, List.append_assoc] at same
      exact absurd same (test_ne_group legible written.1)
  | .test subject predicate, .not _, written, _, _, _, same, _ => by
      simp only [characters, List.append_assoc] at same
      exact absurd same (test_ne_negation legible written.1 _)
  | .junction _ _ _, .test subject' predicate', _, written', _, _, same, _ => by
      simp only [characters, List.append_assoc] at same
      exact absurd same.symm (test_ne_group legible written'.1)
  | .junction conjunctive head others, .junction conjunctive' head' others', written, written',
      closed, closed', same, bindSame => by
      simp only [characters, Condition.values, List.append_assoc, List.cons_append] at same bindSame
      obtain ⟨rfl, sameRest, bindRest⟩ := read legible written.2.1 written'.2.1
        (closed_closing _) (closed_closing _) (List.cons.inj same).2 bindSame
      obtain ⟨rfl, sameWord, finish⟩ := readOthers legible written.2.2 written'.2.2 closed closed'
        (List.cons.inj sameRest).2 bindRest
      refine ⟨?_, finish⟩
      congr 1
      by_cases single : others = []
      · rw [written.1 single, written'.1 single]
      · exact sameWord single
  | .junction _ _ _, .not _, _, _, _, _, same, _ => by
      simp [characters] at same
  | .not _, .test subject' predicate', _, written', _, _, same, _ => by
      simp only [characters, List.append_assoc] at same
      exact absurd same.symm (test_ne_negation legible written'.1 _)
  | .not _, .junction _ _ _, _, _, _, _, same, _ => by
      simp [characters] at same
  | .not inner, .not inner', written, written', closed, closed', same, bindSame => by
      simp only [characters, List.append_assoc, List.cons_append, List.nil_append] at same
      have writtenInner : inner.IsWritten := written
      have writtenInner' : inner'.IsWritten := written'
      obtain ⟨rfl, sameRest, finish⟩ := read legible writtenInner writtenInner'
        (closed_closing _) (closed_closing _) (List.append_cancel_left same) bindSame
      exact ⟨rfl, (List.cons.inj sameRest).2, finish⟩

/-- The conditions behind the first one of a junction are read back, and with them the word. -/
theorem readOthers
    (legible : dialect.IsLegible)
    {bound : Nat}
    {rest rest' : List Char}
    {values values' : List Value}
    {conjunctive conjunctive' : Bool} :
    ∀ {first second : List Condition}, AreWritten first → AreWritten second →
      Closed rest → Closed rest' →
        others dialect conjunctive bound first ++ rest =
            others dialect conjunctive' bound second ++ rest' →
          allValues first ++ values = allValues second ++ values' →
            first = second ∧ (first ≠ [] → conjunctive = conjunctive') ∧
              rest = rest' ∧ values = values'
  | [], [], _, _, _, _, same, bindSame => ⟨rfl, by simp, same, bindSame⟩
  | [], _ :: _, _, _, closed, _, same, _ => absurd same.symm (others_ne_closed closed)
  | _ :: _, [], _, _, _, closed', same, _ => absurd same (others_ne_closed closed')
  | head :: tail, head' :: tail', written, written', closed, closed', same, bindSame => by
      simp only [others, allValues, List.append_assoc, List.cons_append] at same bindSame
      obtain ⟨rfl, sameRest⟩ := separator_read same
      obtain ⟨rfl, sameOthers, bindOthers⟩ := read legible written.1 written'.1
        (closed_closing _) (closed_closing _) sameRest bindSame
      obtain ⟨rfl, -, finish⟩ := readOthers legible written.2 written'.2 closed closed'
        (List.cons.inj sameOthers).2 bindOthers
      exact ⟨rfl, fun _ => rfl, finish⟩

end

/-- Written conditions with the same characters and the same values are the same. -/
theorem eq_of_characters_eq
    (legible : dialect.IsLegible)
    {first second : Condition}
    (written : first.IsWritten)
    (written' : second.IsWritten)
    (same : first.characters dialect bound = second.characters dialect bound)
    (bindSame : first.values = second.values) :
    first = second := by
  have nothing : Closed [] := by simp [Closed]
  have noValues : first.values ++ [] = second.values ++ [] := by rw [bindSame]
  exact (read legible written written' nothing nothing (by rw [same]) noValues).1

end Condition

end Phrase
end ObjectQuery
