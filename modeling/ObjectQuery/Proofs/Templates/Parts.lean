import ObjectQuery.FunctionSpelling
import ObjectQuery.Proofs.Aliases.Generated
import ObjectQuery.Proofs.Occurrence

/-!
# Parts of a template

A template is read once, from left to right: the marks of the arguments are told apart from the
characters that are written as they are. The arguments are substituted for their marks all at
once, so that what an argument writes is never read again.

A call is written otherwise. The arguments are put into the template one after the other, and each
mark is looked for in all of the text that has come about so far. As long as no argument overlaps
a mark that is looked for after it was written, the marks that are found are those of the
template.
-/

namespace ObjectQuery

/-! ## Marks -/

namespace FunctionSpelling

/-- The characters of a mark. -/
def mark (position : Nat) : List Char :=
  (placeholder position).toList

/-- The characters of a mark behind its opening brace. -/
def closing (position : Nat) : List Char :=
  Nat.toDigits 10 position ++ ['\x7d']

theorem mark_eq (position : Nat) : mark position = '\x7b' :: closing position := by
  simp [mark, closing, placeholder]

theorem mark_ne_nil (position : Nat) : mark position ≠ [] := by
  simp [mark_eq]

theorem one_lt_length_mark (position : Nat) : 1 < (mark position).length := by
  simp [mark_eq, closing]

theorem isDigit_or_brace_of_mem_closing
    {position : Nat}
    {character : Char}
    (member : character ∈ closing position) :
    character.isDigit = true ∨ character = '\x7d' := by
  rcases List.mem_append.mp member with digit | brace
  · exact .inl (Number.isDigit_of_mem_toDigits digit)
  · exact .inr (by simpa using brace)

theorem opening_notMem_closing (position : Nat) : '\x7b' ∉ closing position := by
  intro member
  exact absurd (isDigit_or_brace_of_mem_closing member) (by decide)

/-- No mark begins with another. -/
theorem eq_of_mark_begins
    {position other : Nat}
    {rest : List Char}
    (begins : mark position <+: mark other ++ rest) :
    position = other := by
  have noDigit : '\x7d'.isDigit = false := by decide
  rw [mark_eq, mark_eq, List.cons_append, List.cons_prefix_cons] at begins
  obtain ⟨behind, equal⟩ := begins.2
  -- read backwards, the digits are what stands behind the first closing brace
  have backwards := congrArg List.reverse equal
  simp only [closing, List.reverse_append, List.reverse_cons, List.append_assoc,
    List.singleton_append] at backwards
  obtain ⟨-, digits⟩ := eq_of_append_separator
    (mt List.mem_reverse.mp (Number.notMem_toDigits noDigit position))
    (mt List.mem_reverse.mp (Number.notMem_toDigits noDigit other)) backwards
  exact Number.toDigits_injective (List.reverse_injective digits)

/-! ## Reading a template -/

/-- A part of a template for a number of arguments. -/
inductive TemplatePart (count : Nat) where
  /-- A character that is written as it is. -/
  | character (written : Char)
  /-- The mark of an argument. -/
  | argument (position : Fin count)

namespace TemplatePart

variable {count : Nat}

/-- The argument whose mark stands at the beginning of a text. -/
def markedAt? (count : Nat) (text : List Char) : Option (Fin count) :=
  (List.finRange count).find? fun position => (mark position).isPrefixOf text

/-- The parts of a text; the first argument counts the characters of a mark that are still to be
passed over. -/
def partsFrom (count : Nat) : Nat → List Char → List (TemplatePart count)
  | _, [] => []
  | passed + 1, _ :: rest => partsFrom count passed rest
  | 0, first :: rest =>
      match markedAt? count (first :: rest) with
      | some position => .argument position :: partsFrom count (closing position).length rest
      | none => .character first :: partsFrom count 0 rest

/-- How a part is written in the template. -/
def source : TemplatePart count → List Char
  | .character written => [written]
  | .argument position => mark position

/-- How a part is written once it has its argument. -/
def filled (arguments : List String) : TemplatePart arguments.length → List Char
  | .character written => [written]
  | .argument position => arguments[position].toList

/-- No character that is written as it is begins a mark. -/
def Unmarked : List (TemplatePart count) → Prop
  | [] => True
  | .character written :: rest =>
      (∀ position : Fin count, ¬ mark position <+: written :: rest.flatMap source) ∧ Unmarked rest
  | .argument _ :: rest => Unmarked rest

theorem markedAt?_eq_none_iff {text : List Char} :
    markedAt? count text = none ↔ ∀ position : Fin count, ¬ mark position <+: text := by
  simp [markedAt?, List.find?_eq_none, List.isPrefixOf_iff_prefix]

theorem mark_prefix_of_markedAt?
    {text : List Char}
    {position : Fin count}
    (marked : markedAt? count text = some position) :
    mark position <+: text := by
  simpa [List.isPrefixOf_iff_prefix] using List.find?_some marked

theorem markedAt?_mark_append (position : Fin count) (rest : List Char) :
    markedAt? count (mark position ++ rest) = some position := by
  cases marked : markedAt? count (mark position ++ rest) with
  | none => exact absurd (List.prefix_append _ _) (markedAt?_eq_none_iff.mp marked position)
  | some found => rw [Fin.ext (eq_of_mark_begins (mark_prefix_of_markedAt? marked))]

theorem partsFrom_eq_drop (passed : Nat) (text : List Char) :
    partsFrom count passed text = partsFrom count 0 (text.drop passed) := by
  induction text generalizing passed with
  | nil => simp [partsFrom]
  | cons first text inductionHypothesis =>
      cases passed with
      | zero => rfl
      | succ passed => rw [partsFrom, inductionHypothesis, List.drop_succ_cons]

/-- A mark is a part, and what stands behind it is read on its own. -/
theorem partsFrom_mark_append (position : Fin count) (rest : List Char) :
    partsFrom count 0 (mark position ++ rest) = .argument position :: partsFrom count 0 rest := by
  have marked := markedAt?_mark_append position rest
  rw [mark_eq, List.cons_append] at marked ⊢
  simp only [partsFrom, marked]
  rw [partsFrom_eq_drop, List.drop_left]

/-- Characters in which no mark begins are parts, each on its own. -/
theorem partsFrom_append
    {start rest : List Char}
    (unmarked : ∀ place < start.length, ∀ position : Fin count,
      ¬ mark position <+: start.drop place ++ rest) :
    partsFrom count 0 (start ++ rest) = start.map .character ++ partsFrom count 0 rest := by
  induction start with
  | nil => rfl
  | cons first start inductionHypothesis =>
      have behind := inductionHypothesis fun place below => by
        simpa using unmarked (place + 1) (by simpa using below)
      have here : markedAt? count (first :: (start ++ rest)) = none :=
        markedAt?_eq_none_iff.mpr (unmarked 0 (by simp))
      rw [List.map_cons, List.cons_append, List.cons_append, ← behind, partsFrom, here]

/-- The parts of a text are the parts of that text. -/
theorem flatMap_source_partsFrom (passed : Nat) (text : List Char) :
    (partsFrom count passed text).flatMap source = text.drop passed := by
  induction text generalizing passed with
  | nil => simp [partsFrom]
  | cons first rest inductionHypothesis =>
      cases passed with
      | succ passed => rw [partsFrom, inductionHypothesis, List.drop_succ_cons]
      | zero =>
          rw [partsFrom]
          split
          · next position marked =>
              have begins := mark_prefix_of_markedAt? marked
              rw [mark_eq, List.cons_prefix_cons] at begins
              obtain ⟨rfl, behind⟩ := begins
              rw [List.flatMap_cons, inductionHypothesis, source, mark_eq, List.cons_append,
                List.prefix_iff_eq_append.mp behind, List.drop_zero]
          · rw [List.flatMap_cons, inductionHypothesis, source, List.singleton_append]
            rfl

theorem unmarked_partsFrom (passed : Nat) (text : List Char) :
    Unmarked (partsFrom count passed text) := by
  induction text generalizing passed with
  | nil => simp [partsFrom, Unmarked]
  | cons first rest inductionHypothesis =>
      cases passed with
      | succ passed => exact inductionHypothesis passed
      | zero =>
          rw [partsFrom]
          split
          · exact inductionHypothesis _
          · next unmarked =>
              refine ⟨?_, inductionHypothesis 0⟩
              rw [flatMap_source_partsFrom, List.drop_zero]
              exact markedAt?_eq_none_iff.mp unmarked

end TemplatePart

/-- A template in which every mark of an argument has given way to the argument, all of them at
once. -/
def substituted (template : String) (arguments : List String) : String :=
  String.ofList
    ((TemplatePart.partsFrom arguments.length 0 template.toList).flatMap
      (TemplatePart.filled arguments))

/-! ## Stages of a template -/

open Text (Overlaps replaceFrom)

variable {arguments : List String} {stage : Nat}

/-- The arguments that are written before the one at a position do not overlap its mark. -/
def Spares (arguments : List String) (stage : Nat) : Prop :=
  ∀ position (below : position < arguments.length), position < stage →
    ¬ Overlaps (mark stage) arguments[position].toList

/-- The end of a mark does not begin with a brace that opens. -/
theorem drop_mark_ne_opening
    {place : Nat}
    {behind : List Char}
    (inside : 0 < place) :
    (mark stage).drop place ≠ '\x7b' :: behind := by
  intro equal
  obtain ⟨place, rfl⟩ := Nat.exists_eq_add_one_of_ne_zero (Nat.ne_of_gt inside)
  rw [mark_eq, List.drop_succ_cons] at equal
  exact opening_notMem_closing stage (List.mem_of_mem_drop (equal ▸ List.mem_cons_self))

namespace TemplatePart

/-- How a part is written when the arguments below `stage` have been put in. -/
def staged (arguments : List String) (stage : Nat) : TemplatePart arguments.length → List Char
  | .character written => [written]
  | .argument position =>
      if position < stage then arguments[position].toList else mark position

theorem staged_zero : staged arguments 0 = source := by
  funext part
  cases part <;> rfl

theorem staged_eq_filled (complete : arguments.length ≤ stage) :
    staged arguments stage = filled arguments := by
  funext part
  cases part with
  | character written => rfl
  | argument position => exact if_pos (Nat.lt_of_lt_of_le position.isLt complete)

variable {parts : List (TemplatePart arguments.length)}

/-- The end of a mark that stands at the beginning of a text with some arguments in it stands
there in the template already: the arguments have no share in it, and no mark stands in the midst
of another. -/
theorem prefix_source_of_prefix_staged
    (spared : Spares arguments stage)
    {place : Nat}
    (inside : 0 < place)
    (begins : (mark stage).drop place <+: parts.flatMap (staged arguments stage)) :
    (mark stage).drop place <+: parts.flatMap source := by
  induction parts generalizing place with
  | nil => exact begins
  | cons part parts inductionHypothesis =>
      cases ending : (mark stage).drop place with
      | nil => exact List.nil_prefix
      | cons first ending' =>
          have next : (mark stage).drop (place + 1) = ending' := by
            rw [← List.drop_drop, ending, List.drop_succ_cons, List.drop_zero]
          cases part with
          | character written =>
              rw [ending] at begins
              obtain ⟨rfl, behind⟩ := List.cons_prefix_cons.mp begins
              rw [← next] at behind ⊢
              exact List.cons_prefix_cons.mpr
                ⟨rfl, inductionHypothesis (Nat.succ_pos place) behind⟩
          | argument position =>
              rw [List.flatMap_cons, staged] at begins
              split at begins
              · next below =>
                  refine absurd (.inr ⟨place, ?_, inside, ?_⟩)
                    (spared position position.isLt below)
                  · exact Nat.lt_of_not_le fun beyond => by
                      simp [List.drop_eq_nil_of_le beyond] at ending
                  · exact List.prefix_or_prefix_of_prefix begins (List.prefix_append _ _)
              · -- a mark of an argument begins with a brace, which the rest of a mark does not
                rw [mark_eq position, ending] at begins
                obtain ⟨rfl, -⟩ := List.cons_prefix_cons.mp begins
                exact absurd ending (drop_mark_ne_opening inside)

/-- Putting one argument in replaces the marks that the template has for it, and nothing else. -/
theorem replaceFrom_staged
    (spared : Spares arguments stage)
    (below : stage < arguments.length)
    (unmarked : Unmarked parts) :
    replaceFrom (mark stage) arguments[stage].toList 0 (parts.flatMap (staged arguments stage)) =
      parts.flatMap (staged arguments (stage + 1)) := by
  induction parts with
  | nil => rfl
  | cons part parts inductionHypothesis =>
      rw [List.flatMap_cons, List.flatMap_cons]
      cases part with
      | character written =>
          obtain ⟨unmarkedHere, unmarked⟩ := unmarked
          rw [← inductionHypothesis unmarked]
          refine Text.replaceFrom_cons fun begins => unmarkedHere ⟨stage, below⟩ ?_
          have ending : (mark stage).drop 1 = closing stage := by
            rw [mark_eq, List.drop_succ_cons, List.drop_zero]
          rw [mark_eq, ← ending] at begins ⊢
          obtain ⟨brace, behind⟩ := List.cons_prefix_cons.mp begins
          exact List.cons_prefix_cons.mpr
            ⟨brace, prefix_source_of_prefix_staged spared Nat.one_pos behind⟩
      | argument position =>
          rw [← inductionHypothesis unmarked]
          rcases Nat.lt_trichotomy position stage with earlier | same | later
          · rw [staged, staged, if_pos earlier, if_pos (Nat.lt_succ_of_lt earlier)]
            refine Text.replaceFrom_append fun place within begins => ?_
            refine absurd (.inl ⟨place, within, ?_⟩) (spared position position.isLt earlier)
            exact List.prefix_or_prefix_of_prefix begins (List.prefix_append _ _)
          · obtain rfl : position = ⟨stage, below⟩ := Fin.ext same
            rw [staged, staged, if_neg (Nat.lt_irrefl _), if_pos (Nat.lt_succ_self _)]
            exact Text.replaceFrom_needle_append (mark_ne_nil stage)
          · rw [staged, staged, if_neg (Nat.not_lt_of_gt later),
              if_neg (Nat.not_lt_of_ge later)]
            refine Text.replaceFrom_append fun place within begins => ?_
            cases place with
            | zero => exact absurd (eq_of_mark_begins begins) (Nat.ne_of_lt later)
            | succ place =>
                have ending := List.drop_eq_getElem_cons within
                rw [ending, mark_eq stage] at begins
                obtain ⟨brace, -⟩ := List.cons_prefix_cons.mp begins
                rw [← brace] at ending
                exact absurd ending (drop_mark_ne_opening (Nat.succ_pos place))

end TemplatePart

/-- A template in which the arguments below `stage` have been put in. -/
def stagedText (template : String) (arguments : List String) (stage : Nat) : String :=
  String.ofList
    ((TemplatePart.partsFrom arguments.length 0 template.toList).flatMap
      (TemplatePart.staged arguments stage))

theorem stagedText_zero (template : String) : stagedText template arguments 0 = template := by
  rw [stagedText, TemplatePart.staged_zero, TemplatePart.flatMap_source_partsFrom, List.drop_zero,
    String.ofList_toList]

theorem stagedText_length (template : String) :
    stagedText template arguments arguments.length = substituted template arguments := by
  rw [stagedText, TemplatePart.staged_eq_filled (Nat.le_refl _), substituted]

theorem replaceAll_stagedText
    (template : String)
    (spared : Spares arguments stage)
    (below : stage < arguments.length) :
    Text.replaceAll (stagedText template arguments stage) (placeholder stage) arguments[stage] =
      stagedText template arguments (stage + 1) := by
  rw [Text.replaceAll, stagedText, String.toList_ofList, stagedText,
    ← TemplatePart.replaceFrom_staged spared below (TemplatePart.unmarked_partsFrom 0 _)]
  rfl

/-- The arguments below a stage are put in as they would be at once, if their marks are spared. -/
theorem fill_eq_fill_stagedText
    (template : String)
    (within : stage ≤ arguments.length)
    (spared : ∀ earlier < stage, Spares arguments earlier) :
    fill template 0 arguments =
      fill (stagedText template arguments stage) stage (arguments.drop stage) := by
  induction stage with
  | zero => rw [stagedText_zero, List.drop_zero]
  | succ stage inductionHypothesis =>
      rw [inductionHypothesis (Nat.le_of_succ_le within)
          fun earlier below => spared earlier (Nat.lt_succ_of_lt below),
        List.drop_eq_getElem_cons within, fill,
        replaceAll_stagedText template (spared stage (Nat.lt_succ_self _)) within]

end FunctionSpelling
end ObjectQuery
