import Mathlib.Data.Nat.Find
import ObjectQuery.Proofs.Templates.Parts

/-!
# Filling a template

A template is filled as if all its arguments were substituted at once as long as no argument
overlaps a mark that is looked for after the argument was written. Of any text that does overlap
such a mark, there is a template in which it goes astray, however harmless the other arguments.
-/

namespace ObjectQuery
namespace FunctionSpelling

open Text (Overlaps)

/-- What is written for an argument at a position overlaps no mark that is looked for later. -/
def Harmless (count position : Nat) (text : String) : Prop :=
  ∀ later < count, position < later → ¬ Overlaps (mark later) text.toList

instance (count position : Nat) (text : String) : Decidable (Harmless count position text) :=
  inferInstanceAs (Decidable (∀ later < count, _))

/-- Every argument is harmless where it stands. -/
def AllHarmless (arguments : List String) : Prop :=
  ∀ position (below : position < arguments.length),
    Harmless arguments.length position arguments[position]

instance (arguments : List String) : Decidable (AllHarmless arguments) :=
  inferInstanceAs (Decidable (∀ position (_ : position < arguments.length), _))

variable {arguments : List String} {count position stage : Nat} {text : String}

/-- Harmless arguments are put in as if it were done at once. -/
theorem fill_eq_substituted (template : String) (harmless : AllHarmless arguments) :
    fill template 0 arguments = substituted template arguments := by
  have spared (stage : Nat) (below : stage < arguments.length) : Spares arguments stage :=
    fun position within earlier => harmless position within stage below earlier
  rw [fill_eq_fill_stagedText template (Nat.le_refl _) spared, List.drop_length, fill,
    stagedText_length]

/-! ## Texts that go astray -/

/-- A letter is in no mark. -/
theorem harmless_letter (count position : Nat) : Harmless count position "x" := by
  intro later _ _ overlaps
  obtain ⟨character, letter, member⟩ := overlaps.exists_mem (mark_ne_nil later) (by decide)
  obtain rfl : character = 'x' := by simpa using letter
  rw [mark_eq, List.mem_cons] at member
  rcases member with brace | member
  · exact absurd brace (by decide)
  · exact absurd (isDigit_or_brace_of_mem_closing member) (by decide)

namespace TemplatePart

variable {later before behind : Nat}

theorem brace_notMem_take_mark (within : before < (mark later).length) :
    '\x7d' ∉ (mark later).take before := by
  have front : mark later = ('\x7b' :: Nat.toDigits 10 later) ++ ['\x7d'] := by
    rw [mark_eq, closing, List.cons_append]
  rw [front] at within ⊢
  rw [List.length_append] at within
  rw [List.take_append_of_le_length (Nat.le_of_lt_succ within)]
  intro member
  rcases List.mem_cons.mp (List.mem_of_mem_take member) with brace | digit
  · exact absurd brace (by decide)
  · exact Number.notMem_toDigits (by decide) later digit

/-- No mark begins in what is not closed before the next mark. -/
theorem not_mark_prefix_of_unclosed
    {start rest : List Char}
    {position other : Nat}
    (nonempty : start ≠ [])
    (unclosed : '\x7d' ∉ start) :
    ¬ mark position <+: start ++ (mark other ++ rest) := by
  intro begins
  obtain ⟨first, start, rfl⟩ := List.exists_cons_of_ne_nil nonempty
  have closes : '\x7d' ∈ closing position := by simp [closing]
  rw [mark_eq position, List.cons_append] at begins
  obtain ⟨-, begins⟩ := List.cons_prefix_cons.mp begins
  rcases List.prefix_or_prefix_of_prefix begins (List.prefix_append start _) with
    inside | ⟨end', split⟩
  · exact unclosed (List.mem_cons_of_mem _ (inside.subset closes))
  · rw [← split, List.prefix_append_right_inj] at begins
    cases end' with
    | nil =>
        rw [List.append_nil] at split
        exact unclosed (List.mem_cons_of_mem _ (split ▸ closes))
    | cons brace end' =>
        rw [mark_eq other, List.cons_append] at begins
        obtain ⟨rfl, -⟩ := List.cons_prefix_cons.mp begins
        exact opening_notMem_closing position (split ▸ by simp)

/-- A mark between a beginning and an end of another one is the only mark there. -/
theorem partsFrom_surrounded
    (position : Fin count)
    (within : before < (mark later).length)
    (inside : 0 < behind) :
    partsFrom count 0 ((mark later).take before ++ (mark position ++ (mark later).drop behind)) =
      ((mark later).take before).map .character ++
        .argument position :: ((mark later).drop behind).map .character := by
  have ending : partsFrom count 0 ((mark later).drop behind ++ []) =
      ((mark later).drop behind).map .character ++ partsFrom count 0 [] :=
    partsFrom_append fun place _ found begins => by
      rw [List.append_nil, List.drop_drop, mark_eq found] at begins
      obtain ⟨rest, equal⟩ := begins
      exact drop_mark_ne_opening (Nat.lt_add_right place inside) equal.symm
  rw [partsFrom_append, partsFrom_mark_append]
  · rw [List.append_nil, partsFrom, List.append_nil] at ending
    rw [ending]
  · intro place below found
    refine not_mark_prefix_of_unclosed ?_ fun member =>
      brace_notMem_take_mark within (List.mem_of_mem_drop member)
    exact List.ne_nil_of_length_pos (by rw [List.length_drop]; omega)

end TemplatePart

/-- A template whose one mark stands between a beginning and an end of another mark. -/
def surrounded (position later before behind : Nat) : String :=
  String.ofList ((mark later).take before ++ (mark position ++ (mark later).drop behind))

theorem stagedText_surrounded
    {later before behind : Nat}
    (within : before < (mark later).length)
    (inside : 0 < behind)
    (got : arguments[position]? = some text)
    (put : position < stage) :
    (stagedText (surrounded position later before behind) arguments stage).toList =
      (mark later).take before ++ text.toList ++ (mark later).drop behind := by
  obtain ⟨below, rfl⟩ := List.getElem?_eq_some_iff.mp got
  have characters (start : List Char) :
      (start.map .character).flatMap (TemplatePart.staged arguments stage) = start := by
    rw [List.flatMap_map]
    exact List.flatMap_singleton' start
  rw [stagedText, surrounded, String.toList_ofList, String.toList_ofList,
    TemplatePart.partsFrom_surrounded ⟨position, below⟩ within inside, List.flatMap_append,
    List.flatMap_cons, characters, characters, TemplatePart.staged, if_pos put,
    List.append_assoc]
  rfl

/-- Filling a text with single letters does not make it longer. -/
theorem length_fill_le
    (letters : ∀ argument ∈ arguments, argument.toList.length ≤ 1)
    (position : Nat)
    (text : String) :
    (fill text position arguments).toList.length ≤ text.toList.length := by
  induction arguments generalizing position text with
  | nil => exact Nat.le_refl _
  | cons argument arguments inductionHypothesis =>
      have shorter : argument.toList.length ≤ (placeholder position).toList.length :=
        Nat.le_trans (letters argument List.mem_cons_self)
          (List.length_pos_of_ne_nil (mark_ne_nil position))
      refine Nat.le_trans (inductionHypothesis
        (fun argument member => letters argument (List.mem_cons_of_mem _ member)) _ _) ?_
      rw [Text.replaceAll, String.toList_ofList]
      exact Text.length_replaceFrom_le shorter 0 _

/-- The text at a position, and letters around it. -/
def among (count position : Nat) (text : String) : List String :=
  (List.replicate count "x").set position text

@[simp]
theorem length_among (count position : Nat) (text : String) :
    (among count position text).length = count := by
  simp [among]

theorem getElem?_among_self (below : position < count) :
    (among count position text)[position]? = some text := by
  simp [among, below]

theorem getElem?_among_ne
    {other : Nat}
    {found : String}
    (different : other ≠ position)
    (got : (among count position text)[other]? = some found) :
    found = "x" := by
  rw [among, List.getElem?_set_ne different.symm] at got
  exact List.eq_of_mem_replicate (List.mem_of_getElem? got)

theorem spares_among
    (spared : position < stage → ¬ Overlaps (mark stage) text.toList)
    (within : stage < count) :
    Spares (among count position text) stage := by
  intro other below earlier
  have got := List.getElem?_eq_getElem below
  by_cases same : other = position
  · subst same
    rw [getElem?_among_self (length_among count other text ▸ below)] at got
    rw [← Option.some_inj.mp got]
    exact spared earlier
  · rw [getElem?_among_ne same got]
    exact harmless_letter count other stage within earlier

theorem drop_among
    {later : Nat}
    (behindText : position < later)
    (below : later < count) :
    (among count position text).drop later =
      "x" :: (among count position text).drop (later + 1) := by
  have within : later < (among count position text).length := by simpa using below
  rw [List.drop_eq_getElem_cons within,
    getElem?_among_ne (Nat.ne_of_gt behindText) (List.getElem?_eq_getElem within)]

theorem length_le_of_mem_drop_among
    {later : Nat}
    (behindText : position < later) :
    ∀ argument ∈ (among count position text).drop later, argument.toList.length ≤ 1 := by
  intro argument member
  obtain ⟨place, got⟩ := List.mem_iff_getElem?.mp member
  rw [List.getElem?_drop] at got
  rw [getElem?_among_ne (Nat.ne_of_gt (Nat.lt_add_right place behindText)) got]
  decide

/-- Among the later marks that a text overlaps there is one that is looked for first. -/
theorem exists_first_overlapped (harmful : ¬ Harmless count position text) :
    ∃ later < count, position < later ∧ Overlaps (mark later) text.toList ∧
      ∀ earlier < later, position < earlier → ¬ Overlaps (mark earlier) text.toList := by
  have overlapped : ∃ later, later < count ∧ position < later ∧
      Overlaps (mark later) text.toList := by
    simpa [Harmless] using harmful
  obtain ⟨below, behindText, overlaps⟩ := Nat.find_spec overlapped
  exact ⟨Nat.find overlapped, below, behindText, overlaps, fun earlier before behind again =>
    Nat.find_min overlapped before ⟨Nat.lt_trans before below, behind, again⟩⟩

/-- A text that is not harmless goes astray in some template, among harmless arguments. -/
theorem exists_fill_ne_substituted
    (below : position < count)
    (harmful : ¬ Harmless count position text) :
    ∃ template, fill template 0 (among count position text) ≠
      substituted template (among count position text) := by
  -- before the first mark that the text overlaps is looked for, nothing goes astray
  obtain ⟨later, laterBelow, behindText, overlaps, first⟩ := exists_first_overlapped harmful
  obtain ⟨before, within, behind, inside, occurs⟩ :=
    overlaps.exists_surroundings (mark_ne_nil later)
  refine ⟨surrounded position later before behind, fun equal => ?_⟩
  have got : (among count position text)[position]? = some text := getElem?_among_self below
  have atOnce := stagedText_surrounded within inside got
    (Nat.lt_of_lt_of_eq below (length_among count position text).symm)
  rw [fill_eq_fill_stagedText _ (by simpa using Nat.le_of_lt laterBelow) fun earlier before =>
      spares_among (first earlier before) (Nat.lt_trans before laterBelow),
    drop_among behindText laterBelow, fill, ← stagedText_length] at equal
  -- a letter takes the place of the mark, and what is filled in later is not longer than its mark
  have letters : ∀ argument ∈ (among count position text).drop (later + 1),
      argument.toList.length ≤ 1 :=
    length_le_of_mem_drop_among (Nat.lt_succ_of_lt behindText)
  have shorter := length_fill_le letters (later + 1) (Text.replaceAll
      (stagedText (surrounded position later before behind) (among count position text) later)
      (placeholder later) "x")
  rw [equal, atOnce, Text.replaceAll, String.toList_ofList,
    stagedText_surrounded within inside got behindText] at shorter
  have letter : "x".toList.length < (mark later).length := one_lt_length_mark later
  exact absurd (Text.length_replaceFrom_lt letter occurs) (Nat.not_lt_of_ge shorter)

/-! ## Calls -/

/-- The arguments as they are written in a call. -/
def written (arguments : List String) (distinct : Bool) : List String :=
  match arguments with
  | [] => []
  | first :: rest => (if distinct then "DISTINCT " ++ first else first) :: rest

theorem render_eq_fill (spelling : FunctionSpelling) (arguments : List String) (distinct : Bool) :
    spelling.render arguments distinct = fill spelling.template 0 (written arguments distinct) := by
  cases arguments <;> rfl

theorem written_false (arguments : List String) : written arguments false = arguments := by
  cases arguments <;> rfl

theorem length_written (arguments : List String) (distinct : Bool) :
    (written arguments distinct).length = arguments.length := by
  cases arguments <;> rfl

/-- Whatever the template, a call is rendered by substituting the arguments for their marks, all
at once, if none of them overlaps a mark that is looked for after it was written. No argument can
be spared this condition: where one does not meet it, the same text goes astray at the same place
in some template, though all other arguments meet the condition. -/
theorem render_eq_substituted_of_allHarmless (arguments : List String) (distinct : Bool) :
    (AllHarmless (written arguments distinct) →
      ∀ spelling : FunctionSpelling, spelling.render arguments distinct =
        substituted spelling.template (written arguments distinct)) ∧
      ∀ position text, (written arguments distinct)[position]? = some text →
        ¬ Harmless arguments.length position text →
          ∃ (spelling : FunctionSpelling) (others : List String),
            others.length = arguments.length ∧ others[position]? = some text ∧
              (∀ other found, other ≠ position → others[other]? = some found →
                Harmless arguments.length other found) ∧
              spelling.render others false ≠ substituted spelling.template others := by
  refine ⟨fun harmless spelling => ?_, fun position text got harmful => ?_⟩
  · rw [render_eq_fill, fill_eq_substituted _ harmless]
  · obtain ⟨below, -⟩ := List.getElem?_eq_some_iff.mp got
    rw [length_written] at below
    obtain ⟨template, astray⟩ := exists_fill_ne_substituted below harmful
    refine ⟨⟨"", .max, .any, .scalar, template, none⟩, among arguments.length position text,
      length_among _ _ _, getElem?_among_self below, ?_, ?_⟩
    · intro other found different got
      rw [getElem?_among_ne different got]
      exact harmless_letter _ other
    · rwa [render_eq_fill, written_false]

/-- The greater of two values. A mark in the second argument stays as it is; one in the first, even
within quotes, gives way to the second argument. -/
theorem greatest_quoted_mark :
    let greatest : FunctionSpelling :=
      ⟨"greatest", .max, .any, .scalar, "greatest(\x7b0\x7d, \x7b1\x7d)", none⟩
    AllHarmless (written ["o.total", "'\x7b1\x7d'"] true) ∧
      greatest.render ["o.total", "'\x7b1\x7d'"] true =
        substituted greatest.template (written ["o.total", "'\x7b1\x7d'"] true) ∧
      substituted greatest.template (written ["o.total", "'\x7b1\x7d'"] true) =
        "greatest(DISTINCT o.total, '\x7b1\x7d')" ∧
      ¬ Harmless 2 0 "'\x7b1\x7d'" ∧
      greatest.render ["'\x7b1\x7d'", "o.total"] false = "greatest('o.total', o.total)" ∧
      substituted greatest.template ["'\x7b1\x7d'", "o.total"] =
        "greatest('\x7b1\x7d', o.total)" := by
  intro greatest
  have harmless : AllHarmless (written ["o.total", "'\x7b1\x7d'"] true) := by decide +kernel
  exact ⟨harmless, (render_eq_substituted_of_allHarmless _ true).1 harmless greatest,
    by decide +kernel, by decide +kernel, by decide +kernel, by decide +kernel⟩

end FunctionSpelling
end ObjectQuery
