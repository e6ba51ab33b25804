import Mathlib.Data.List.Basic
import Mathlib.Data.List.Infix
import ObjectQuery.Text.Blank
import ObjectQuery.Text.Search

/-!
# Occurrences of a text

Where a text is put together from others, each of them occurs in it, and it can be seen where
one of them can. Where one text is replaced by another, an occurrence is replaced as a whole, and
nothing of it or of its replacement is read again. A text may stand so that an occurrence takes in
part of it and part of what is written around it.
-/

namespace ObjectQuery
namespace Text

/-! ## Pieces of a text -/

/-- A text that is a piece of another one. -/
def Occurs (piece text : String) : Prop :=
  ∃ left right, text = left ++ piece ++ right

variable {piece text : String} {texts : List String}

theorem Occurs.refl (text : String) : Occurs text text :=
  ⟨"", "", by simp⟩

theorem Occurs.before (occurs : Occurs piece text) (words : String) :
    Occurs piece (text ++ words) := by
  obtain ⟨left, right, rfl⟩ := occurs
  exact ⟨left, right ++ words, by simp only [String.append_assoc]⟩

theorem Occurs.behind (occurs : Occurs piece text) (words : String) :
    Occurs piece (words ++ text) := by
  obtain ⟨left, right, rfl⟩ := occurs
  exact ⟨words ++ left, right, by simp only [String.append_assoc]⟩

theorem occurs_join (member : piece ∈ texts) : Occurs piece (String.join texts) := by
  obtain ⟨firsts, others, rfl⟩ := List.append_of_mem member
  exact ⟨String.join firsts, String.join others, by
    rw [String.join_append, String.join_cons, String.append_assoc]⟩

theorem occurs_intercalate (separator : String) (member : piece ∈ texts) :
    Occurs piece (separator.intercalate texts) := by
  obtain ⟨firsts, others, rfl⟩ := List.append_of_mem member
  have last : Occurs piece (separator.intercalate (piece :: others)) := by
    cases others with
    | nil => simpa using Occurs.refl piece
    | cons other rest =>
        rw [String.intercalate_cons_cons]
        exact ((Occurs.refl piece).before _).before _
  cases firsts with
  | nil => exact last
  | cons first rest =>
      rw [String.intercalate_append_of_ne_nil (List.cons_ne_nil _ _) (List.cons_ne_nil _ _)]
      exact last.behind _

theorem isBlank_append (first second : String) :
    isBlank (first ++ second) = (isBlank first && isBlank second) := by
  simp [isBlank]

/-- Texts with something between them can be seen where the first of them can. -/
theorem isBlank_intercalate_cons
    {first : String}
    (visible : isBlank first = false)
    (separator : String)
    (rest : List String) :
    isBlank (separator.intercalate (first :: rest)) = false := by
  cases rest with
  | nil => simpa using visible
  | cons second rest => simp [String.intercalate_cons_cons, isBlank_append, visible]

/-! ## Replacing one text by another -/

variable {needle replacement start rest : List Char}

theorem replaceFrom_eq_drop (passed : Nat) (text : List Char) :
    replaceFrom needle replacement passed text =
      replaceFrom needle replacement 0 (text.drop passed) := by
  induction text generalizing passed with
  | nil => simp [replaceFrom]
  | cons character text inductionHypothesis =>
      cases passed with
      | zero => rfl
      | succ passed => rw [replaceFrom, inductionHypothesis, List.drop_succ_cons]

/-- What stands at the beginning is replaced, and nothing of it is read again. -/
theorem replaceFrom_needle_append (nonempty : needle ≠ []) :
    replaceFrom needle replacement 0 (needle ++ rest) =
      replacement ++ replaceFrom needle replacement 0 rest := by
  obtain ⟨first, others, rfl⟩ := List.exists_cons_of_ne_nil nonempty
  rw [List.cons_append, replaceFrom, if_pos (by simp [List.isPrefixOf_iff_prefix]),
    replaceFrom_eq_drop]
  simp

theorem replaceFrom_cons {character : Char}
    (unfound : ¬ needle <+: character :: rest) :
    replaceFrom needle replacement 0 (character :: rest) =
      character :: replaceFrom needle replacement 0 rest := by
  rw [replaceFrom, if_neg (mt List.isPrefixOf_iff_prefix.mp unfound)]

/-- What no occurrence begins in stays. -/
theorem replaceFrom_append
    (unfound : ∀ place < start.length, ¬ needle <+: start.drop place ++ rest) :
    replaceFrom needle replacement 0 (start ++ rest) =
      start ++ replaceFrom needle replacement 0 rest := by
  induction start with
  | nil => rfl
  | cons character start inductionHypothesis =>
      have behind := inductionHypothesis fun place below => by
        simpa using unfound (place + 1) (by simpa using below)
      rw [List.cons_append, List.cons_append, ← behind]
      exact replaceFrom_cons (unfound 0 (by simp))

theorem length_replaceFrom_le
    (shorter : replacement.length ≤ needle.length)
    (passed : Nat)
    (text : List Char) :
    (replaceFrom needle replacement passed text).length ≤ (text.drop passed).length := by
  induction text generalizing passed with
  | nil => simp [replaceFrom]
  | cons character text inductionHypothesis =>
      cases passed with
      | succ passed => exact inductionHypothesis passed
      | zero =>
          rw [replaceFrom]
          split
          · next begins =>
              have within := (List.isPrefixOf_iff_prefix.mp begins).length_le
              have behind := inductionHypothesis (needle.length - 1)
              simp only [List.length_append, List.length_drop, List.length_cons] at within behind ⊢
              omega
          · have behind := inductionHypothesis 0
            simp only [List.drop_zero, List.length_cons] at behind ⊢
            omega

/-- A text in which something is replaced by less becomes shorter. -/
theorem length_replaceFrom_lt
    (shorter : replacement.length < needle.length)
    {text : List Char}
    (occurs : needle <:+: text) :
    (replaceFrom needle replacement 0 text).length < text.length := by
  have nonempty : needle ≠ [] := List.ne_nil_of_length_pos (Nat.zero_lt_of_lt shorter)
  induction text with
  | nil => exact absurd (List.eq_nil_of_infix_nil occurs) nonempty
  | cons character text inductionHypothesis =>
      by_cases begins : needle <+: character :: text
      · obtain ⟨rest, equal⟩ := begins
        have behind := length_replaceFrom_le (Nat.le_of_lt shorter) 0 rest
        rw [← equal, replaceFrom_needle_append nonempty]
        simp only [List.length_append, List.drop_zero] at behind ⊢
        omega
      · rw [replaceFrom_cons begins, List.length_cons, List.length_cons]
        exact Nat.succ_lt_succ
          (inductionHypothesis ((List.infix_cons_iff.mp occurs).resolve_left begins))

/-- An occurrence of the needle may begin in the text, or the text may stand in the midst of one,
as a whole or with its beginning: it depends on what is written around the text. -/
def Overlaps (needle text : List Char) : Prop :=
  (∃ place < text.length, needle <+: text.drop place ∨ text.drop place <+: needle) ∨
    ∃ place < needle.length, 0 < place ∧
      (needle.drop place <+: text ∨ text <+: needle.drop place)

instance (needle text : List Char) : Decidable (Overlaps needle text) :=
  inferInstanceAs (Decidable (_ ∨ _))

/-- A text that is overlapped has a character of the needle. -/
theorem Overlaps.exists_mem
    {text : List Char}
    (overlaps : Overlaps needle text)
    (nonempty : needle ≠ [])
    (written : text ≠ []) :
    ∃ character ∈ text, character ∈ needle := by
  rcases overlaps with ⟨place, within, begins | begins⟩ | ⟨place, within, -, begins | begins⟩
  · obtain ⟨character, member⟩ := List.exists_mem_of_ne_nil _ nonempty
    exact ⟨character, List.mem_of_mem_drop (begins.subset member), member⟩
  · obtain ⟨character, member⟩ := List.exists_mem_of_length_pos
      (List.length_drop ▸ Nat.sub_pos_of_lt within : 0 < (text.drop place).length)
    exact ⟨character, List.mem_of_mem_drop member, begins.subset member⟩
  · obtain ⟨character, member⟩ := List.exists_mem_of_length_pos
      (List.length_drop ▸ Nat.sub_pos_of_lt within : 0 < (needle.drop place).length)
    exact ⟨character, begins.subset member, List.mem_of_mem_drop member⟩
  · obtain ⟨character, member⟩ := List.exists_mem_of_ne_nil _ written
    exact ⟨character, member, List.mem_of_mem_drop (begins.subset member)⟩

/-- Between a beginning and an end of the needle, a text that it overlaps shows an occurrence. -/
theorem Overlaps.exists_surroundings
    {text : List Char}
    (overlaps : Overlaps needle text)
    (nonempty : needle ≠ []) :
    ∃ before < needle.length, ∃ behind, 0 < behind ∧
      needle <:+: needle.take before ++ text ++ needle.drop behind := by
  have positive : 0 < needle.length := List.length_pos_of_ne_nil nonempty
  rcases overlaps with ⟨place, within, begins | begins⟩ | ⟨place, within, inside, begins | begins⟩
  · refine ⟨0, positive, needle.length, positive, ?_⟩
    rw [List.take_zero, List.drop_length, List.nil_append, List.append_nil]
    exact begins.isInfix.trans (List.drop_suffix place text).isInfix
  · refine ⟨0, positive, (text.drop place).length, by rw [List.length_drop]; omega, ?_⟩
    refine ⟨text.take place, [], ?_⟩
    rw [List.append_nil, List.take_zero, List.nil_append]
    nth_rewrite 1 [← List.prefix_iff_eq_append.mp begins]
    rw [← List.append_assoc, List.take_append_drop]
  · obtain ⟨rest, rfl⟩ := begins
    refine ⟨place, within, needle.length, positive, [], rest, ?_⟩
    rw [List.drop_length, List.append_nil, List.nil_append, ← List.append_assoc,
      List.take_append_drop]
  · refine ⟨place, within, place + text.length, Nat.lt_add_right _ inside, [], [], ?_⟩
    rw [← List.drop_drop, List.append_assoc (needle.take place),
      List.prefix_iff_eq_append.mp begins, List.take_append_drop, List.nil_append,
      List.append_nil]

end Text
end ObjectQuery
