import ObjectQuery.Proofs.Parts.Basic

/-!
# Clauses are made of parts

The clauses of a statement are the texts of their parts, one after the other: a grouping is
that of its keys and of the condition on its groups, an order that of its keys.
-/

namespace ObjectQuery

open Resolution

variable {settings : Settings} {before after : Context}

namespace OperationPart

variable {item : Type} {step : item → Resolution String} {items : List item}

/-- A list of texts can be seen if its items can. -/
theorem isBlank_listed
    {text : String}
    (visible : ∀ found before, (step found).Ensures settings before fun text _ =>
      Text.isBlank text = false)
    (some : items ≠ [])
    (run : listed step items settings before = (.ok text, after)) :
    Text.isBlank text = false := by
  obtain ⟨texts, between, steps, run⟩ := exists_between run
  obtain ⟨rfl, rfl⟩ := by simpa using run
  cases items with
  | nil => exact absurd rfl some
  | cons first rest =>
      obtain ⟨firstText, atRest, firsts, steps⟩ := exists_between steps
      obtain ⟨others, atEnd, -, steps⟩ := exists_between steps
      obtain ⟨rfl, rfl⟩ := by simpa using steps
      exact Text.isBlank_intercalate_cons (visible first before _ _ firsts) _ _

theorem fragments_eq_each (keys : List Expression) :
    BuiltIn.fragments .standard keys = each Resolvers.standard.fragmentOf keys := by
  induction keys with
  | nil => simp [BuiltIn.fragments, each]
  | cons key rest inductionHypothesis =>
      simp only [BuiltIn.fragments, each, inductionHypothesis, Resolvers.fragmentOf]

theorem sortKeys_eq_each (keys : List SortKey) :
    BuiltIn.sortKeys .standard keys = each (BuiltIn.sortKey .standard) keys := by
  induction keys with
  | nil => simp [BuiltIn.sortKeys, each]
  | cons key rest inductionHypothesis =>
      simp only [BuiltIn.sortKeys, each, inductionHypothesis]

theorem isBlank_sortKey (key : SortKey) :
    (BuiltIn.sortKey .standard key).Ensures settings before fun text _ =>
      Text.isBlank text = false := by
  obtain ⟨key, direction⟩ := key
  intro text after run
  simp only [BuiltIn.sortKey] at run
  obtain ⟨keyText, between, renders, run⟩ := exists_between run
  obtain ⟨rfl, rfl⟩ := by simpa using run
  simp [Text.isBlank_append, (Resolvers.fragment_run renders).1]

/-- The text of clauses is that of their parts, one after the other. -/
def Composes (settings : Settings) (parts : List OperationPart) (before : Context) (text : String)
    (after : Context) : Prop :=
  ∃ written, Written settings written before after ∧ written.map Prod.fst = parts ∧
    text = String.join (textsAt .clause written)

variable {between : Context} {text text' : String} {parts parts' : List OperationPart}

theorem Composes.nothing : Composes settings [] before "" before :=
  ⟨[], .nothing, rfl, rfl⟩

theorem Composes.append
    (first : Composes settings parts before text between)
    (second : Composes settings parts' between text' after) :
    Composes settings (parts ++ parts') before (text ++ text') after := by
  obtain ⟨written, all, rfl, rfl⟩ := first
  obtain ⟨others, rest, rfl, rfl⟩ := second
  exact ⟨written ++ others, all.append rest, List.map_append, by
    rw [textsAt_append, String.join_append]⟩

/-- A clause is the text of its part behind the words for it. -/
theorem composes_one
    {part : OperationPart}
    (placed : part.place = .clause)
    (renders : part.render settings before = (.ok text, after))
    (visible : Text.isBlank text = false) :
    Composes settings [part] before (part.words ++ text) after :=
  ⟨[(part, text)], .one renders visible, rfl, by simp [textsAt, placed]⟩

theorem filter_composes
    {condition : Filter}
    (run : Resolvers.standard.conditionOf (.filter condition) settings before =
      (.ok text, after)) :
    Composes settings [.filter condition] before (" WHERE " ++ text) after :=
  composes_one rfl run (Resolvers.predicate_run run).1

/-- A clause that is a list is the texts of its items, with commas between them. -/
theorem listed_composes
    {part : OperationPart}
    {texts : List String}
    (placed : part.place = .clause)
    (isList : part.render = listed step items)
    (visible : ∀ found before, (step found).Ensures settings before fun text _ =>
      Text.isBlank text = false)
    (some : items ≠ [])
    (steps : each step items settings before = (.ok texts, after)) :
    Composes settings [part] before (part.words ++ ", ".intercalate texts) after := by
  have run : listed step items settings before = (.ok (", ".intercalate texts), after) := by
    rw [listed, bind_run steps, pure_apply]
  exact composes_one placed (isList ▸ run) (isBlank_listed visible some run)

theorem sort_composes
    {keys : List SortKey}
    (run : Resolvers.standard.fragmentOf (.sort keys) settings before = (.ok text, after)) :
    Composes settings [.sort keys] before (" " ++ text) after := by
  obtain ⟨-, valid, answers⟩ := Resolvers.fragment_run run
  -- the check refuses a sort without keys
  have some : keys ≠ [] := by
    rintro rfl
    simp [Expression.validate, Validation.expression] at valid
  simp only [BuiltIn.answer, sortKeys_eq_each] at answers
  obtain ⟨texts, between, steps, answers⟩ := exists_between answers
  obtain ⟨rfl, rfl⟩ := by simpa using answers
  rw [← String.append_assoc]
  exact listed_composes rfl rfl (fun key _ => isBlank_sortKey key) some steps

theorem aggregation_composes
    {grouping : Aggregation}
    (run : Resolvers.standard.fragmentOf (.aggregation grouping) settings before =
      (.ok text, after)) :
    Composes settings grouping.parts before (" " ++ text) after := by
  obtain ⟨keys, having⟩ := grouping
  obtain ⟨-, valid, answers⟩ := Resolvers.fragment_run run
  -- the check refuses a grouping without keys
  have some : keys ≠ [] := by
    rintro rfl
    simp [Expression.validate, Validation.expression, Validation.aggregation] at valid
  rw [BuiltIn.answer] at answers
  obtain ⟨text, between, groups, answers⟩ := exists_between answers
  obtain ⟨rfl, rfl⟩ := by simpa using answers
  rw [BuiltIn.aggregation, fragments_eq_each] at groups
  obtain ⟨texts, atKeys, steps, groups⟩ := exists_between groups
  have grouped : Composes settings [.grouping keys] before
      (" " ++ ("GROUP BY " ++ ", ".intercalate texts)) atKeys := by
    rw [← String.append_assoc]
    exact listed_composes rfl rfl (fun _ _ _ _ run => (Resolvers.fragment_run run).1) some steps
  cases having with
  | none =>
      obtain ⟨rfl, rfl⟩ := by simpa using groups
      exact grouped
  | some condition =>
      obtain ⟨conditionText, atCondition, restricts, groups⟩ := exists_between groups
      obtain ⟨rfl, rfl⟩ := by simpa using groups
      have restricted : Composes settings [.having condition] atKeys (" HAVING " ++ conditionText)
          atCondition := by
        refine composes_one rfl ?_ (Resolvers.predicate_run restricts).1
        rwa [render, Resolvers.conditionOf, BuiltIn.answer]
      have both := grouped.append restricted
      simp only [String.append_assoc] at both ⊢
      exact both

/-- A clause that an operation may leave out is a stage of the draft. -/
theorem stage_composes
    {draft clause : Type}
    {add : draft → clause → Resolution draft}
    {current : draft}
    (found : Option clause)
    (sets : Option String → draft → Prop)
    (parts : clause → List OperationPart)
    (words : String)
    (unset : sets none current)
    (adds : ∀ clause, (add current clause).Ensures settings before fun draft' after =>
      ∃ text, sets (some text) draft' ∧
        Composes settings (parts clause) before (" " ++ words ++ text) after) :
    (Operation.stage add current found).Ensures settings before fun draft' after =>
      ∃ text, sets text draft' ∧ Composes settings (found.toList.flatMap parts) before
        (SelectDraft.clause words text) after := by
  cases found with
  | none => exact .pure ⟨none, unset, .nothing⟩
  | some clause =>
      refine (adds clause).weaken ?_
      rintro draft' after ⟨text, set, composes⟩
      exact ⟨some text, set, by simpa [SelectDraft.clause] using composes⟩

end OperationPart
end ObjectQuery
