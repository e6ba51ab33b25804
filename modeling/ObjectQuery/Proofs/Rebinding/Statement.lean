import ObjectQuery.Expression.Build
import ObjectQuery.Proofs.Rebinding.Steps
import ObjectQuery.Proofs.Sketch.BuiltIn

/-!
# Bound values put back

The values that are bound while a filter is written fit its constants, one for one and in
order: put back, they give the filter again, except that strings which are matched without
regard to case are in small letters. The writing and the putting back are two traversals of
the filter, which the sketch of the filter lies between.
-/

namespace ObjectQuery

/-! ## Filters that are written -/

namespace BuiltIn

open Resolution

variable {settings : Settings}

/-- A condition that is not vacuous is answered with a text. -/
theorem filter_ensures_fragment
    {condition : Filter}
    (substantial : condition.isVacuous = false)
    (before : Context) :
    (filter .standard condition).Ensures settings before fun resolved _ =>
      resolved ≠ .emptyPredicate := by
  have always {first : Type} (step : Resolution first) (before : Context) :
      step.Ensures settings before fun _ _ => True := fun _ _ _ => trivial
  cases condition with
  | isNull | isNotNull | not | hasRows | hasNoRows =>
      simp only [filter]
      exact (always _ _).bind fun _ _ _ => .pure nofun
  | compare | isIn | isNotIn =>
      simp only [filter]
      exact (always _ _).bind fun _ _ _ => (always _ _).bind fun _ _ _ => .pure nofun
  | between | stringMatch =>
      simp only [filter]
      exact (always _ _).bind fun _ _ _ => (always _ _).bind fun _ _ _ =>
        (always _ _).bind fun _ _ _ => .pure nofun
  | and conditions | or conditions =>
      cases conditions with
      | nil => simp [Filter.isVacuous] at substantial
      | cons first rest =>
          simp only [filter]
          exact (always _ _).bind fun _ _ _ => (always _ _).bind fun _ _ _ => .pure nofun

/-- A filter binds the parameters of its sketch, also if it is vacuous. -/
theorem filter_allocates (condition : Filter) (before : Context) :
    (filter .standard condition).Ensures settings before fun _ after =>
      after.parameters = before.parameters.extend settings.dialect
        (condition.sketch.parameters settings.dialect before.hint) := by
  cases vacuous : condition.isVacuous with
  | true =>
      obtain rfl | rfl : condition = .and [] ∨ condition = .or [] := by
        unfold Filter.isVacuous at vacuous
        split at vacuous <;> simp_all
      all_goals
        simp only [filter]
        exact .pure rfl
  | false =>
      refine ((filter_guided condition before).and
        (filter_ensures_fragment vacuous before)).weaken ?_
      rintro resolved after ⟨written, answered⟩
      cases resolved with
      | fragment text =>
          obtain ⟨rendering, -⟩ := written.renders
          exact rendering.parameters_eq
      | emptyPredicate => exact absurd rfl answered
      | projection plan =>
          obtain ⟨rendering, -⟩ := written.renders
          exact rendering.parameters_eq

end BuiltIn

/-- A condition that is resolved is valid, and binds the parameters of its sketch. -/
theorem Resolvers.conditionOf?_allocates
    {settings : Settings}
    {before : Context}
    (condition : Filter) :
    (Resolvers.standard.conditionOf? (.filter condition)).Ensures settings before fun _ after =>
      Validation.filter condition = .ok () ∧
        after.parameters = before.parameters.extend settings.dialect
          (condition.sketch.parameters settings.dialect before.hint) := by
  have owns : (Expression.filter condition).validate = .ok () →
      (BuiltIn.answer .standard (.filter condition)).Ensures settings before fun _ after =>
        Validation.filter condition = .ok () ∧
          after.parameters = before.parameters.extend settings.dialect
            (condition.sketch.parameters settings.dialect before.hint) := by
    intro valid
    have validFilter : Validation.filter condition = .ok () := by
      simpa [Expression.validate, Validation.expression] using valid
    rw [BuiltIn.answer]
    exact (BuiltIn.filter_allocates condition before).weaken fun _ _ bound => ⟨validFilter, bound⟩
  refine (Resolvers.dispatch_ensures owns).bind fun resolved after taken => ?_
  cases resolved with
  | fragment text => exact .pure taken.2
  | emptyPredicate => exact .pure taken.2
  | projection plan => exact .fail _

theorem ParameterTable.values_extend
    (dialect : Dialect)
    (table : ParameterTable)
    (parameters : List Parameter) :
    (table.extend dialect parameters).values = table.values ++ parameters.map Parameter.value := by
  have zipped : ((dialect.numberedNames table.size parameters.length).zip parameters).map
      Prod.snd = parameters := List.map_snd_zip (by simp [Dialect.numberedNames])
  calc (table.extend dialect parameters).values
    _ = table.values ++ (((dialect.numberedNames table.size parameters.length).zip
          parameters).map Prod.snd).map Parameter.value := by
        simp [values, ParameterTable.entries_extend]
    _ = table.values ++ parameters.map Parameter.value := by rw [zipped]

/--
The values that a simple filter binds in a fresh context are put back one for one: none is
left, the filter comes out again but for small letters, and it decides every row as before.
-/
theorem Filter.withBoundValues_of_resolved
    {settings : Settings}
    (mark : Text.isPunctuation settings.dialect.escapeCharacter = true)
    {condition : Filter}
    (simple : condition.IsSimple)
    {aliasMode : AliasPolicy}
    {catalog : Option Catalog}
    {found : Option String}
    {after : Context}
    (run : Resolvers.standard.conditionOf? (.filter condition) settings
      (.root aliasMode catalog) = (.ok found, after)) :
    Rebinding.filter after.parameters.values.length settings.dialect.escapeCharacter condition
        after.parameters.values = .ok (condition.lowered, []) ∧
      condition.withBoundValues after.parameters.values settings.dialect.escapeCharacter =
        .ok condition.lowered ∧
      ∀ row, condition.lowered.evaluate row = condition.evaluate row := by
  obtain ⟨valid, bound⟩ := Resolvers.conditionOf?_allocates condition found after run
  have values : after.parameters.values = condition.sketch.values settings.dialect none := by
    rw [bound, ParameterTable.values_extend]
    rfl
  have taken : Rebinding.filter after.parameters.values.length settings.dialect.escapeCharacter
      condition after.parameters.values = .ok (condition.lowered, []) := by
    have consumed := Rebinding.filter_consumes mark after.parameters.values.length none condition
      valid simple []
    rwa [List.append_nil, ← values] at consumed
  refine ⟨taken, ?_, fun row => Evaluation.filter_lowered row condition⟩
  rw [Filter.withBoundValues, taken]
  rfl

/-- Open or held orders with a number in their label, and those without a total. -/
def Sample.discounted : Filter :=
  .and
    [Filter.inValues (.path (Path.of "status" .string)) (.list [.string "open", .string "Held"]),
      (Filter.matching .contains (.path (Path.of "label" .string)) "50% Off").ignoringCase,
      .or
        [.isNull (.path (Path.of "total" .integer)),
          .compare (.path (Path.of "total" .integer)) (.less true) (.constant (.integer 10))]]

open Sample in
theorem Filter.withBoundValues_discounted :
    let settings : Settings := ⟨Dialect.standard .hibernate, "", standardDepthLimit⟩
    ∃ after,
      Resolvers.standard.conditionOf? (.filter discounted) settings (.root .default none) =
          (.ok (some ("(status IN (:p0001,:p0002)) AND (lower(label) LIKE :p0003 ESCAPE '!') " ++
            "AND ((total IS NULL) OR (total<=:p0004))")), after) ∧
        after.parameters.values.map Value.toText = ["open", "Held", "%50!% off%", "10"] ∧
        discounted.withBoundValues after.parameters.values '!' = .ok discounted.lowered ∧
        ∀ row, discounted.lowered.evaluate row = discounted.evaluate row := by
  intro settings
  have written : (Resolvers.standard.conditionOf? (.filter discounted) settings
      (.root .default none)).1.toOption =
        some (some ("(status IN (:p0001,:p0002)) AND (lower(label) LIKE :p0003 ESCAPE '!') " ++
          "AND ((total IS NULL) OR (total<=:p0004))")) := by
    decide +kernel
  have values : (Resolvers.standard.conditionOf? (.filter discounted) settings
      (.root .default none)).2.parameters.values.map Value.toText =
        ["open", "Held", "%50!% off%", "10"] := by
    decide +kernel
  have simple : discounted.IsSimple :=
    ⟨⟨trivial, trivial⟩, trivial, ⟨trivial, ⟨trivial, rfl⟩, trivial⟩, trivial⟩
  cases run : Resolvers.standard.conditionOf? (.filter discounted) settings
      (.root .default none) with
  | mk outcome after =>
      rw [run] at written values
      obtain rfl := Except.eq_ok_of_toOption written
      obtain ⟨-, putBack, alike⟩ := @Filter.withBoundValues_of_resolved settings (by decide)
        _ simple _ _ _ _ run
      exact ⟨after, rfl, values, putBack, alike⟩

end ObjectQuery
