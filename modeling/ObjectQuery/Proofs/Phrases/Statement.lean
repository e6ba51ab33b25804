import Mathlib
import ObjectQuery.Expression.Build
import ObjectQuery.Proofs.Phrases.Meaning
import ObjectQuery.Proofs.Phrases.Reading
import ObjectQuery.Proofs.Phrases.Writing

/-!
# Text and bound values decide what a filter means

Plain filters that are written with one text and bind the same values decide every row alike,
as long as the marker of references begins no name and no group and ends no operator. With
any other marker a reference may pass for something else, and the theorem fails.
-/

namespace ObjectQuery

open Phrase

/-- What is written of a plain filter is its phrase, which holds where the filter does. -/
theorem Resolvers.conditionOf?_ensures
    {settings : Settings}
    (standard : settings.dialect.functions = .standard)
    {condition : Filter}
    (plain : condition.IsPlain)
    {before : Context}
    (untargeted : before.rootTarget? = none) :
    (Resolvers.standard.conditionOf? (.filter condition)).Ensures settings before
      fun found after => ∀ text, found = some text →
        Validation.filter condition = .ok () ∧
          Written
            (fun bound => (condition.phrase settings.dialect).characters settings.dialect bound)
            (condition.phrase settings.dialect).values before text.toList after := by
  have answers : Expression.validate (.filter condition) = .ok () →
      (BuiltIn.answer .standard (.filter condition)).Ensures settings before
        (Resolved.Ensures
          (fun text after => Validation.filter condition = .ok () ∧
            Written (fun bound =>
                (condition.phrase settings.dialect).characters settings.dialect bound)
              (condition.phrase settings.dialect).values before text.toList after)
          fun _ _ => True) := by
    intro valid
    have validFilter : Validation.filter condition = .ok () := by
      simpa [Expression.validate, Validation.expression] using valid
    rw [BuiltIn.answer]
    refine (filter_answers standard plain validFilter before untargeted).weaken
      fun resolved after ends => ?_
    cases resolved with
    | fragment text => exact ⟨validFilter, ends⟩
    | emptyPredicate | projection => trivial
  exact (Resolvers.predicate?_ensures answers).weaken
    fun found after holds text equal => (holds text equal).2

/--
Two plain filters that are written with one text, and bind the same values, by one dialect
decide alike every row that both of them decide.
-/
theorem Filter.evaluate_eq_of_text_eq
    {settings settings' : Settings}
    (sameDialect : settings.dialect = settings'.dialect)
    (standard : settings.dialect.functions = .standard)
    (mark : Text.isPunctuation settings.dialect.escapeCharacter = true)
    (noWildcard : settings.dialect.escapeCharacter ≠ '%')
    (legible : settings.dialect.IsLegible)
    {first second : Filter}
    (plain : first.IsPlain)
    (plain' : second.IsPlain)
    {aliasMode aliasMode' : AliasPolicy}
    {catalog catalog' : Option Catalog}
    {text : String}
    {after after' : Context}
    (run : Resolvers.standard.conditionOf? (.filter first) settings (.root aliasMode catalog) =
      (.ok (some text), after))
    (run' : Resolvers.standard.conditionOf? (.filter second) settings' (.root aliasMode' catalog') =
      (.ok (some text), after'))
    (sameValues : after.parameters.values = after'.parameters.values)
    {row : PropertyRow}
    {met met' : Bool}
    (evaluated : first.evaluate row = .ok met)
    (evaluated' : second.evaluate row = .ok met') :
    met = met' := by
  obtain ⟨valid, written⟩ :=
    Resolvers.conditionOf?_ensures standard plain rfl _ _ run text rfl
  obtain ⟨valid', written'⟩ :=
    Resolvers.conditionOf?_ensures (sameDialect ▸ standard) plain' rfl _ _ run' text rfl
  rw [← sameDialect] at written'
  have same : (first.phrase settings.dialect).characters settings.dialect 0 =
      (second.phrase settings.dialect).characters settings.dialect 0 :=
    written.spelled.symm.trans written'.spelled
  have bindSame : (first.phrase settings.dialect).values =
      (second.phrase settings.dialect).values :=
    written.bound.symm.trans (sameValues.trans written'.bound)
  have samePhrase := Condition.eq_of_characters_eq legible (isWritten_phrase plain valid)
    (isWritten_phrase plain' valid') same bindSame
  have holds := Filter.holds_phrase mark noWildcard valid evaluated
  have holds' := Filter.holds_phrase mark noWildcard valid' evaluated'
  rw [← samePhrase] at holds'
  exact Bool.eq_iff_iff.mpr (holds.symm.trans holds')

/-! ## Two ways to leave case aside -/

namespace Sample

/-- The usual settings. -/
def usual : Settings :=
  ⟨Dialect.standard .hibernate, "", standardDepthLimit⟩

/-- Names with two letters in them, whatever their case. -/
def nameMatches : Filter :=
  .or [.stringMatch (.path (Path.of "name" .string)) (.constant (.string "Ab")) .contains true]

/-- Names in small letters with two letters in them. -/
def smallNameMatches : Filter :=
  .and [.stringMatch (.function (.unary .lower (.path (Path.of "name" .string))))
    (.constant (.string "ab")) .contains false]

end Sample

open Sample in
theorem Filter.evaluate_small_letters :
    ∃ text after after',
      Resolvers.standard.conditionOf? (.filter nameMatches) usual (.root .default none) =
          (.ok (some text), after) ∧
        Resolvers.standard.conditionOf? (.filter smallNameMatches) usual
            (.root .default none) = (.ok (some text), after') ∧
          after.parameters.values = after'.parameters.values ∧
            nameMatches.evaluate ⟨[("name", .string "xABy")]⟩ = .ok true ∧
              smallNameMatches.evaluate ⟨[("name", .string "xABy")]⟩ = .ok true := by
  have plain : nameMatches.IsPlain :=
    ⟨⟨rfl, by decide, by decide⟩, trivial⟩
  have plain' : smallNameMatches.IsPlain :=
    ⟨⟨⟨rfl, by decide, by decide⟩, trivial⟩, trivial⟩
  obtain ⟨after, run, values⟩ : ∃ after,
      Resolvers.standard.conditionOf? (.filter nameMatches) usual (.root .default none) =
          (.ok (some "(lower(name) LIKE :p0001 ESCAPE '!')"), after) ∧
        after.parameters.values = [.string "%ab%"] := ⟨_, rfl, by cbv⟩
  obtain ⟨after', run', values'⟩ : ∃ after',
      Resolvers.standard.conditionOf? (.filter smallNameMatches) usual
            (.root .default none) =
          (.ok (some "(lower(name) LIKE :p0001 ESCAPE '!')"), after') ∧
        after'.parameters.values = [.string "%ab%"] := ⟨_, rfl, by cbv⟩
  have evaluated : nameMatches.evaluate ⟨[("name", .string "xABy")]⟩ = .ok true := by cbv
  obtain ⟨met, evaluated'⟩ : ∃ met,
      smallNameMatches.evaluate ⟨[("name", .string "xABy")]⟩ = .ok met := ⟨true, by cbv⟩
  have sameValues := values.trans values'.symm
  obtain rfl : true = met := Filter.evaluate_eq_of_text_eq rfl rfl (by decide) (by decide)
    ⟨by decide, by decide, by decide⟩ plain plain' run run' sameValues evaluated evaluated'
  exact ⟨_, after, after', run, run', sameValues, evaluated, evaluated'⟩

/-! ## Markers that hide references -/

/-- Both filters are written with one text and bind the same values, and decide a row apart. -/
def Filter.Collide (dialect : Dialect) (first second : Filter) (row : PropertyRow) : Prop :=
  first.IsPlain ∧ second.IsPlain ∧ ∃ text after after' met,
    Resolvers.standard.conditionOf? (.filter first) ⟨dialect, "", standardDepthLimit⟩
        (.root .default none) = (.ok (some text), after) ∧
      Resolvers.standard.conditionOf? (.filter second) ⟨dialect, "", standardDepthLimit⟩
          (.root .default none) = (.ok (some text), after') ∧
        after.parameters.values = after'.parameters.values ∧
          first.evaluate row = .ok met ∧ second.evaluate row = .ok !met

namespace Sample

/-- The usual conventions with references of another form. -/
def referring (marker : Char) (start : String) : Dialect :=
  { Dialect.standard .hibernate with parameterMarker := marker, parameterPrefix := start }

/-- A property of a row. -/
def property (name : String) : Expression :=
  .path (Path.of name .integer)

/-- A property compared with five, and not so compared with another property. -/
def boundFirst (operator operator' : CompareOperator) (name : String) : Filter :=
  .and [.compare (property "a") operator (.constant (.integer 5)),
    .not (.compare (property "a") operator' (property name))]

/-- A property compared with another one, and not so compared with five. -/
def boundLast (operator operator' : CompareOperator) (name : String) : Filter :=
  .and [.compare (property "a") operator' (property name),
    .not (.compare (property "a") operator (.constant (.integer 5)))]

/-- A row in which both properties are three. -/
def bothThree (name : String) : PropertyRow :=
  ⟨[("a", .integer 3), (name, .integer 3)]⟩

theorem property_isPlain
    {name : String}
    (dotted : Text.isDottedIdentifier name = true)
    (unreserved : name ∉ reserved) :
    (property name).IsPlain :=
  ⟨rfl, dotted, unreserved⟩

theorem bound_isPlain
    (operator operator' : CompareOperator)
    {name : String}
    (isPlain : (property name).IsPlain) :
    (boundFirst operator operator' name).IsPlain ∧ (boundLast operator operator' name).IsPlain := by
  have first : (property "a").IsPlain := property_isPlain (by decide) (by decide)
  exact ⟨⟨⟨first, rfl⟩, ⟨first, isPlain⟩, trivial⟩, ⟨⟨first, isPlain⟩, ⟨first, rfl⟩, trivial⟩⟩

end Sample

namespace Filter

open Sample

/-- The equals sign lets a bound comparison pass for one with a property, and the reverse. -/
theorem collide_of_equals_marker :
    Collide (referring '=' "p") (boundFirst (.greater false) (.greater true) "p0001")
      (boundLast (.greater false) (.greater true) "p0001") (bothThree "p0001") := by
  obtain ⟨first, last⟩ := bound_isPlain (.greater false) (.greater true)
    (property_isPlain (by decide) (by decide) : (property "p0001").IsPlain)
  exact ⟨first, last, _, _, _, false, rfl, rfl, rfl, rfl, rfl⟩

/-- So does the other sign that ends an operator. -/
theorem collide_of_greater_marker :
    Collide (referring '>' "p") (boundFirst (.less false) .notEqual "p0001")
      (boundLast (.less false) .notEqual "p0001") (bothThree "p0001") := by
  obtain ⟨first, last⟩ := bound_isPlain (.less false) .notEqual
    (property_isPlain (by decide) (by decide) : (property "p0001").IsPlain)
  exact ⟨first, last, _, _, _, true, rfl, rfl, rfl, rfl, rfl⟩

/-- A reference that begins as a name does passes for a property. -/
theorem collide_of_name_marker :
    Collide (referring '_' "p") (boundFirst .equal .equal "_p0001")
      (boundLast .equal .equal "_p0001") (bothThree "_p0001") := by
  obtain ⟨first, last⟩ := bound_isPlain .equal .equal
    (property_isPlain (by decide) (by decide) : (property "_p0001").IsPlain)
  exact ⟨first, last, _, _, _, false, rfl, rfl, rfl, rfl, rfl⟩

/-- A reference that opens a group passes for the beginning of a conjunction. -/
theorem collide_of_group_marker :
    Collide (referring '(' "a=a) AND (b")
      (.and [.compare (.constant (.integer 5)) (.greater false) (property "c"),
        .and [.compare (property "a") .equal (property "a"),
          .compare (property "b0001") .equal (property "c")]])
      (.and [.and [.compare (property "a") .equal (property "a"),
        .compare (property "b0001") (.greater false) (property "c"),
        .compare (.constant (.integer 5)) .equal (property "c")]])
      ⟨[("a", .integer 1), ("b0001", .integer 1), ("c", .integer 1)]⟩ := by
  have first : (property "a").IsPlain := property_isPlain (by decide) (by decide)
  have second : (property "b0001").IsPlain := property_isPlain (by decide) (by decide)
  have third : (property "c").IsPlain := property_isPlain (by decide) (by decide)
  exact ⟨⟨⟨rfl, third⟩, ⟨⟨first, first⟩, ⟨second, third⟩, trivial⟩, trivial⟩,
    ⟨⟨⟨first, first⟩, ⟨second, third⟩, ⟨rfl, third⟩, trivial⟩, trivial⟩,
    _, _, _, true, rfl, rfl, rfl, rfl, rfl⟩

end Filter

end ObjectQuery
