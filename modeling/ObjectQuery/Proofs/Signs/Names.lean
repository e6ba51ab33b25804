import ObjectQuery.Proofs.Aliases.Visible
import ObjectQuery.Proofs.Phrases.Reading
import ObjectQuery.Proofs.Signs.Literals

/-!
# Named targets

In a named context every target that can be spoken of has dotted names for its entity and its
attributes and an identifier for its alias, and so has every target that is bound in it. What is
written of such a target is passed over by the scan, and a property begins with a name.
-/

namespace ObjectQuery

open Text Resolution

/-! ## Dotted names -/

namespace Text

theorem isDottedIdentifier_of_isIdentifier {name : String} (identifier : isIdentifier name = true) :
    isDottedIdentifier name = true := by
  have noPoint : '.' ∉ name.toList := by
    intro point
    rw [← String.ofList_toList (s := name)] at identifier
    have isName := nameCharacters_of_isIdentifier identifier '.' point
    revert isName
    decide
  have single : ∀ characters : List Char, '.' ∉ characters →
      segmentsOf characters = [characters] := by
    intro characters noPoint
    induction characters with
    | nil => rfl
    | cons first rest inductionHypothesis =>
        simp only [List.mem_cons, not_or] at noPoint
        simp [segmentsOf, Ne.symm noPoint.1, inductionHypothesis noPoint.2]
  simp [isDottedIdentifier, segments, single _ noPoint, identifier]

theorem passes_of_isDottedIdentifier
    {marker : Char}
    (accepted : Accepted marker)
    {name : String}
    (dotted : isDottedIdentifier name = true) :
    Passes marker name :=
  passes_of_neutral accepted (isNeutral_of_isDottedIdentifier dotted)

theorem dotted_begins {name : String} (dotted : isDottedIdentifier name = true) : ¬ Apart name := by
  obtain ⟨first, run, characters, starts⟩ := Phrase.isNameStart_of_isDottedIdentifier dotted
  exact not_apart_of_cons characters (isNameCharacter_of_isNameStart starts)

end Text

namespace Path

theorem passes_fullName {marker : Char} (accepted : Accepted marker) :
    {path : Path} → path.IsDotted → Passes marker path.fullName
  | .mk _ _ none _ _, dotted => passes_of_isDottedIdentifier accepted dotted
  | .mk _ _ (some _) _ _, dotted =>
      ((passes_fullName accepted dotted.2).append (passes_of_neutral accepted (by decide))).append
        (passes_of_isDottedIdentifier accepted dotted.1)

theorem fullName_begins : {path : Path} → path.IsDotted → ¬ Apart path.fullName
  | .mk _ _ none _ _, dotted => dotted_begins dotted
  | .mk _ _ (some _) _ _, dotted => not_apart_append (not_apart_append (fullName_begins dotted.2))

end Path

/-! ## Targets -/

/-- A bound target with dotted names for its entity and its attributes. -/
structure BoundTarget.IsNamed (binding : BoundTarget) : Prop where
  entity : isDottedIdentifier binding.entity = true
  aliasName : ∀ aliasName ∈ binding.aliasName, isDottedIdentifier aliasName = true
  attributes : ∀ found ∈ binding.attributes, isDottedIdentifier found.name = true

namespace BoundTarget.IsNamed

variable {binding : BoundTarget} {marker : Char}

theorem passes_reference (named : binding.IsNamed) (accepted : Accepted marker) :
    Passes marker binding.reference := by
  unfold BoundTarget.reference
  cases given : binding.aliasName with
  | none => exact passes_of_isDottedIdentifier accepted named.entity
  | some aliasName =>
      exact passes_of_isDottedIdentifier accepted (named.aliasName aliasName given)

theorem passes_qualify
    (named : binding.IsNamed)
    (accepted : Accepted marker)
    {property : String}
    (passes : Passes marker property) :
    Passes marker (binding.qualify property) := by
  unfold BoundTarget.qualify
  split
  · next aliasName given =>
      exact ((passes_of_isDottedIdentifier accepted (named.aliasName aliasName given)).append
        (passes_of_neutral accepted (by decide))).append passes
  · exact passes

theorem qualify_begins
    (named : binding.IsNamed)
    {property : String}
    (begins : ¬ Apart property) :
    ¬ Apart (binding.qualify property) := by
  unfold BoundTarget.qualify
  split
  · next aliasName given =>
      exact not_apart_append (not_apart_append (dotted_begins (named.aliasName aliasName given)))
  · exact begins

theorem passes_declaration (named : binding.IsNamed) (accepted : Accepted marker) :
    Passes marker binding.declaration := by
  unfold BoundTarget.declaration
  split
  · next aliasName given =>
      exact ((passes_of_isDottedIdentifier accepted named.entity).append
        (passes_of_neutral accepted (by decide))).append
          (passes_of_isDottedIdentifier accepted (named.aliasName aliasName given))
  · exact passes_of_isDottedIdentifier accepted named.entity

theorem passes_attributes (named : binding.IsNamed) (accepted : Accepted marker) :
    ∀ text ∈ binding.attributes.map fun found => binding.qualify found.name ++ " AS " ++ found.name,
      Passes marker text := by
  intro text member
  obtain ⟨found, among, rfl⟩ := List.mem_map.mp member
  have passes := passes_of_isDottedIdentifier accepted (named.attributes found among)
  exact ((named.passes_qualify accepted passes).append
    (passes_of_neutral accepted (by decide))).append passes

end BoundTarget.IsNamed

/-! ## Mentions -/

/-- What is written of a target shows nothing; only the sign that counts rows is no word. -/
theorem Mention.shows_text
    {marker : Char}
    (accepted : Accepted marker)
    (found : Mention)
    {owner : Option BoundTarget}
    (dotted : ∀ path, found = .property path → path.IsDotted)
    (named : ∀ target ∈ owner, target.IsNamed) :
    Shows marker (found.text owner) [] := by
  have star : Shows marker "*" [] := @shows_closing _ '*' (by decide)
  have empty : Shows marker "" [] := (passes_of_neutral accepted (by decide)).shows
  cases owner with
  | none =>
      cases found with
      | property path => exact (Path.passes_fullName accepted (dotted path rfl)).shows
      | rows => exact star
      | entity | attributes => exact empty
  | some owner =>
      have isNamed := named owner rfl
      cases found with
      | property path =>
          exact (isNamed.passes_qualify accepted
            (Path.passes_fullName accepted (dotted path rfl))).shows
      | entity => exact (isNamed.passes_reference accepted).shows
      | rows =>
          simp only [Mention.text, Option.bind_some]
          cases given : owner.aliasName with
          | none => exact star
          | some aliasName =>
              exact (passes_of_isDottedIdentifier accepted
                (isNamed.aliasName aliasName given)).shows
      | attributes =>
          simp only [Mention.text, Option.elim_some, Option.map_some, Option.getD_some]
          exact (passes_intercalate (passes_of_neutral accepted (by decide))
            (isNamed.passes_attributes accepted)).shows

/-- A property begins with a name, whether its target is found or not. -/
theorem Mention.property_begins
    {path : Path}
    {owner : Option BoundTarget}
    (dotted : path.IsDotted)
    (named : ∀ target ∈ owner, target.IsNamed) :
    ¬ Apart ((Mention.property path).text owner) := by
  cases owner with
  | none => exact Path.fullName_begins dotted
  | some owner => exact (named owner rfl).qualify_begins (Path.fullName_begins dotted)

/-! ## Contexts -/

/-- The targets that can be spoken of are named, and the catalog answers with dotted names. -/
structure Context.IsNamed (context : Context) : Prop where
  residents : ∀ resident ∈ context.residents, resident.target.IsNamed
  catalog : ∀ catalog ∈ context.catalog, catalog.IsDotted

namespace Context.IsNamed

variable {context before : Context}

theorem root
    (aliasMode : AliasPolicy)
    {catalog : Option Catalog}
    (dotted : ∀ found, catalog = some found → found.IsDotted) :
    (Context.root aliasMode catalog).IsNamed where
  residents := by simp [Context.root, Context.residents, Scope.residents, Scope.empty]
  catalog := dotted

theorem withHint (named : context.IsNamed) (hint : Option ValueType) :
    Context.IsNamed { context with hint } :=
  ⟨named.residents, named.catalog⟩

theorem enter (named : context.IsNamed) (aliasMode : AliasPolicy) :
    (context.enter aliasMode).IsNamed where
  residents := by
    simpa [Context.enter, Context.residents, Scope.residents, Scope.empty] using named.residents
  catalog := named.catalog

theorem leave (named : context.IsNamed) (namedBefore : before.IsNamed) :
    (context.leave before).IsNamed :=
  ⟨namedBefore.residents, named.catalog⟩

/-- A target that is found is named. -/
theorem owner (named : context.IsNamed) (found : Mention) :
    ∀ owner ∈ (Rendering.owner found context).map Resident.target, owner.IsNamed := by
  intro owner among
  obtain ⟨resident, spoken, rfl⟩ := Option.map_eq_some_iff.mp among
  exact named.residents resident (Context.mem_residents_of_resident? spoken)

end Context.IsNamed

/-! ## Binding a target -/

theorem AliasChoice.catalog
    {context chosen : Context}
    {name : String}
    {given aliasName : Option String}
    (choice : AliasChoice context name given aliasName chosen) :
    chosen.catalog = context.catalog := by
  cases choice <;> rfl

namespace Resolution

variable {settings : Settings} {before : Context}

theorem askCatalog_dotted (dotted : ∀ catalog ∈ before.catalog, catalog.IsDotted) (name : String) :
    (askCatalog name).Ensures settings before fun answer after =>
      (∀ catalog ∈ after.catalog, catalog.IsDotted) ∧
        ∀ entity, answer = some (.ok entity) → entity.IsDotted := by
  intro answer after run
  simp only [askCatalog] at run
  split at run
  · obtain ⟨rfl, rfl⟩ := by simpa using run
    exact ⟨dotted, by simp⟩
  · next catalog known =>
      obtain ⟨answers, stays⟩ :=
        Catalog.resolve_isDotted (dotted catalog known) settings.catalogScope name
      obtain ⟨rfl, rfl⟩ := by simpa using run
      refine ⟨?_, fun entity answered => answers entity (by simpa using answered)⟩
      rintro _ ⟨rfl⟩
      exact stays

theorem targetEntity_named
    (dotted : ∀ catalog ∈ before.catalog, catalog.IsDotted)
    {target : Target}
    (names : Target.HasDottedNames target.name target.entity) :
    (targetEntity target).Ensures settings before fun known after =>
      (∀ catalog ∈ after.catalog, catalog.IsDotted) ∧ isDottedIdentifier known.1 = true ∧
        ∀ found ∈ known.2, isDottedIdentifier found.name = true := by
  refine (askCatalog_dotted dotted target.name).bind fun answer after answered => ?_
  obtain ⟨stays, answers⟩ := answered
  split
  · next entity found given =>
      exact .pure ⟨stays, names.2 entity given, (answers found rfl).attributes⟩
  · next entity given _ => exact .pure ⟨stays, names.2 entity given, by simp⟩
  · next found _ =>
      exact .pure ⟨stays, (answers found rfl).entityName, (answers found rfl).attributes⟩
  · exact .fail _
  · exact .pure ⟨stays, names.1, by simp⟩

/-- A target with dotted names is bound as one. -/
theorem introduce_named
    (named : before.IsNamed)
    {target : Target}
    (names : Target.HasDottedNames target.name target.entity)
    (valid : Validation.targetNames target.name target.aliasName = .ok ()) :
    (introduce target).Ensures settings before fun binding after =>
      binding.IsNamed ∧ after.IsNamed := by
  intro binding after run
  obtain ⟨catalog, chosen, choice, -, rfl⟩ := introduce_choices target binding after run
  have known : (introduce target).Ensures settings before fun binding after =>
      (∀ catalog ∈ after.catalog, catalog.IsDotted) ∧
        isDottedIdentifier binding.entity = true ∧
          ∀ found ∈ binding.attributes, isDottedIdentifier found.name = true := by
    refine (targetEntity_named named.catalog names).bind fun known between knows => ?_
    refine (allocateAlias_choices target.name target.aliasName).bind fun aliasName chosen choice => ?_
    have same := choice.catalog
    rintro binding after ⟨rfl, rfl⟩
    exact ⟨same ▸ knows.1, knows.2⟩
  obtain ⟨dotted, entity, attributes⟩ := known binding _ run
  have bound : binding.IsNamed :=
    ⟨entity, fun aliasName chosen =>
      isDottedIdentifier_of_isIdentifier (choice.isIdentifier valid aliasName chosen), attributes⟩
  refine ⟨bound, fun resident seen => ?_, dotted⟩
  rcases ((Context.Continues.declare choice).mem_residents resident).mp seen with earlier | last
  · exact named.residents resident earlier
  · rw [List.mem_singleton.mp last]
    exact bound

end Resolution
end ObjectQuery
