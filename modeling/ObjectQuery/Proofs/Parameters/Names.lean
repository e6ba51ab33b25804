import ObjectQuery.Proofs.Parameters.Scanning
import ObjectQuery.Proofs.Throughout
import ObjectQuery.Resolution.Context

/-!
# Names that a statement may hold

A dotted name is made of plain characters, and so are the aliases that are given or made
up. A catalog has dotted names when every answer it can give, now or after any number of
questions, names its entity and its attributes by dotted names.
-/

namespace ObjectQuery

/-! ## Words -/

/-- A text of plain characters. -/
def Text.IsWord (text : String) : Prop :=
  text.toList.all Text.isPlainCharacter = true

namespace Text

instance (text : String) : Decidable (IsWord text) :=
  inferInstanceAs (Decidable (text.toList.all isPlainCharacter = true))

theorem IsWord.append
    {left right : String}
    (leftWord : IsWord left)
    (rightWord : IsWord right) :
    IsWord (left ++ right) := by
  simp only [IsWord] at leftWord rightWord
  simp only [IsWord, String.toList_append, List.all_append, leftWord, rightWord, Bool.and_self]

theorem IsWord.plain
    {marker : Char}
    {text : String}
    (word : IsWord text)
    (distinct : Distinct marker) :
    Plain marker text :=
  plain_of_all distinct word

theorem isWord_of_nameCharacters
    {characters : List Char}
    (all : ∀ character ∈ characters, isNameCharacter character = true) :
    IsWord (String.ofList characters) := by
  rw [IsWord, String.toList_ofList, List.all_eq_true]
  intro character member
  simp [isPlainCharacter, all character member]

theorem nameCharacters_of_isIdentifier
    {characters : List Char}
    (identifier : isIdentifier (String.ofList characters) = true) :
    ∀ character ∈ characters, isNameCharacter character = true := by
  intro character member
  cases characters with
  | nil => simp at member
  | cons first rest =>
      simp only [isIdentifier, String.toList_ofList, Bool.and_eq_true, List.all_eq_true]
        at identifier
      rcases List.mem_cons.mp member with rfl | inRest
      · exact isNameCharacter_of_isNameStart identifier.1
      · exact identifier.2 character inRest

/-- Name characters may follow an identifier. -/
theorem isIdentifier_append
    {text suffix : String}
    (identifier : isIdentifier text = true)
    (named : suffix.toList.all isNameCharacter = true) :
    isIdentifier (text ++ suffix) = true := by
  unfold isIdentifier at identifier ⊢
  rw [String.toList_append]
  cases characters : text.toList with
  | nil => simp [characters] at identifier
  | cons first rest =>
      simp only [characters, Bool.and_eq_true] at identifier
      simp only [List.cons_append, List.all_append, identifier.1, identifier.2, named,
        Bool.and_self]

theorem isWord_of_isIdentifier {name : String} (identifier : isIdentifier name = true) :
    IsWord name := by
  have characters : String.ofList name.toList = name := String.ofList_toList
  rw [← characters] at identifier ⊢
  exact isWord_of_nameCharacters (nameCharacters_of_isIdentifier identifier)

/-- The characters of a text are points or stand in one of its segments. -/
theorem mem_segmentsOf {characters : List Char} {character : Char} (member : character ∈ characters) :
    character = '.' ∨ ∃ segment ∈ segmentsOf characters, character ∈ segment := by
  induction characters with
  | nil => simp at member
  | cons first rest inductionHypothesis =>
      simp only [segmentsOf]
      by_cases point : first = '.'
      · rcases List.mem_cons.mp member with rfl | inRest
        · exact .inl point
        · rcases inductionHypothesis inRest with isPoint | ⟨segment, among, inSegment⟩
          · exact .inl isPoint
          · exact .inr ⟨segment, by simp [point, among], inSegment⟩
      · simp only [point, if_false]
        split
        · next none => exact absurd none (segmentsOf_ne_nil rest)
        · next segment segments equal =>
            rcases List.mem_cons.mp member with rfl | inRest
            · exact .inr ⟨character :: segment, by simp, by simp⟩
            · rcases inductionHypothesis inRest with isPoint | ⟨found, among, inFound⟩
              · exact .inl isPoint
              · rw [equal] at among
                rcases List.mem_cons.mp among with rfl | inSegments
                · exact .inr ⟨first :: found, by simp, by simp [inFound]⟩
                · exact .inr ⟨found, by simp [inSegments], inFound⟩

theorem isWord_of_isDottedIdentifier {name : String} (dotted : isDottedIdentifier name = true) :
    IsWord name := by
  rw [IsWord, List.all_eq_true]
  intro character member
  rcases mem_segmentsOf member with rfl | ⟨segment, among, inSegment⟩
  · decide
  · have identifier := List.all_eq_true.mp dotted segment among
    have isName := nameCharacters_of_isIdentifier identifier character inSegment
    simp [isPlainCharacter, isName]

end Text

open Text

/-! ## Paths and targets -/

/-- Every name along the path is dotted. -/
def Path.IsDotted : Path → Prop
  | .mk name _ none _ _ => isDottedIdentifier name = true
  | .mk name _ (some parent) _ _ => isDottedIdentifier name = true ∧ parent.IsDotted

theorem Path.isWord_fullName : {path : Path} → path.IsDotted → IsWord path.fullName
  | .mk _ _ none _ _, dotted => isWord_of_isDottedIdentifier dotted
  | .mk _ _ (some _) _ _, dotted =>
      ((isWord_fullName dotted.2).append (by decide)).append
        (isWord_of_isDottedIdentifier dotted.1)

/-- The logical name of a target is dotted, and so is its entity if one is given. -/
def Target.HasDottedNames (name : String) (entity : Option String) : Prop :=
  isDottedIdentifier name = true ∧ ∀ found, entity = some found → isDottedIdentifier found = true

/-- A bound target whose names and alias are words. -/
structure BoundTarget.HasWords (binding : BoundTarget) : Prop where
  entity : IsWord binding.entity
  aliasName : ∀ aliasName, binding.aliasName = some aliasName → IsWord aliasName
  attributes : ∀ found ∈ binding.attributes, IsWord found.name

namespace BoundTarget

variable {binding : BoundTarget}

theorem HasWords.reference (words : binding.HasWords) : IsWord binding.reference := by
  unfold BoundTarget.reference
  cases given : binding.aliasName with
  | none => exact words.entity
  | some aliasName => exact words.aliasName aliasName given

theorem HasWords.qualify
    (words : binding.HasWords)
    {property : String}
    (word : IsWord property) :
    IsWord (binding.qualify property) := by
  unfold BoundTarget.qualify
  split
  · next aliasName given => exact ((words.aliasName aliasName given).append (by decide)).append word
  · exact word

theorem HasWords.declaration (words : binding.HasWords) : IsWord binding.declaration := by
  unfold BoundTarget.declaration
  split
  · next aliasName given =>
      exact (words.entity.append (by decide)).append (words.aliasName aliasName given)
  · exact words.entity

end BoundTarget

/-! ## Aliases -/

theorem isNameCharacter_aliasCharacter (character : Char) :
    isNameCharacter (aliasCharacter character) = true := by
  simp only [aliasCharacter]
  split
  · next small => exact small
  · decide

theorem isWord_aliasStem (name : String) : IsWord (aliasStem name) := by
  unfold aliasStem
  split
  · decide
  · next first rest equal =>
      have all : ∀ character ∈ first :: rest, isNameCharacter character = true := by
        rw [← equal]
        intro character member
        obtain ⟨source, -, rfl⟩ := List.mem_map.mp member
        exact isNameCharacter_aliasCharacter source
      refine isWord_of_nameCharacters fun character member => ?_
      have member' := List.mem_of_mem_take member
      split at member'
      · rcases List.mem_cons.mp member' with rfl | inRest
        · decide
        · exact all character inRest
      · exact all character member'

theorem isWord_generatedAlias (name : String) (sequence count : Nat) :
    IsWord (generatedAlias (aliasStem name) sequence count) := by
  have digits : ∀ number : Nat, IsWord (toString number) := fun number =>
    isWord_of_nameCharacters fun _ member =>
      isNameCharacter_of_isDigit (Number.isDigit_of_mem_toDigits member)
  exact (((((isWord_aliasStem name).append (by decide)).append (digits sequence)).append
    (by decide)).append (digits count))

/-! ## Catalogs -/

/-- An entity with dotted names. -/
structure Entity.IsDotted (entity : Entity) : Prop where
  entityName : isDottedIdentifier entity.entityName = true
  attributes : ∀ found ∈ entity.attributes, isDottedIdentifier found.name = true

/-- Every entity that the catalog holds or remembers, or that its host answers, is dotted. -/
def Catalog.IsDotted : Catalog → Prop
  | .fixed source =>
      (∀ entry ∈ source.globalEntities, entry.2.IsDotted) ∧
        ∀ entry ∈ source.scopedEntities, entry.2.IsDotted
  | .counting source => ∀ entry ∈ source.entities, entry.2.IsDotted
  | .hosted source => ∀ scope name entity, source.resolve scope name = .ok entity → entity.IsDotted
  | .cached entries inner => (∀ entry ∈ entries, entry.2.IsDotted) ∧ inner.IsDotted

namespace Catalog

theorem fixed_find?_isDotted
    {source : FixedCatalog}
    (dotted : (Catalog.fixed source).IsDotted)
    {scope name : String}
    {entity : Entity}
    (found : source.find? scope name = some entity) :
    entity.IsDotted := by
  simp only [FixedCatalog.find?, Option.or_eq_some_iff] at found
  rcases found with inScope | ⟨-, byName | ⟨-, byAny⟩⟩
  · exact dotted.2 _ (Table.mem_of_find? inScope)
  · exact dotted.1 _ (Table.mem_of_find? byName)
  · obtain ⟨entry, among, rfl⟩ := List.mem_map.mp (List.mem_of_find?_eq_some byAny)
    exact dotted.1 _ among

/-- A dotted catalog answers with dotted entities and stays dotted. -/
theorem resolve_isDotted
    {catalog : Catalog}
    (dotted : catalog.IsDotted)
    (scope name : String) :
    (∀ entity, (catalog.resolve scope name).1 = .ok entity → entity.IsDotted) ∧
      (catalog.resolve scope name).2.IsDotted := by
  induction catalog with
  | fixed source =>
      refine ⟨fun entity answered => ?_, dotted⟩
      simp only [resolve, FixedCatalog.resolve] at answered
      split at answered
      · next found among =>
          cases answered
          exact fixed_find?_isDotted dotted among
      · simp at answered
  | counting source =>
      refine ⟨fun entity answered => ?_, dotted⟩
      simp only [resolve, CountingCatalog.resolve, CountingCatalog.get?] at answered
      split at answered
      · next found among =>
          cases answered
          exact dotted _ (Table.mem_of_find? among)
      · simp at answered
  | hosted source => exact ⟨dotted scope name, dotted⟩
  | cached entries inner inductionHypothesis =>
      obtain ⟨answers, stays⟩ := inductionHypothesis dotted.2
      simp only [resolve]
      split
      · next found among =>
          refine ⟨fun entity answered => ?_, dotted⟩
          cases answered
          exact dotted.1 _ (Table.mem_of_find? among)
      · split
        · next found asked answered =>
            rw [answered] at answers stays
            refine ⟨fun entity equal => ?_, fun entry member => ?_, stays⟩
            · cases equal
              exact answers found rfl
            · rcases Table.mem_put member with rfl | among
              · exact answers found rfl
              · exact dotted.1 entry among
        · next error asked answered =>
            rw [answered] at stays
            exact ⟨fun entity equal => by simp at equal, dotted.1, stays⟩

end Catalog
end ObjectQuery
