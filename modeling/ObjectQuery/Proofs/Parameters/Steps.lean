import ObjectQuery.Proofs.Parameters.Ledger
import ObjectQuery.Proofs.Parameters.Slots
import ObjectQuery.Resolution.BuiltIn

/-!
# Ledgers of single steps

Binding a target, looking one up and asking the catalog allocate nothing, and what they
give is made of words. A value that is bound takes the next number, and its reference is
read as the name with that number.
-/

namespace ObjectQuery

open Text

namespace Resolution

variable {settings : Settings} {before : Context}

theorem allocateAlias_ensures
    (ready : before.Ready settings.dialect)
    {name : String}
    {given : Option String}
    (word : ∀ aliasName, given = some aliasName → IsWord aliasName) :
    (allocateAlias name given).Ensures settings before fun found after =>
      before.Steady after settings.dialect ∧
        ∀ aliasName, found = some aliasName → IsWord aliasName := by
  intro found after run
  simp only [allocateAlias] at run
  split at run
  · obtain ⟨rfl, rfl⟩ := by simpa using run
    exact ⟨ready.steady, by simp⟩
  · split at run
    · simp at run
    · obtain ⟨rfl, rfl⟩ := by simpa using run
      exact ⟨⟨ready.useAlias _, rfl⟩, by simpa using word⟩
  · obtain ⟨rfl, rfl⟩ := by simpa using run
    exact ⟨ready.steady, by simp⟩
  · obtain ⟨rfl, rfl⟩ := by simpa using run
    refine ⟨⟨(ready.countAlias _ _).useAlias _, rfl⟩, ?_⟩
    rintro _ ⟨rfl⟩
    exact isWord_generatedAlias name _ _

theorem askCatalog_ensures (ready : before.Ready settings.dialect) (name : String) :
    (askCatalog name).Ensures settings before fun answer after =>
      before.Steady after settings.dialect ∧
        ∀ entity, answer = some (.ok entity) → entity.IsDotted := by
  intro answer after run
  simp only [askCatalog] at run
  split at run
  · obtain ⟨rfl, rfl⟩ := by simpa using run
    exact ⟨ready.steady, by simp⟩
  · next catalog known =>
      obtain ⟨answers, stays⟩ :=
        Catalog.resolve_isDotted (ready.catalog catalog known) settings.catalogScope name
      obtain ⟨rfl, rfl⟩ := by simpa using run
      refine ⟨⟨⟨ready.numbered, ready.bindings, ?_⟩, rfl⟩, ?_⟩
      · rintro _ ⟨rfl⟩
        exact stays
      · intro entity answered
        exact answers entity (by simpa using answered)

theorem targetEntity_ensures
    (ready : before.Ready settings.dialect)
    {target : Target}
    (dotted : Target.HasDottedNames target.name target.entity) :
    (targetEntity target).Ensures settings before fun known after =>
      before.Steady after settings.dialect ∧ IsWord known.1 ∧
        ∀ found ∈ known.2, IsWord found.name := by
  have given : ∀ entity, target.entity = some entity → IsWord entity := fun entity equal =>
    isWord_of_isDottedIdentifier (dotted.2 entity equal)
  have attributes : ∀ {entity : Entity}, entity.IsDotted → ∀ found ∈ entity.attributes,
      IsWord found.name := fun dotted found member =>
    isWord_of_isDottedIdentifier (dotted.attributes found member)
  refine (askCatalog_ensures ready target.name).bind fun answer after answered => ?_
  obtain ⟨steady, answers⟩ := answered
  split
  · next entity found equal =>
      exact .pure ⟨steady, given entity equal, attributes (answers found rfl)⟩
  · next entity equal _ => exact .pure ⟨steady, given entity equal, by simp⟩
  · next found _ =>
      exact .pure ⟨steady, isWord_of_isDottedIdentifier (answers found rfl).entityName,
        attributes (answers found rfl)⟩
  · exact .fail _
  · exact .pure ⟨steady, isWord_of_isDottedIdentifier dotted.1, by simp⟩

theorem introduce_ensures
    (ready : before.Ready settings.dialect)
    (target : Target)
    (dotted : Target.HasDottedNames target.name target.entity)
    (word : ∀ aliasName, target.aliasName = some aliasName → IsWord aliasName) :
    (introduce target).Ensures settings before fun binding after =>
      before.Steady after settings.dialect ∧ binding.HasWords := by
  refine (targetEntity_ensures ready dotted).bind fun known between knows => ?_
  obtain ⟨steady, entity, attributes⟩ := knows
  refine (allocateAlias_ensures steady.ready word).bind fun aliasName between' allocated => ?_
  obtain ⟨steady', aliasWord⟩ := allocated
  have words : BoundTarget.HasWords ⟨target.name, known.1, aliasName, known.2⟩ :=
    ⟨entity, aliasWord, attributes⟩
  rintro binding after ⟨rfl, rfl⟩
  exact ⟨⟨steady'.ready.bind words, steady'.size.trans steady.size⟩, words⟩

theorem lookup_ensures (ready : before.Ready settings.dialect) (qualifier : String) :
    (lookup qualifier).Ensures settings before fun binding after =>
      after = before ∧ binding.HasWords := by
  refine .bindContext ?_
  split
  · next binding found => exact .pure ⟨rfl, ready.find? found⟩
  · exact .fail _

theorem aliasOf_ensures (ready : before.Ready settings.dialect) (qualifier : String) :
    (aliasOf qualifier).Ensures settings before fun _ after => after = before := by
  refine (lookup_ensures ready qualifier).bind fun binding after found => ?_
  exact .pure found.1

theorem qualifyingAlias_ensures (ready : before.Ready settings.dialect) (qualifier : String) :
    (qualifyingAlias qualifier).Ensures settings before fun found after =>
      after = before ∧ ∀ aliasName, found = some aliasName → IsWord aliasName := by
  refine .bindContext ?_
  split
  · next binding found =>
      have among : before.find? qualifier = some binding := by
        simp [Context.find?, Context.findIn, found]
      exact .pure ⟨rfl, (ready.find? among).aliasName⟩
  · refine (lookup_ensures ready qualifier).bind fun binding after found => ?_
    obtain ⟨rfl, words⟩ := found
    split
    · next aliasName given =>
        exact .pure ⟨rfl, fun _ equal => words.aliasName _ (given.trans equal)⟩
    · exact .unsupported _

/-- The reference to a new parameter is read as the next name. -/
theorem newReference_ensures
    (readable : settings.dialect.IsReadable)
    (ordered : Prop)
    (ready : before.Ready settings.dialect)
    (value : Value)
    (valueType : ValueType) :
    (newReference value valueType).Ensures settings before fun text after =>
      Ledger settings ordered 1 before after (Reads settings.dialect.parameterMarker text) := by
  rintro text after ⟨rfl, rfl⟩
  refine ⟨ready.push _, by simp, [_], ?_, Arranged.refl ordered _⟩
  exact reads_reference readable.marker (Dialect.isNameCharacter_numberedName readable _)
    (Dialect.numberedName_ne_empty readable _)

end Resolution

namespace BuiltIn

open Resolution

variable {settings : Settings} {before : Context}

theorem owningAlias_ensures (ready : before.Ready settings.dialect) (found : Path) :
    (owningAlias found).Ensures settings before fun found after =>
      after = before ∧ ∀ aliasName, found = some aliasName → IsWord aliasName := by
  unfold owningAlias
  split
  · exact qualifyingAlias_ensures ready _
  · refine .bindContext (.pure ⟨rfl, fun aliasName equal => ?_⟩)
    obtain ⟨binding, root, given⟩ := Option.bind_eq_some_iff.mp equal
    exact (ready.rootTarget? root).aliasName aliasName given

/-- The steps that write a text and keep their ledger. -/
def Writes
    (settings : Settings)
    (ordered : Prop)
    (slots : Nat)
    (before : Context)
    (step : Resolution String) : Prop :=
  step.Ensures settings before fun text after =>
    Ledger settings ordered slots before after (Reads settings.dialect.parameterMarker text)

theorem path_writes
    (readable : settings.dialect.IsReadable)
    (ordered : Prop)
    (ready : before.Ready settings.dialect)
    {found : Path}
    (dotted : found.IsDotted) :
    Writes settings ordered 0 before (path found) := by
  have fullName := Path.isWord_fullName dotted
  refine (owningAlias_ensures ready found).bind fun aliasName after owned => ?_
  obtain ⟨rfl, word⟩ := owned
  split
  · next aliasName =>
      have point : IsWord "." := by decide
      have text := ((word aliasName rfl).append point).append fullName
      exact .pure (.none ready.steady (text.plain readable.marker).reads)
  · exact .pure (.none ready.steady (fullName.plain readable.marker).reads)

theorem bindItems_ensures
    (readable : settings.dialect.IsReadable)
    (ordered : Prop)
    (ready : before.Ready settings.dialect)
    (items : List Value) :
    (bindItems items).Ensures settings before fun texts after =>
      Ledger settings ordered items.length before after
        (ReadsEach settings.dialect.parameterMarker texts) := by
  induction items generalizing before with
  | nil => exact .pure (.none ready.steady .nil)
  | cons item rest inductionHypothesis =>
      refine Ensures.bind (newReference_ensures readable ordered ready item _)
        fun text between first => ?_
      refine (inductionHypothesis first.ready).bind fun texts after others => .pure ?_
      rw [List.length_cons, Nat.add_comm]
      exact first.andThen others fun names names' => .cons

theorem constant_writes
    (readable : settings.dialect.IsReadable)
    (ordered : Prop)
    (ready : before.Ready settings.dialect)
    (value : Value) :
    Writes settings ordered value.slots before (constant value) := by
  cases value with
  | null => exact .pure (.none ready.steady (plain_of_all readable.marker (by decide)).reads)
  | list items =>
      refine (bindItems_ensures readable ordered ready items).bind fun texts after ledger => .pure ?_
      exact ledger.map fun names each =>
        each.intercalate (plain_of_all readable.marker (by decide)) (by decide) (by decide)
  | _ => exact newReference_ensures readable ordered ready _ _

end BuiltIn
end ObjectQuery
