import ObjectQuery.Proofs.Ensures
import ObjectQuery.Proofs.Parameters.Literals
import ObjectQuery.Proofs.Parameters.Names

/-!
# Allocated parameters and the names that are read

A context is ready when its parameters are numbered without gap, its targets have names
that are words, and its catalog answers with dotted names. A step keeps its ledger when it
leads from a ready context to a ready one, allocates a known number of parameters, and
writes something off which the scan reads exactly the allocated names: in the order of
allocation where that is asked for, and in any order otherwise.
-/

namespace ObjectQuery

open Text

/-! ## Names in the order of allocation -/

/-- The conventions under which references are told apart from all else. -/
structure Dialect.IsReadable (dialect : Dialect) : Prop where
  marker : Distinct dialect.parameterMarker
  parameterPrefix : isIdentifier dialect.parameterPrefix = true
  functions : dialect.functions = SpellingRegistry.standard

namespace Dialect

/-- The names of so many parameters, allocated after the first ones. -/
def numberedNames (dialect : Dialect) (first count : Nat) : List String :=
  (List.range' (first + 1) count).map dialect.numberedName

theorem numberedNames_add (dialect : Dialect) (first count count' : Nat) :
    dialect.numberedNames first (count + count') =
      dialect.numberedNames first count ++ dialect.numberedNames (first + count) count' := by
  rw [numberedNames, numberedNames, numberedNames, ← List.map_append]
  congr 1
  rw [← List.range'_append_1, Nat.add_right_comm]

/-- Leading zeros do not change the number that the digits write. -/
theorem numberedName_injective (dialect : Dialect) : Function.Injective dialect.numberedName := by
  intro number number' equal
  have digits := congrArg (fun name => Nat.ofDigitChars 10 (name.toList.drop
    dialect.parameterPrefix.toList.length) 0) equal
  simpa [numberedName, Calendar.padded, Nat.ofDigitChars_append,
    Nat.ofDigitChars_replicate_zero, Nat.ofDigitChars_ten_toDigits] using digits

theorem nodup_numberedNames (dialect : Dialect) (first count : Nat) :
    (dialect.numberedNames first count).Nodup :=
  List.Pairwise.map dialect.numberedName
    (fun _ _ different equal => different (dialect.numberedName_injective equal))
    (List.nodup_range' 1)

theorem all_isNameCharacter_padded (width number : Nat) :
    (Calendar.padded width number).toList.all isNameCharacter = true :=
  List.all_eq_true.mpr fun _ member =>
    isNameCharacter_of_isDigit (Calendar.isDigit_of_mem_padded _ _ _ member)

theorem isIdentifier_numberedName
    {dialect : Dialect}
    (identifier : isIdentifier dialect.parameterPrefix = true)
    (number : Nat) :
    isIdentifier (dialect.numberedName number) = true :=
  isIdentifier_append identifier (all_isNameCharacter_padded 4 number)

theorem isNameCharacter_numberedName
    {dialect : Dialect}
    (readable : dialect.IsReadable)
    (number : Nat) :
    (dialect.numberedName number).toList.all isNameCharacter = true := by
  have identifier := isIdentifier_numberedName readable.parameterPrefix number
  rw [← String.ofList_toList (s := dialect.numberedName number)] at identifier
  exact List.all_eq_true.mpr (nameCharacters_of_isIdentifier identifier)

theorem numberedName_ne_empty
    {dialect : Dialect}
    (readable : dialect.IsReadable)
    (number : Nat) :
    dialect.numberedName number ≠ "" := by
  have visible : dialect.parameterPrefix ≠ "" := by
    intro empty
    have identifier := readable.parameterPrefix
    rw [empty] at identifier
    revert identifier
    decide
  simp [numberedName, visible]

end Dialect

/-- The same names, and in the same order where that is asked for. -/
def Arranged (ordered : Prop) (names allocated : List String) : Prop :=
  names.Perm allocated ∧ (ordered → names = allocated)

theorem Arranged.refl (ordered : Prop) (names : List String) : Arranged ordered names names :=
  ⟨.refl names, fun _ => rfl⟩

theorem Arranged.append
    {ordered : Prop}
    {names names' allocated allocated' : List String}
    (first : Arranged ordered names allocated)
    (second : Arranged ordered names' allocated') :
    Arranged ordered (names ++ names') (allocated ++ allocated') :=
  ⟨first.1.append second.1, fun asked => by rw [first.2 asked, second.2 asked]⟩

/-! ## Ready contexts -/

/-- Numbered parameters, targets with words for names, and a dotted catalog. -/
structure Context.Ready (context : Context) (dialect : Dialect) : Prop where
  numbered : context.parameters.names = dialect.numberedNames 0 context.parameters.size
  bindings : ∀ scope ∈ context.current :: context.enclosing, ∀ binding ∈ scope.bindings,
    binding.HasWords
  catalog : ∀ catalog, context.catalog = some catalog → catalog.IsDotted

namespace Context.Ready

variable {context : Context} {dialect : Dialect}

theorem root
    (aliasMode : AliasPolicy)
    {catalog : Option Catalog}
    (dotted : ∀ found, catalog = some found → found.IsDotted) :
    (Context.root aliasMode catalog).Ready dialect where
  numbered := rfl
  bindings := by simp [Context.root, Scope.empty]
  catalog := dotted

theorem withHint (ready : context.Ready dialect) (hint : Option ValueType) :
    Context.Ready { context with hint } dialect :=
  ⟨ready.numbered, ready.bindings, ready.catalog⟩

theorem enter (ready : context.Ready dialect) (aliasMode : AliasPolicy) :
    (context.enter aliasMode).Ready dialect where
  numbered := ready.numbered
  bindings := by
    intro scope member
    rcases List.mem_cons.mp member with rfl | outer
    · simp [Context.enter, Scope.empty]
    · exact ready.bindings scope outer
  catalog := ready.catalog

theorem leave
    {before : Context}
    (ready : context.Ready dialect)
    (readyBefore : before.Ready dialect) :
    (context.leave before).Ready dialect :=
  ⟨ready.numbered, readyBefore.bindings, ready.catalog⟩

theorem useAlias (ready : context.Ready dialect) (aliasName : String) :
    (context.useAlias aliasName).Ready dialect :=
  ⟨ready.numbered, ready.bindings, ready.catalog⟩

theorem countAlias (ready : context.Ready dialect) (base : String) (count : Nat) :
    (context.countAlias base count).Ready dialect where
  numbered := ready.numbered
  bindings := by
    intro scope member
    rcases List.mem_cons.mp member with rfl | outer
    · exact ready.bindings context.current List.mem_cons_self
    · exact ready.bindings scope (List.mem_cons_of_mem _ outer)
  catalog := ready.catalog

theorem bind
    (ready : context.Ready dialect)
    {binding : BoundTarget}
    (words : binding.HasWords) :
    (context.bind binding).Ready dialect where
  numbered := ready.numbered
  bindings := by
    intro scope member
    rcases List.mem_cons.mp member with rfl | outer
    · intro found among
      rcases List.mem_append.mp among with earlier | last
      · exact ready.bindings context.current List.mem_cons_self found earlier
      · rw [List.mem_singleton.mp last]
        exact words
    · exact ready.bindings scope (List.mem_cons_of_mem _ outer)
  catalog := ready.catalog

theorem push (ready : context.Ready dialect) (parameter : Parameter) :
    Context.Ready
      { context with
        parameters := context.parameters.push
          (dialect.numberedName (context.parameters.size + 1)) parameter }
      dialect where
  numbered := by
    have names := ready.numbered
    simp only [ParameterTable.names] at names
    simp only [ParameterTable.names, ParameterTable.push, ParameterTable.size,
      List.map_append, names, List.length_append, List.map_cons, List.map_nil,
      List.length_singleton, Dialect.numberedNames_add]
    simp [Dialect.numberedNames]
  bindings := ready.bindings
  catalog := ready.catalog

/-- A target that is found, in whichever scope, has words for names. -/
theorem find?
    (ready : context.Ready dialect)
    {qualifier : String}
    {binding : BoundTarget}
    (found : context.find? qualifier = some binding) :
    binding.HasWords := by
  have inScope : ∀ scope : Scope, ∀ binding, scope.find? qualifier = some binding →
      binding ∈ scope.bindings := by
    intro scope binding among
    simp only [Scope.find?, Option.or_eq_some_iff] at among
    rcases among with byAlias | ⟨-, byName | ⟨-, byEntity⟩⟩
    · exact List.mem_of_find?_eq_some byAlias
    · exact List.mem_of_find?_eq_some byName
    · exact List.mem_of_find?_eq_some byEntity
  have words := ready.bindings
  unfold Context.find? at found
  generalize context.current :: context.enclosing = scopes at found words
  induction scopes with
  | nil => simp [Context.findIn] at found
  | cons scope outer inductionHypothesis =>
      simp only [Context.findIn] at found
      split at found
      · next binding' among =>
          cases found
          exact words scope List.mem_cons_self _ (inScope scope _ among)
      · split at found
        · simp at found
        · exact inductionHypothesis found fun scope member =>
            words scope (List.mem_cons_of_mem _ member)

theorem rootTarget?
    (ready : context.Ready dialect)
    {binding : BoundTarget}
    (found : context.rootTarget? = some binding) :
    binding.HasWords :=
  ready.bindings context.current List.mem_cons_self binding (List.mem_of_mem_head? found)

end Context.Ready

/-- A step that allocates nothing leads to a ready context again. -/
structure Context.Steady (before after : Context) (dialect : Dialect) : Prop where
  ready : after.Ready dialect
  size : after.parameters.size = before.parameters.size

theorem Context.Ready.steady
    {context : Context}
    {dialect : Dialect}
    (ready : context.Ready dialect) :
    context.Steady context dialect :=
  ⟨ready, rfl⟩

/-! ## Ledgers -/

/-- A step from one context to another allocated so many parameters, which are read. -/
structure Ledger
    (settings : Settings)
    (ordered : Prop)
    (slots : Nat)
    (before after : Context)
    (reads : List String → Prop) : Prop where
  ready : after.Ready settings.dialect
  size : after.parameters.size = before.parameters.size + slots
  names : ∃ names, reads names ∧
    Arranged ordered names (settings.dialect.numberedNames before.parameters.size slots)

namespace Ledger

variable
  {settings : Settings}
  {ordered : Prop}
  {slots slots' : Nat}
  {before between after : Context}
  {reads reads' reads'' : List String → Prop}

/-- Nothing is allocated, and no name is read. -/
theorem none
    (steady : before.Steady after settings.dialect)
    (empty : reads []) :
    Ledger settings ordered 0 before after reads :=
  ⟨steady.ready, steady.size, [], empty, Arranged.refl ordered []⟩

/-- A step that allocates nothing comes before. -/
theorem afterSteady
    (ledger : Ledger settings ordered slots between after reads)
    (steady : before.Steady between settings.dialect) :
    Ledger settings ordered slots before after reads := by
  obtain ⟨ready, size, names, holds, arranged⟩ := ledger
  rw [steady.size] at size arranged
  exact ⟨ready, size, names, holds, arranged⟩

theorem map
    (ledger : Ledger settings ordered slots before after reads)
    (maps : ∀ names, reads names → reads' names) :
    Ledger settings ordered slots before after reads' := by
  obtain ⟨ready, size, names, holds, arranged⟩ := ledger
  exact ⟨ready, size, names, maps names holds, arranged⟩

/-- What is written first is also read first. -/
theorem andThen
    (first : Ledger settings ordered slots before between reads)
    (second : Ledger settings ordered slots' between after reads')
    (joins : ∀ names names', reads names → reads' names' → reads'' (names ++ names')) :
    Ledger settings ordered (slots + slots') before after reads'' := by
  obtain ⟨-, size, names, holds, arranged⟩ := first
  obtain ⟨ready, size', names', holds', arranged'⟩ := second
  refine ⟨ready, by omega, names ++ names', joins names names' holds holds', ?_⟩
  rw [Dialect.numberedNames_add, ← size]
  exact arranged.append arranged'

/-- What is written last is read first; where order is asked for it must read nothing. -/
theorem andThenBefore
    (first : Ledger settings ordered slots before between reads)
    (second : Ledger settings ordered slots' between after reads')
    (unbound : ordered → slots' = 0)
    (joins : ∀ names names', reads names → reads' names' → reads'' (names' ++ names)) :
    Ledger settings ordered (slots + slots') before after reads'' := by
  obtain ⟨-, size, names, holds, arranged⟩ := first
  obtain ⟨ready, size', names', holds', arranged'⟩ := second
  refine ⟨ready, by omega, names' ++ names, joins names names' holds holds', ?_⟩
  rw [Dialect.numberedNames_add, ← size]
  refine ⟨List.perm_append_comm.trans (arranged.1.append arranged'.1), fun asked => ?_⟩
  have none : names' = [] := by
    rw [arranged'.2 asked, unbound asked]
    rfl
  rw [none, arranged.2 asked, unbound asked]
  simp [Dialect.numberedNames]

end Ledger
end ObjectQuery
