import ObjectQuery.Catalog.Fixed
import ObjectQuery.Expression.Validation
import ObjectQuery.Proofs.Tables

/-!
# Loading definitions

A catalog is loaded from the definitions that every scope sees and those of single scopes. A name
that is defined twice for every scope is an error. Within one scope it is none: the later
definition takes the place of the earlier one, which is lost. All other definitions are kept, and
each is found under its name where it is seen.
-/

namespace ObjectQuery

/-! ## The loaded catalog -/

/-- Both names of the entity show something. -/
def Entity.Shown (entity : Entity) : Prop :=
  Text.isBlank entity.name = false ∧ Text.isBlank entity.entityName = false

instance (entity : Entity) : Decidable entity.Shown :=
  inferInstanceAs (Decidable (_ ∧ _))

namespace FixedCatalog

variable {catalog extended : FixedCatalog} {entities : List Entity}
  {scopes : List (String × List Entity)} {scope name : String} {entity : Entity}

/-- The table of definitions that every scope sees. -/
def globalDefinitions (entities : List Entity) : List (String × Entity) :=
  entities.map fun entity => (entity.name, entity)

/-- The definitions of one scope, each with its scope and name. -/
def definitionsIn (scope : String) (entities : List Entity) :
    List ((String × String) × Entity) :=
  entities.map fun entity => ((scope, entity.name), entity)

/-- The definitions of all scopes, each with its scope and name. -/
def scopedDefinitions (scopes : List (String × List Entity)) :
    List ((String × String) × Entity) :=
  scopes.flatMap fun scope => definitionsIn scope.1 scope.2

/-- What definitions must keep to: every name shows something, and none is defined twice for
every scope. -/
structure Loadable (entities : List Entity) (scopes : List (String × List Entity)) : Prop where
  shown : ∀ entity ∈ entities, entity.Shown
  shownInScopes : ∀ scope ∈ scopes, ∀ entity ∈ scope.2, entity.Shown
  definedOnce : (entities.map Entity.name).Nodup

theorem requireNames_ok_iff {checked : Unit} :
    requireNames entity = .ok checked ↔ entity.Shown := by
  simp [requireNames, Entity.Shown]

theorem withEntity_of_fresh (fresh : Table.find? entity.name catalog.globalEntities = none) :
    catalog.withEntity entity =
      { catalog with
        globalEntities := catalog.globalEntities ++ globalDefinitions [entity] } := by
  rw [withEntity, Table.put_of_find?_eq_none fresh]
  rfl

theorem addGlobal_ok_iff (distinct : (catalog.globalEntities.map Prod.fst).Nodup) :
    catalog.addGlobal entities = .ok extended ↔
      (∀ entity ∈ entities, entity.Shown) ∧
        (catalog.globalEntities.map Prod.fst ++ entities.map Entity.name).Nodup ∧
        extended = { catalog with
          globalEntities := catalog.globalEntities ++ globalDefinitions entities } := by
  induction entities generalizing catalog with
  | nil => simp [addGlobal, globalDefinitions, distinct, eq_comm]
  | cons entity entities inductionHypothesis =>
      rw [addGlobal, Except.bind_ok_iff]
      cases taken : Table.find? entity.name catalog.globalEntities with
      | some found =>
          have member : entity.name ∈ catalog.globalEntities.map Prod.fst :=
            List.mem_map.mpr ⟨_, Table.mem_of_find? taken, rfl⟩
          have twice : ¬ (catalog.globalEntities.map Prod.fst ++
              (entity :: entities).map Entity.name).Nodup := fun distinct =>
            (List.nodup_append.mp distinct).2.2 _ member _ List.mem_cons_self rfl
          exact iff_of_false nofun fun loaded => twice loaded.2.1
      | none =>
          have fresh := Table.find?_eq_none_iff.mp taken
          have extendedKeys :
              ((catalog.withEntity entity).globalEntities.map Prod.fst).Nodup := by
            rw [withEntity_of_fresh taken, List.map_append]
            exact List.concat_eq_append ▸ distinct.concat fresh
          simp only [Option.isSome_none, Bool.false_eq_true, if_false, requireNames_ok_iff,
            inductionHypothesis extendedKeys]
          rw [withEntity_of_fresh taken]
          simp [globalDefinitions, and_assoc]

theorem addScoped_ok_iff :
    catalog.addScoped scope entities = .ok extended ↔
      (∀ entity ∈ entities, entity.Shown) ∧
        extended = { catalog with
          scopedEntities :=
            Table.putAll (definitionsIn scope entities) catalog.scopedEntities } := by
  induction entities generalizing catalog with
  | nil => simp [addScoped, definitionsIn, Table.putAll, eq_comm]
  | cons entity entities inductionHypothesis =>
      rw [addScoped, Except.bind_ok_iff]
      simp [requireNames_ok_iff, inductionHypothesis, withScopedEntity, definitionsIn,
        Table.putAll, and_assoc]

theorem addScopes_ok_iff :
    catalog.addScopes scopes = .ok extended ↔
      (∀ scope ∈ scopes, ∀ entity ∈ scope.2, entity.Shown) ∧
        extended = { catalog with
          scopedEntities :=
            Table.putAll (scopedDefinitions scopes) catalog.scopedEntities } := by
  induction scopes generalizing catalog with
  | nil => simp [addScopes, scopedDefinitions, Table.putAll, eq_comm]
  | cons scope scopes inductionHypothesis =>
      rw [addScopes, Except.bind_ok_iff]
      simp [addScoped_ok_iff, inductionHypothesis, scopedDefinitions, Table.putAll, and_assoc]

/-- What is loaded is the table of the definitions. -/
theorem ofDefinitions_ok_iff :
    ofDefinitions entities scopes = .ok catalog ↔
      Loadable entities scopes ∧
        catalog = ⟨globalDefinitions entities, Table.putAll (scopedDefinitions scopes) []⟩ := by
  have distinct : (empty.globalEntities.map Prod.fst).Nodup := List.nodup_nil
  simp only [ofDefinitions, Except.bind_ok_iff, addGlobal_ok_iff distinct, addScopes_ok_iff]
  constructor
  · rintro ⟨_, ⟨shown, definedOnce, rfl⟩, shownInScopes, rfl⟩
    exact ⟨⟨shown, shownInScopes, definedOnce⟩, rfl⟩
  · rintro ⟨⟨shown, shownInScopes, definedOnce⟩, rfl⟩
    exact ⟨_, ⟨shown, definedOnce, rfl⟩, shownInScopes, rfl⟩

/-! ## What is found -/

/-- The definitions of a scope. -/
def definedIn (scopes : List (String × List Entity)) (scope : String) : List Entity :=
  (scopes.filter fun found => found.1 = scope).flatMap Prod.snd

/-- The definitions of a scope that have a name. -/
def namedIn (scopes : List (String × List Entity)) (scope name : String) : List Entity :=
  (definedIn scopes scope).filter fun entity => entity.name = name

theorem filter_definitionsIn (found : String) (entities : List Entity) :
    ((definitionsIn found entities).filter fun entry => entry.1 = (scope, name)) =
      if found = scope then definitionsIn scope (entities.filter fun entity => entity.name = name)
      else [] := by
  rw [definitionsIn, List.filter_map]
  split
  · next same =>
      subst same
      simp [definitionsIn, Function.comp_def]
  · next different => simp [different, Function.comp_def]

theorem filter_scopedDefinitions (scopes : List (String × List Entity)) (scope name : String) :
    ((scopedDefinitions scopes).filter fun entry => entry.1 = (scope, name)) =
      definitionsIn scope (namedIn scopes scope name) := by
  induction scopes with
  | nil => rfl
  | cons first scopes inductionHypothesis =>
      rw [scopedDefinitions, List.flatMap_cons, ← scopedDefinitions, List.filter_append,
        filter_definitionsIn, inductionHypothesis]
      split
      · next same => simp [namedIn, definedIn, definitionsIn, same]
      · next different => simp [namedIn, definedIn, different]

/-- In the scope, what was defined last is found. -/
theorem find?_scopedDefinitions (scopes : List (String × List Entity)) (scope name : String) :
    Table.find? (scope, name) (Table.putAll (scopedDefinitions scopes) []) =
      (namedIn scopes scope name).getLast? := by
  rw [Table.find?_putAll, filter_scopedDefinitions, definitionsIn, List.getLast?_map,
    Option.map_map]
  simp [Function.comp_def]

theorem keys_globalDefinitions (entities : List Entity) :
    (globalDefinitions entities).map Prod.fst = entities.map Entity.name := by
  simp [globalDefinitions]

theorem find?_globalDefinitions
    (definedOnce : (entities.map Entity.name).Nodup)
    (member : entity ∈ entities) :
    Table.find? entity.name (globalDefinitions entities) = some entity :=
  Table.find?_eq_some_of_mem (keys_globalDefinitions entities ▸ definedOnce)
    (List.mem_map.mpr ⟨entity, member, rfl⟩)

/-! ## How many are kept -/

theorem length_scopedDefinitions (scopes : List (String × List Entity)) :
    (scopedDefinitions scopes).length = (scopes.flatMap Prod.snd).length := by
  simp [scopedDefinitions, definitionsIn, List.length_flatMap]

theorem count_keys_scopedDefinitions
    (scopes : List (String × List Entity))
    (scope name : String) :
    ((scopedDefinitions scopes).map Prod.fst).count (scope, name) =
      ((definedIn scopes scope).map Entity.name).count name := by
  have among := congrArg List.length (filter_scopedDefinitions scopes scope name)
  rw [definitionsIn, List.length_map, namedIn] at among
  simp only [List.count, List.countP_map, Function.comp_def, beq_eq_decide]
  simpa only [List.countP_eq_length_filter] using among

/-- No key stands twice if no scope defines a name twice. -/
theorem nodup_keys_scopedDefinitions_iff :
    ((scopedDefinitions scopes).map Prod.fst).Nodup ↔
      ∀ scope, ((definedIn scopes scope).map Entity.name).Nodup := by
  simp only [List.nodup_iff_count_le_one, Prod.forall, count_keys_scopedDefinitions]

/-- As many definitions are loaded as there are names for every scope, and names in a scope. -/
theorem size_loaded (loaded : ofDefinitions entities scopes = .ok catalog) :
    catalog.size = entities.length + ((scopedDefinitions scopes).map Prod.fst).dedup.length := by
  obtain ⟨-, rfl⟩ := ofDefinitions_ok_iff.mp loaded
  rw [size, Table.length_putAll_nil, globalDefinitions, List.length_map]

/-- No definition is lost if no scope defines a name twice. -/
theorem size_eq_iff (loaded : ofDefinitions entities scopes = .ok catalog) :
    catalog.size = entities.length + (scopes.flatMap Prod.snd).length ↔
      ∀ scope, ((definedIn scopes scope).map Entity.name).Nodup := by
  rw [size_loaded loaded, ← nodup_keys_scopedDefinitions_iff, ← length_scopedDefinitions,
    Nat.add_left_cancel_iff, ← List.dedup_eq_self]
  constructor
  · intro same
    exact (List.dedup_sublist _).eq_of_length (by rw [same, List.length_map])
  · intro same
    rw [same, List.length_map]

/-! ## What is refused -/

/-- The error for an entity with a name that shows nothing. -/
def emptyName (entity : Entity) : CatalogError :=
  .configuration ("entity '" ++ entity.name ++ "' has an empty name")

/-- The error for the second definition of a name for every scope. -/
def definedTwice (entity : Entity) : CatalogError :=
  .configuration ("entity '" ++ entity.name ++ "' is defined twice")

variable {error : CatalogError}

theorem requireNames_error (refused : requireNames entity = .error error) :
    ¬ entity.Shown ∧ error = emptyName entity := by
  rw [requireNames] at refused
  split at refused
  · next blank =>
      refine ⟨fun shown => ?_, (Except.error.inj refused).symm⟩
      rw [shown.1, shown.2] at blank
      cases blank
  · cases refused

theorem addGlobal_error (refused : catalog.addGlobal entities = .error error) :
    (∃ entity ∈ entities, ¬ entity.Shown ∧ error = emptyName entity) ∨
      ∃ entity ∈ entities,
        1 < (catalog.globalEntities.map Prod.fst ++ entities.map Entity.name).count entity.name ∧
          error = definedTwice entity := by
  induction entities generalizing catalog with
  | nil => cases refused
  | cons entity entities inductionHypothesis =>
      rcases Except.bind_error_iff.mp refused with blank | ⟨_, -, refused⟩
      · exact .inl ⟨entity, List.mem_cons_self, requireNames_error blank⟩
      cases taken : Table.find? entity.name catalog.globalEntities with
      | some found =>
          have member : entity.name ∈ catalog.globalEntities.map Prod.fst :=
            List.mem_map.mpr ⟨_, Table.mem_of_find? taken, rfl⟩
          have earlier := List.count_pos_iff.mpr member
          rw [taken] at refused
          refine .inr ⟨entity, List.mem_cons_self, ?_, (Except.error.inj refused).symm⟩
          rw [List.count_append, List.map_cons, List.count_cons_self]
          omega
      | none =>
          rw [taken] at refused
          rcases inductionHypothesis refused with ⟨other, among, blank⟩ | ⟨other, among, twice⟩
          · exact .inl ⟨other, List.mem_cons_of_mem _ among, blank⟩
          · rw [withEntity_of_fresh taken] at twice
            refine .inr ⟨other, List.mem_cons_of_mem _ among, ?_⟩
            simpa [globalDefinitions] using twice

theorem addScoped_error (refused : catalog.addScoped scope entities = .error error) :
    ∃ entity ∈ entities, ¬ entity.Shown ∧ error = emptyName entity := by
  induction entities generalizing catalog with
  | nil => cases refused
  | cons entity entities inductionHypothesis =>
      rcases Except.bind_error_iff.mp refused with blank | ⟨_, -, refused⟩
      · exact ⟨entity, List.mem_cons_self, requireNames_error blank⟩
      · obtain ⟨other, among, blank⟩ := inductionHypothesis refused
        exact ⟨other, List.mem_cons_of_mem _ among, blank⟩

theorem addScopes_error (refused : catalog.addScopes scopes = .error error) :
    ∃ scope ∈ scopes, ∃ entity ∈ scope.2, ¬ entity.Shown ∧ error = emptyName entity := by
  induction scopes generalizing catalog with
  | nil => cases refused
  | cons scope scopes inductionHypothesis =>
      rcases Except.bind_error_iff.mp refused with blank | ⟨_, -, refused⟩
      · exact ⟨scope, List.mem_cons_self, addScoped_error blank⟩
      · obtain ⟨other, among, blank⟩ := inductionHypothesis refused
        exact ⟨other, List.mem_cons_of_mem _ among, blank⟩

/-- What is refused shows nothing as one of its names, or has a name that is defined twice for
every scope. -/
theorem ofDefinitions_error (refused : ofDefinitions entities scopes = .error error) :
    (∃ entity, (entity ∈ entities ∨ ∃ scope ∈ scopes, entity ∈ scope.2) ∧ ¬ entity.Shown ∧
        error = emptyName entity) ∨
      ∃ entity ∈ entities, 1 < (entities.map Entity.name).count entity.name ∧
        error = definedTwice entity := by
  rcases Except.bind_error_iff.mp refused with refused | ⟨_, -, refused⟩
  · rcases addGlobal_error refused with ⟨entity, member, blank⟩ | twice
    · exact .inl ⟨entity, .inl member, blank⟩
    · exact .inr twice
  · obtain ⟨scope, among, entity, member, blank⟩ := addScopes_error refused
    exact .inl ⟨entity, .inr ⟨scope, among, member⟩, blank⟩

/-- Definitions are loaded if every name shows something and none is defined twice for every
scope; they are refused for one of these two reasons only. Of loaded definitions none is lost if
and only if no scope defines a name twice. In a scope exactly the last definition of a name is
found, and the definition of a name for every scope is found in each scope without a definition of
that name. -/
theorem ofDefinitions_keeps
    (entities : List Entity)
    (scopes : List (String × List Entity)) :
    ((∃ catalog, ofDefinitions entities scopes = .ok catalog) ↔ Loadable entities scopes) ∧
      (∀ error, ofDefinitions entities scopes = .error error →
        (∃ entity, (entity ∈ entities ∨ ∃ scope ∈ scopes, entity ∈ scope.2) ∧ ¬ entity.Shown ∧
            error = emptyName entity) ∨
          ∃ entity ∈ entities, 1 < (entities.map Entity.name).count entity.name ∧
            error = definedTwice entity) ∧
      ∀ catalog, ofDefinitions entities scopes = .ok catalog →
        (catalog.size = entities.length + (scopes.flatMap Prod.snd).length ↔
          ∀ scope, ((definedIn scopes scope).map Entity.name).Nodup) ∧
        (∀ scope, ∀ entity ∈ definedIn scopes scope,
          (catalog.resolve scope entity.name = .ok entity ↔
            (namedIn scopes scope entity.name).getLast? = some entity)) ∧
        ∀ entity ∈ entities, ∀ scope, namedIn scopes scope entity.name = [] →
          catalog.resolve scope entity.name = .ok entity := by
  refine ⟨?_, fun error refused => ofDefinitions_error refused, fun catalog loaded =>
    ⟨size_eq_iff loaded, fun scope entity member => ?_, fun entity member scope nothing => ?_⟩⟩
  · simp only [ofDefinitions_ok_iff, exists_and_left, exists_eq, and_true]
  · obtain ⟨-, rfl⟩ := ofDefinitions_ok_iff.mp loaded
    have named : entity ∈ namedIn scopes scope entity.name :=
      List.mem_filter.mpr ⟨member, decide_eq_true rfl⟩
    rw [resolve, find?, find?_scopedDefinitions]
    cases last : (namedIn scopes scope entity.name).getLast? with
    | none => simp [List.getLast?_eq_none_iff.mp last] at named
    | some found => simp
  · obtain ⟨⟨-, -, definedOnce⟩, rfl⟩ := ofDefinitions_ok_iff.mp loaded
    rw [resolve, find?, find?_scopedDefinitions, nothing,
      find?_globalDefinitions definedOnce member]
    rfl

/-- Invoicing has two definitions of orders, of which the later is kept. The orders of everyone are
found everywhere else. -/
theorem billing_orders_overwritten :
    let purchased : Entity := ⟨"order", "PurchaseOrder", []⟩
    let billed : Entity := ⟨"order", "BillingOrder", []⟩
    let invoiced : Entity := ⟨"order", "Invoice", []⟩
    let scopes := [("billing", [billed, invoiced])]
    ∃ catalog, ofDefinitions [purchased] scopes = .ok catalog ∧ catalog.size ≠ 3 ∧
      catalog.resolve "billing" "order" = .ok invoiced ∧
      catalog.resolve "billing" "order" ≠ .ok billed ∧
      catalog.resolve "shipping" "order" = .ok purchased := by
  intro purchased billed invoiced scopes
  obtain ⟨loads, -, kept⟩ := ofDefinitions_keeps [purchased] scopes
  obtain ⟨catalog, loaded⟩ := loads.mpr
    ⟨by decide +kernel, by decide +kernel, by decide +kernel⟩
  obtain ⟨size, inScope, everywhere⟩ := kept catalog loaded
  have billing : definedIn scopes "billing" = [billed, invoiced] := by decide
  refine ⟨catalog, loaded, fun three => ?_, ?_, ?_, ?_⟩
  · exact absurd (size.mp three "billing") (by rw [billing]; decide)
  · exact (inScope "billing" invoiced (by simp [billing])).mpr (by decide)
  · exact (inScope "billing" billed (by simp [billing])).not.mpr (by decide)
  · exact everywhere purchased List.mem_cons_self "shipping" (by decide)

end FixedCatalog
end ObjectQuery
