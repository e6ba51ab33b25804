import ObjectQuery.Catalog.Fixed
import ObjectQuery.Expression.Validation

/-!
# Definitions of a scope

Entities that are defined for a scope come before the global ones when a name is looked up there.
They do so under the very name of the definition only. Under another spelling of it the lookup
passes them over, and looks for a global entity that goes by the name.
-/

namespace ObjectQuery
namespace FixedCatalog

/-! ## Catalogs that are built -/

/-- A catalog that is made of its definitions. -/
inductive IsBuilt : FixedCatalog → Prop
  | empty : IsBuilt empty
  | withEntity {catalog : FixedCatalog} (built : catalog.IsBuilt) (entity : Entity) :
      IsBuilt (catalog.withEntity entity)
  | withScopedEntity {catalog : FixedCatalog} (built : catalog.IsBuilt) (scope : String)
      (entity : Entity) : IsBuilt (catalog.withScopedEntity scope entity)

namespace IsBuilt

variable {catalog extended : FixedCatalog}

theorem addGlobal
    {entities : List Entity}
    (built : catalog.IsBuilt)
    (added : catalog.addGlobal entities = .ok extended) :
    extended.IsBuilt := by
  induction entities generalizing catalog with
  | nil =>
      cases added
      exact built
  | cons entity rest inductionHypothesis =>
      obtain ⟨-, -, added⟩ := Except.bind_ok_iff.mp added
      split at added
      · cases added
      · exact inductionHypothesis (built.withEntity entity) added

theorem addScoped
    {scope : String}
    {entities : List Entity}
    (built : catalog.IsBuilt)
    (added : catalog.addScoped scope entities = .ok extended) :
    extended.IsBuilt := by
  induction entities generalizing catalog with
  | nil =>
      cases added
      exact built
  | cons entity rest inductionHypothesis =>
      obtain ⟨-, -, added⟩ := Except.bind_ok_iff.mp added
      exact inductionHypothesis (built.withScopedEntity scope entity) added

theorem addScopes
    {scopes : List (String × List Entity)}
    (built : catalog.IsBuilt)
    (added : catalog.addScopes scopes = .ok extended) :
    extended.IsBuilt := by
  induction scopes generalizing catalog with
  | nil =>
      cases added
      exact built
  | cons scope rest inductionHypothesis =>
      obtain ⟨_, first, added⟩ := Except.bind_ok_iff.mp added
      exact inductionHypothesis (built.addScoped first) added

/-- Whatever is loaded is built. -/
theorem ofDefinitions
    {entities : List Entity}
    {scopes : List (String × List Entity)}
    (loaded : FixedCatalog.ofDefinitions entities scopes = .ok extended) :
    extended.IsBuilt := by
  obtain ⟨_, first, added⟩ := Except.bind_ok_iff.mp loaded
  exact (empty.addGlobal first).addScopes added

/-- Every definition stands under its own name. -/
theorem name_of_mem (built : catalog.IsBuilt) :
    (∀ entry ∈ catalog.globalEntities, entry.2.name = entry.1) ∧
      ∀ entry ∈ catalog.scopedEntities, entry.2.name = entry.1.2 := by
  induction built with
  | empty => exact ⟨nofun, nofun⟩
  | withEntity built entity inductionHypothesis =>
      refine ⟨fun entry member => ?_, inductionHypothesis.2⟩
      rcases Table.mem_put member with rfl | earlier
      · rfl
      · exact inductionHypothesis.1 entry earlier
  | withScopedEntity built scope entity inductionHypothesis =>
      refine ⟨inductionHypothesis.1, fun entry member => ?_⟩
      rcases Table.mem_put member with rfl | earlier
      · rfl
      · exact inductionHypothesis.2 entry earlier

end IsBuilt

/-! ## Lookups in a scope -/

/-- The definitions that every scope sees. -/
def globals (catalog : FixedCatalog) : List Entity :=
  catalog.globalEntities.map Prod.snd

/-- The definitions of a scope that are named like this when the case of letters is left aside. -/
def spelledIn (catalog : FixedCatalog) (scope name : String) : List Entity :=
  (catalog.scopedEntities.filter fun entry =>
    entry.1.1 = scope ∧ Text.equalIgnoringCase entry.2.name name = true).map Prod.snd

variable {catalog : FixedCatalog} {scope name : String} {entity found : Entity}

theorem mem_spelledIn_iff : found ∈ catalog.spelledIn scope name ↔
    (∃ key, ((scope, key), found) ∈ catalog.scopedEntities) ∧
      Text.equalIgnoringCase found.name name = true := by
  constructor
  · intro spelled
    obtain ⟨⟨⟨owner, key⟩, found⟩, kept, rfl⟩ := List.mem_map.mp spelled
    obtain ⟨member, chosen⟩ := List.mem_filter.mp kept
    obtain ⟨rfl, alike⟩ : owner = scope ∧ Text.equalIgnoringCase found.name name = true := by
      simpa using chosen
    exact ⟨⟨key, member⟩, alike⟩
  · rintro ⟨⟨key, member⟩, alike⟩
    exact List.mem_map.mpr ⟨_, List.mem_filter.mpr ⟨member, by simpa using alike⟩, rfl⟩

namespace IsBuilt

variable (built : catalog.IsBuilt)

include built

/-- What is found in a scope is named like this, to the letter. -/
theorem name_of_find?
    (exactly : Table.find? (scope, name) catalog.scopedEntities = some found) :
    found.name = name ∧ found ∈ catalog.spelledIn scope name := by
  have member := Table.mem_of_find? exactly
  have named : found.name = name := built.name_of_mem.2 _ member
  exact ⟨named, mem_spelledIn_iff.mpr
    ⟨⟨name, member⟩, by rw [named, Text.equalIgnoringCase_refl]⟩⟩

/-- The one definition of a scope that is spelled like this but for the case of letters is found
under its very name only. -/
theorem find?_scopedEntities (only : catalog.spelledIn scope name = [entity]) :
    Table.find? (scope, name) catalog.scopedEntities =
      if entity.name = name then some entity else none := by
  have unique (found : Entity) (spelled : found ∈ catalog.spelledIn scope name) :
      found = entity := by
    simpa [only] using spelled
  split
  · next named =>
      have spelled : entity ∈ catalog.spelledIn scope name := by simp [only]
      obtain ⟨⟨key, member⟩, -⟩ := mem_spelledIn_iff.mp spelled
      obtain rfl : name = key := named.symm.trans (built.name_of_mem.2 _ member)
      obtain ⟨found, exactly⟩ := Table.exists_find?_of_mem member
      rw [exactly, unique found (built.name_of_find? exactly).2]
  · next differs =>
      refine Option.eq_none_iff_forall_ne_some.mpr fun found exactly => differs ?_
      obtain ⟨named, spelled⟩ := built.name_of_find? exactly
      rw [← unique found spelled, named]

theorem find?_globalEntities (unlike : ∀ definition ∈ catalog.globals, definition.name ≠ name) :
    Table.find? name catalog.globalEntities = none := by
  refine Option.eq_none_iff_forall_ne_some.mpr fun found exactly => ?_
  have member := Table.mem_of_find? exactly
  exact unlike found (List.mem_map.mpr ⟨_, member, rfl⟩) (built.name_of_mem.1 _ member)

/-- The one definition of a scope is found under its very name, else the first global entity that
goes by the name. -/
theorem find?_spelled
    (only : catalog.spelledIn scope name = [entity])
    (unlike : ∀ definition ∈ catalog.globals, definition.name ≠ name) :
    catalog.find? scope name =
      if entity.name = name then some entity else catalog.globals.find? (goesBy name) := by
  rw [FixedCatalog.find?, built.find?_scopedEntities only, built.find?_globalEntities unlike,
    Option.none_or, globals]
  split
  · rfl
  · rfl

end IsBuilt

/-- One definition of a scope is named like this when the case of letters is left aside, and no
global definition has just this name. The scope's definition is found if it is spelled like this;
else it is passed over, and only global entities that go by the name are found. -/
theorem resolve_scoped_iff
    (built : catalog.IsBuilt)
    (only : catalog.spelledIn scope name = [entity])
    (unlike : ∀ definition ∈ catalog.globals, definition.name ≠ name) :
    (entity.name = name → catalog.resolve scope name = .ok entity) ∧
      (entity.name ≠ name →
        (∀ found, catalog.resolve scope name = .ok found →
          found ∈ catalog.globals ∧ goesBy name found = true) ∧
        (catalog.resolve scope name = .error (.entityNotFound name scope) ↔
          ∀ definition ∈ catalog.globals, goesBy name definition = false)) ∧
      (entity ∉ catalog.globals →
        (catalog.resolve scope name = .ok entity ↔ entity.name = name)) := by
  have looked := built.find?_spelled only unlike
  by_cases named : entity.name = name
  · rw [if_pos named] at looked
    have resolved : catalog.resolve scope name = .ok entity := by rw [resolve, looked]
    exact ⟨fun _ => resolved, fun differs => absurd named differs,
      fun _ => by simp [resolved, named]⟩
  · rw [if_neg named] at looked
    have passed (found : Entity) (resolved : catalog.resolve scope name = .ok found) :
        found ∈ catalog.globals ∧ goesBy name found = true := by
      rw [resolve, looked] at resolved
      split at resolved
      · next taken =>
          cases resolved
          exact ⟨List.mem_of_find?_eq_some taken, List.find?_some taken⟩
      · cases resolved
    have missing : catalog.resolve scope name = .error (.entityNotFound name scope) ↔
        ∀ definition ∈ catalog.globals, goesBy name definition = false := by
      rw [resolve, looked]
      split
      · next taken =>
          refine ⟨nofun, fun none => ?_⟩
          have goes := none _ (List.mem_of_find?_eq_some taken)
          rw [List.find?_some taken] at goes
          cases goes
      · next nothing => simpa using List.find?_eq_none.mp nothing
    refine ⟨fun exactly => absurd exactly named, fun _ => ⟨passed, missing⟩, fun notGlobal => ?_⟩
    exact ⟨fun resolved => absurd (passed entity resolved).1 notGlobal,
      fun exactly => absurd exactly named⟩

/-- A scope has orders of its own. They are found under their name in the scope, and a name in
capitals finds the orders of everyone. -/
theorem billing_order_passed_over :
    let purchased : Entity := ⟨"order", "PurchaseOrder", []⟩
    let billed : Entity := ⟨"order", "BillingOrder", []⟩
    let catalog := (empty.withEntity purchased).withScopedEntity "billing" billed
    catalog.spelledIn "billing" "ORDER" = [billed] ∧
      catalog.resolve "billing" "order" = .ok billed ∧
      catalog.resolve "billing" "ORDER" = .ok purchased ∧
      catalog.resolve "billing" "ORDER" ≠ .ok billed := by
  intro purchased billed catalog
  have built : catalog.IsBuilt := (IsBuilt.empty.withEntity purchased).withScopedEntity _ billed
  have only : catalog.spelledIn "billing" "ORDER" = [billed] := by decide +kernel
  have passed : catalog.find? "billing" "ORDER" = some purchased := by decide +kernel
  obtain ⟨-, -, exactly⟩ := resolve_scoped_iff built only (by decide +kernel)
  refine ⟨only, rfl, by rw [resolve, passed], fun resolved => ?_⟩
  exact absurd ((exactly (by decide +kernel)).mp resolved) (by decide)

end FixedCatalog
end ObjectQuery
