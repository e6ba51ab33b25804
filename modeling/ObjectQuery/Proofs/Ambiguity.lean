import ObjectQuery.Codec.CatalogYaml
import ObjectQuery.Proofs.Definitions
import ObjectQuery.Proofs.Loading

/-!
# Ambiguous names

A name that is not defined as it is spelled stands for a global entity that goes by it when the
case of letters is left aside. If several do, the first of them is taken, and which one that is
depends on the order of the table, which means nothing. Loading refuses a name that is defined
twice, but not two names that differ in case only, nor a name that another entity has in
statements. Names are unambiguous in every catalog whose global entities have no such name in
common.
-/

namespace ObjectQuery

/-! ## Items in another order -/

/-- The first item of a kind does not depend on the order, if there is at most one. -/
theorem find?_eq_of_perm
    {item : Type}
    {items others : List item}
    {wanted : item → Bool}
    (atMostOne : (items.filter wanted).length ≤ 1)
    (rearranged : others.Perm items) :
    others.find? wanted = items.find? wanted := by
  have same := rearranged.filter wanted
  rw [← List.head?_filter, ← List.head?_filter]
  rcases found : items.filter wanted with _ | ⟨only, _ | ⟨_, _⟩⟩
  · rw [found] at same
    rw [List.perm_nil.mp same]
  · rw [found] at same
    rw [List.perm_singleton.mp same]
  · simp [found] at atMostOne

/-- Of several items of a kind, one is the first and another the last. -/
theorem find?_reverse_ne
    {item : Type}
    {items : List item}
    {wanted : item → Bool}
    (distinct : items.Nodup)
    (several : ¬ (items.filter wanted).length ≤ 1) :
    items.reverse.find? wanted ≠ items.find? wanted := by
  rw [← List.head?_filter, ← List.head?_filter, List.filter_reverse, List.head?_reverse]
  have distinct := distinct.filter wanted
  rcases found : items.filter wanted with _ | ⟨first, _ | ⟨second, rest⟩⟩
  · simp [found] at several
  · simp [found] at several
  · rw [found] at distinct
    rw [List.getLast?_cons_cons, List.head?_cons]
    exact fun same => (List.nodup_cons.mp distinct).1 (List.mem_of_getLast? same)

namespace FixedCatalog

variable {catalog other : FixedCatalog} {scope name : String} {entities reordered : List Entity}
  {scopes : List (String × List Entity)}

/-- The same entries in another order. -/
structure Rearranges (other catalog : FixedCatalog) : Prop where
  globalEntities : other.globalEntities.Perm catalog.globalEntities
  scopedEntities : other.scopedEntities.Perm catalog.scopedEntities

/-- There is a definition of just this name, in the scope or for every scope. -/
def Defines (catalog : FixedCatalog) (scope name : String) : Prop :=
  (∃ entity, ((scope, name), entity) ∈ catalog.scopedEntities) ∨
    ∃ entity, (name, entity) ∈ catalog.globalEntities

/-- No two global entities go by the name. -/
def AtMostOneGoesBy (catalog : FixedCatalog) (name : String) : Prop :=
  (catalog.globals.filter (goesBy name)).length ≤ 1

/-- The exact definition of a name, in the scope or else for every scope. -/
def definition? (catalog : FixedCatalog) (scope name : String) : Option Entity :=
  (Table.find? (scope, name) catalog.scopedEntities).or
    (Table.find? name catalog.globalEntities)

theorem find?_eq_or (catalog : FixedCatalog) (scope name : String) :
    catalog.find? scope name =
      (catalog.definition? scope name).or (catalog.globals.find? (goesBy name)) := by
  rw [find?, definition?, globals, Option.or_assoc]

theorem defines_iff : catalog.Defines scope name ↔ (catalog.definition? scope name).isSome := by
  have found {key : Type} [DecidableEq key] (wanted : key) (entries : List (key × Entity)) :
      (∃ entity, (wanted, entity) ∈ entries) ↔ (Table.find? wanted entries).isSome := by
    rw [Option.isSome_iff_exists]
    exact ⟨fun ⟨_, member⟩ => Table.exists_find?_of_mem member,
      fun ⟨entity, found⟩ => ⟨entity, Table.mem_of_find? found⟩⟩
  rw [Defines, found, found, definition?, Option.isSome_or, Bool.or_eq_true]

/-! ## The order of the table -/

/-- The keys of a loaded catalog are distinct, and so are its global entities. -/
structure Distinct (catalog : FixedCatalog) : Prop where
  globalKeys : (catalog.globalEntities.map Prod.fst).Nodup
  scopedKeys : (catalog.scopedEntities.map Prod.fst).Nodup
  globals : catalog.globals.Nodup

theorem globals_globalDefinitions (inScopes : List ((String × String) × Entity)) :
    globals ⟨globalDefinitions entities, inScopes⟩ = entities := by
  simp [globals, globalDefinitions, Function.comp_def]

theorem Distinct.of_ofDefinitions (loaded : ofDefinitions entities scopes = .ok catalog) :
    catalog.Distinct := by
  obtain ⟨⟨-, -, definedOnce⟩, rfl⟩ := ofDefinitions_ok_iff.mp loaded
  refine ⟨?_, Table.nodup_keys_putAll List.nodup_nil, ?_⟩
  · rwa [keys_globalDefinitions]
  · rw [globals_globalDefinitions]
    exact definedOnce.of_map _

theorem definition?_rearranged
    (distinct : catalog.Distinct)
    (rearranged : other.Rearranges catalog) :
    other.definition? scope name = catalog.definition? scope name := by
  rw [definition?, definition?, Table.find?_perm distinct.scopedKeys rearranged.scopedEntities,
    Table.find?_perm distinct.globalKeys rearranged.globalEntities]

theorem resolve_eq_iff :
    other.resolve scope name = catalog.resolve scope name ↔
      other.find? scope name = catalog.find? scope name := by
  rw [resolve, resolve]
  cases other.find? scope name <;> cases catalog.find? scope name <;> simp

/-- Where a name is unambiguous, the order of the table does not matter. -/
theorem resolve_rearranged
    (distinct : catalog.Distinct)
    (unambiguous : catalog.Defines scope name ∨ catalog.AtMostOneGoesBy name)
    (rearranged : other.Rearranges catalog) :
    other.resolve scope name = catalog.resolve scope name := by
  rw [resolve_eq_iff, find?_eq_or, find?_eq_or, definition?_rearranged distinct rearranged]
  rcases unambiguous with defined | atMostOne
  · obtain ⟨entity, exactly⟩ := Option.isSome_iff_exists.mp (defines_iff.mp defined)
    rw [exactly, Option.some_or, Option.some_or]
  · have globals : other.globals.Perm catalog.globals := rearranged.globalEntities.map Prod.snd
    rw [find?_eq_of_perm atMostOne globals]

/-- The catalog with its global entities the other way round. -/
def reversed (catalog : FixedCatalog) : FixedCatalog :=
  { catalog with globalEntities := catalog.globalEntities.reverse }

theorem reversed_rearranges (catalog : FixedCatalog) : catalog.reversed.Rearranges catalog :=
  ⟨List.reverse_perm _, .refl _⟩

/-- Where a name is ambiguous, the first of several entities is found. -/
theorem resolve_reversed_ne
    (distinct : catalog.Distinct)
    (undefined : ¬ catalog.Defines scope name)
    (several : ¬ catalog.AtMostOneGoesBy name) :
    catalog.reversed.resolve scope name ≠ catalog.resolve scope name := by
  have nothing : catalog.definition? scope name = none := by
    rwa [defines_iff, Bool.not_eq_true, Option.isSome_eq_false_iff, Option.isNone_iff_eq_none]
      at undefined
  have globals : catalog.reversed.globals = catalog.globals.reverse := List.map_reverse
  rw [Ne, resolve_eq_iff, find?_eq_or, find?_eq_or,
    definition?_rearranged distinct catalog.reversed_rearranges, nothing, Option.none_or,
    Option.none_or, globals]
  exact find?_reverse_ne distinct.globals several

/-- The name is defined as it is spelled, or at most one global entity goes by it. -/
def Unambiguous (catalog : FixedCatalog) (scope name : String) : Prop :=
  catalog.Defines scope name ∨ catalog.AtMostOneGoesBy name

/-- Exactly the unambiguous names stand for the same entity whatever the order of the table. -/
theorem resolve_rearranged_iff (distinct : catalog.Distinct) :
    (∀ other : FixedCatalog, other.Rearranges catalog →
      other.resolve scope name = catalog.resolve scope name) ↔
      catalog.Unambiguous scope name := by
  refine ⟨fun same => ?_, fun unambiguous _ => resolve_rearranged distinct unambiguous⟩
  by_contra ambiguous
  rw [Unambiguous, not_or] at ambiguous
  exact resolve_reversed_ne distinct ambiguous.1 ambiguous.2 (same _ catalog.reversed_rearranges)

/-! ## The order of the definitions -/

theorem ofDefinitions_perm
    (rearranged : reordered.Perm entities)
    (loaded : ofDefinitions entities scopes = .ok catalog) :
    ∃ other, ofDefinitions reordered scopes = .ok other ∧ other.Rearranges catalog := by
  obtain ⟨⟨shown, shownInScopes, definedOnce⟩, rfl⟩ := ofDefinitions_ok_iff.mp loaded
  refine ⟨_, ofDefinitions_ok_iff.mpr ⟨⟨fun entity member => ?_, shownInScopes, ?_⟩, rfl⟩,
    rearranged.map _, .refl _⟩
  · exact shown entity (rearranged.mem_iff.mp member)
  · exact (rearranged.map Entity.name).nodup_iff.mpr definedOnce

theorem ofDefinitions_reverse (loaded : ofDefinitions entities scopes = .ok catalog) :
    ofDefinitions entities.reverse scopes = .ok catalog.reversed := by
  obtain ⟨⟨shown, shownInScopes, definedOnce⟩, rfl⟩ := ofDefinitions_ok_iff.mp loaded
  refine ofDefinitions_ok_iff.mpr ⟨⟨fun entity member => ?_, shownInScopes, ?_⟩, ?_⟩
  · exact shown entity (List.mem_reverse.mp member)
  · rwa [List.map_reverse, List.nodup_reverse]
  · simp [reversed, globalDefinitions]

/-- Exactly the unambiguous names stand for the same entity whatever the order in which the global
entities are defined. -/
theorem resolve_reordered_iff (loaded : ofDefinitions entities scopes = .ok catalog) :
    (∀ reordered : List Entity, reordered.Perm entities →
      ∃ other, ofDefinitions reordered scopes = .ok other ∧
        other.resolve scope name = catalog.resolve scope name) ↔
      catalog.Unambiguous scope name := by
  have distinct := Distinct.of_ofDefinitions loaded
  constructor
  · intro same
    by_contra ambiguous
    rw [Unambiguous, not_or] at ambiguous
    obtain ⟨other, reloaded, equal⟩ := same _ (List.reverse_perm entities)
    rw [ofDefinitions_reverse loaded] at reloaded
    cases reloaded
    exact resolve_reversed_ne distinct ambiguous.1 ambiguous.2 equal
  · intro unambiguous reordered rearranged
    obtain ⟨other, reloaded, rearranges⟩ := ofDefinitions_perm rearranged loaded
    exact ⟨other, reloaded, resolve_rearranged distinct unambiguous rearranges⟩

end FixedCatalog

/-! ## Entities without a common name -/

/-- No name of the one is a name of the other when the case of letters is left aside. -/
def Entity.Apart (left right : Entity) : Prop :=
  ∀ first ∈ [left.name, left.entityName], ∀ second ∈ [right.name, right.entityName],
    Text.equalIgnoringCase first second = false

instance (left right : Entity) : Decidable (left.Apart right) :=
  inferInstanceAs (Decidable (∀ first ∈ _, _))

theorem Text.equalIgnoringCase_of_common
    {first second name : String}
    (one : equalIgnoringCase first name = true)
    (other : equalIgnoringCase second name = true) :
    equalIgnoringCase first second = true := by
  rw [equalIgnoringCase, beq_iff_eq] at one other ⊢
  rw [one, other]

namespace FixedCatalog

variable {catalog : FixedCatalog} {name : String} {left right : Entity}

theorem goesBy_iff :
    goesBy name left = true ↔
      ∃ word ∈ [left.name, left.entityName], Text.equalIgnoringCase word name = true := by
  simp [goesBy]

/-- Entities are apart if they do not go by any name together. -/
theorem apart_iff :
    left.Apart right ↔ ∀ name, goesBy name left = true → goesBy name right = false := by
  constructor
  · intro apart name one
    refine Bool.eq_false_iff.mpr fun other => ?_
    obtain ⟨first, firstName, one⟩ := goesBy_iff.mp one
    obtain ⟨second, secondName, other⟩ := goesBy_iff.mp other
    have common := Text.equalIgnoringCase_of_common one other
    rw [apart first firstName second secondName] at common
    cases common
  · intro unlike first firstName second secondName
    refine Bool.eq_false_iff.mpr fun common => ?_
    have one : goesBy second left = true := goesBy_iff.mpr ⟨first, firstName, common⟩
    have other : goesBy second right = true :=
      goesBy_iff.mpr ⟨second, secondName, Text.equalIgnoringCase_refl second⟩
    rw [unlike second one] at other
    cases other

/-- At most one global entity goes by any name if the global entities are apart. -/
theorem atMostOneGoesBy_iff :
    (∀ name, catalog.AtMostOneGoesBy name) ↔ catalog.globals.Pairwise Entity.Apart := by
  constructor
  · intro atMostOne
    refine List.pairwise_iff_forall_sublist.mpr fun {left right} pair =>
      apart_iff.mpr fun name one => Bool.eq_false_iff.mpr fun other => ?_
    have both := (pair.filter (goesBy name)).length_le
    rw [List.filter_cons_of_pos one, List.filter_cons_of_pos other] at both
    exact absurd (Nat.le_trans both (atMostOne name)) (by simp)
  · intro apart name
    rw [AtMostOneGoesBy]
    have among := apart.sublist (List.filter_sublist (p := goesBy name))
    rcases found : catalog.globals.filter (goesBy name) with _ | ⟨first, _ | ⟨second, rest⟩⟩
    · simp
    · simp
    · have goes (entity : Entity) (member : entity ∈ first :: second :: rest) :
          goesBy name entity = true :=
        (List.mem_filter.mp (found ▸ member)).2
      rw [found] at among
      have unlike := apart_iff.mp
        ((List.pairwise_cons.mp among).1 second List.mem_cons_self) name (goes first (by simp))
      rw [goes second (by simp)] at unlike
      cases unlike

end FixedCatalog

/-! ## Catalogs from texts -/

theorem CatalogDefinitions.toCatalog_ok_iff
    {definitions : CatalogDefinitions}
    {catalog : FixedCatalog} :
    definitions.toCatalog = .ok catalog ↔
      FixedCatalog.ofDefinitions definitions.entities definitions.scopes = .ok catalog := by
  rw [toCatalog]
  split <;> simp_all

namespace FixedCatalog

variable {catalog : FixedCatalog} {text : String}

/-- Whatever is loaded from a text is loaded from definitions. -/
theorem exists_definitions
    (loaded : ofYamlText text = .ok catalog ∨ ofJsonText text = .ok catalog) :
    ∃ definitions : CatalogDefinitions, definitions.toCatalog = .ok catalog := by
  rw [ofYamlText, ofJsonText] at loaded
  rcases loaded with loaded | loaded
  · split at loaded
    · exact ⟨_, loaded⟩
    · cases loaded
  · split at loaded
    · exact ⟨_, loaded⟩
    · cases loaded

/-- In a catalog that is loaded from a text, the entity that a name stands for depends neither on
the order of the table nor on that of the definitions, exactly if the name is defined as it is
spelled, or at most one global entity goes by it. At most one goes by any name exactly if no two
global entities have a name in common when the case of letters is left aside. -/
theorem resolve_order_iff
    (loaded : ofYamlText text = .ok catalog ∨ ofJsonText text = .ok catalog)
    (scope name : String) :
    ((∀ other : FixedCatalog, other.Rearranges catalog →
        other.resolve scope name = catalog.resolve scope name) ↔
      catalog.Unambiguous scope name) ∧
      (∀ definitions : CatalogDefinitions, definitions.toCatalog = .ok catalog →
        ((∀ reordered : List Entity, reordered.Perm definitions.entities →
            ∃ other, CatalogDefinitions.toCatalog ⟨reordered, definitions.scopes⟩ = .ok other ∧
              other.resolve scope name = catalog.resolve scope name) ↔
          catalog.Unambiguous scope name)) ∧
      ((∀ name, catalog.AtMostOneGoesBy name) ↔ catalog.globals.Pairwise Entity.Apart) := by
  refine ⟨?_, fun definitions loaded => ?_, atMostOneGoesBy_iff⟩
  · obtain ⟨definitions, loaded⟩ := exists_definitions loaded
    exact resolve_rearranged_iff
      (Distinct.of_ofDefinitions (CatalogDefinitions.toCatalog_ok_iff.mp loaded))
  · simp only [CatalogDefinitions.toCatalog_ok_iff] at loaded ⊢
    exact resolve_reordered_iff loaded

/-- Orders that differ in case only are loaded both. A third spelling stands for the purchase or
for the sale, whichever comes first in the table; the spellings of the definitions do not depend
on the order. -/
theorem orders_in_two_cases :
    let purchased : Entity := ⟨"order", "PurchaseOrder", []⟩
    let sold : Entity := ⟨"Order", "SalesOrder", []⟩
    let catalog : FixedCatalog := ⟨globalDefinitions [purchased, sold], []⟩
    let text := "entities:\n  - name: order\n    entity_name: PurchaseOrder\n" ++
      "  - name: Order\n    entity_name: SalesOrder\n"
    ofYamlText text = .ok catalog ∧
      ¬ catalog.Defines "default" "ORDER" ∧ ¬ catalog.AtMostOneGoesBy "ORDER" ∧
      (∃ other : FixedCatalog, other.Rearranges catalog ∧
        other.resolve "default" "ORDER" ≠ catalog.resolve "default" "ORDER") ∧
      ∀ other : FixedCatalog, other.Rearranges catalog →
        other.resolve "default" "order" = catalog.resolve "default" "order" := by
  intro purchased sold catalog text
  have loaded : ofYamlText text = .ok catalog := by decide +kernel
  have undefined : ¬ catalog.Defines "default" "ORDER" := by
    rw [defines_iff]
    decide
  have several : ¬ catalog.AtMostOneGoesBy "ORDER" := by
    rw [AtMostOneGoesBy]
    decide
  have order (name : String) := (resolve_order_iff (.inl loaded) "default" name).1
  refine ⟨loaded, undefined, several, ?_, (order "order").mpr (.inl (.inr ⟨purchased, ?_⟩))⟩
  · have different := (order "ORDER").not.mpr (not_or.mpr ⟨undefined, several⟩)
    simpa only [not_forall, exists_prop] using different
  · exact List.mem_cons_self

end FixedCatalog
end ObjectQuery
