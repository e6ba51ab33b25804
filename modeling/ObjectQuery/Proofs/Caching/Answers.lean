import Mathlib
import ObjectQuery.Compiler.Basic
import ObjectQuery.Proofs.Hereditary.Statement

/-!
# Catalogs that answer alike

Being asked may change a catalog, but not what it answers. A cache that has remembered nothing
but answers of the catalog behind it therefore answers like that catalog, before and after any
questions. A resolution does nothing with a catalog but to ask it, and asks two catalogs that
answer alike the same questions; so they lead to the same outcome.
-/

namespace ObjectQuery

/-! ## Questions -/

namespace Catalog

/-- What a catalog says of a name in a scope. -/
def answer (catalog : Catalog) (scope name : String) : Except CatalogError Entity :=
  (catalog.resolve scope name).1

/-- A catalog after it was asked for a name in a scope. -/
def asked (catalog : Catalog) (scope name : String) : Catalog :=
  (catalog.resolve scope name).2

/-- A catalog after some questions, each a scope and a name. -/
def askedAll (catalog : Catalog) (questions : List (String × String)) : Catalog :=
  questions.foldl (fun catalog question => catalog.asked question.1 question.2) catalog

@[simp] theorem askedAll_nil (catalog : Catalog) : catalog.askedAll [] = catalog := rfl

theorem askedAll_append (catalog : Catalog) (questions others : List (String × String)) :
    catalog.askedAll (questions ++ others) = (catalog.askedAll questions).askedAll others :=
  List.foldl_append

theorem map_askedAll
    (catalog : Option Catalog)
    (questions others : List (String × String)) :
    (catalog.map (·.askedAll questions)).map (·.askedAll others) =
      catalog.map (·.askedAll (questions ++ others)) := by
  rw [Option.map_map]
  exact Option.map_congr fun _ _ => (askedAll_append _ _ _).symm

/-- A cache says what it remembers, else what the catalog behind it says. -/
theorem answer_cached (entries : RememberedEntities) (inner : Catalog) (scope name : String) :
    (cached entries inner).answer scope name =
      match Table.find? (scope, name) entries with
      | some entity => .ok entity
      | none => inner.answer scope name := by
  simp only [answer, resolve]
  cases Table.find? (scope, name) entries with
  | some entity => rfl
  | none => rcases inner.resolve scope name with ⟨_ | _, _⟩ <;> rfl

/-- A cache remembers an answer it did not know, unless it is an error. -/
theorem asked_cached (entries : RememberedEntities) (inner : Catalog) (scope name : String) :
    (cached entries inner).asked scope name =
      match Table.find? (scope, name) entries, inner.answer scope name with
      | some _, _ => .cached entries inner
      | none, .ok entity =>
          .cached (Table.put (scope, name) entity entries) (inner.asked scope name)
      | none, .error _ => .cached entries (inner.asked scope name) := by
  simp only [asked, answer, resolve]
  cases Table.find? (scope, name) entries with
  | some entity => rfl
  | none => rcases inner.resolve scope name with ⟨_ | _, _⟩ <;> rfl

/-- A question changes no answer. -/
theorem answer_asked (catalog : Catalog) (scope name scope' name' : String) :
    (catalog.asked scope name).answer scope' name' = catalog.answer scope' name' := by
  induction catalog with
  | fixed | counting | hosted => rfl
  | cached entries inner inductionHypothesis =>
      rw [asked_cached]
      cases known : Table.find? (scope, name) entries with
      | some entity => rfl
      | none =>
          cases answers : inner.answer scope name with
          | error error => simp only [answer_cached, inductionHypothesis]
          | ok entity =>
              simp only [answer_cached, inductionHypothesis]
              by_cases same : (scope, name) = (scope', name')
              · obtain ⟨rfl, rfl⟩ := Prod.mk.inj same
                rw [Table.find?_put_self, known, answers]
              · rw [Table.find?_put_of_ne same]

/-- A question changes no list of entities. -/
theorem list_asked (catalog : Catalog) (scope name : String) :
    (catalog.asked scope name).list = catalog.list := by
  induction catalog with
  | fixed | counting | hosted => rfl
  | cached entries inner inductionHypothesis =>
      rw [asked_cached]
      cases Table.find? (scope, name) entries with
      | some entity => rfl
      | none => cases inner.answer scope name <;> exact inductionHypothesis

/-- Catalogs with the same answers and the same entities. -/
structure Alike (left right : Catalog) : Prop where
  answers : ∀ scope name, left.answer scope name = right.answer scope name
  list : left.list = right.list

namespace Alike

variable {left right : Catalog}

theorem refl (catalog : Catalog) : catalog.Alike catalog :=
  ⟨fun _ _ => rfl, rfl⟩

theorem symm (alike : left.Alike right) : right.Alike left :=
  ⟨fun scope name => (alike.answers scope name).symm, alike.list.symm⟩

theorem trans {between : Catalog} (first : left.Alike between) (second : between.Alike right) :
    left.Alike right :=
  ⟨fun scope name => (first.answers scope name).trans (second.answers scope name),
    first.list.trans second.list⟩

theorem asked (catalog : Catalog) (scope name : String) :
    (catalog.asked scope name).Alike catalog :=
  ⟨fun scope' name' => answer_asked catalog scope name scope' name', list_asked catalog scope name⟩

theorem askedAll (catalog : Catalog) (questions : List (String × String)) :
    (catalog.askedAll questions).Alike catalog := by
  induction questions generalizing catalog with
  | nil => exact .refl catalog
  | cons question rest inductionHypothesis =>
      exact (inductionHypothesis _).trans (asked catalog question.1 question.2)

end Alike
end Catalog

/-- Everything that is remembered is an answer of the catalog. -/
def RememberedEntities.Faithful (entries : RememberedEntities) (catalog : Catalog) : Prop :=
  ∀ scope name entity, Table.find? (scope, name) entries = some entity →
    catalog.answer scope name = .ok entity

namespace RememberedEntities.Faithful

variable {entries : RememberedEntities} {inner : Catalog}

theorem nil (catalog : Catalog) : RememberedEntities.Faithful [] catalog := by
  intro scope name entity found
  cases found

/-- A cache whose entries are faithful answers like the catalog behind it. -/
theorem alike (faithful : entries.Faithful inner) : (Catalog.cached entries inner).Alike inner where
  answers scope name := by
    rw [Catalog.answer_cached]
    split
    · next entity found => exact (faithful scope name entity found).symm
    · rfl
  list := rfl

theorem of_alike {other : Catalog} (faithful : entries.Faithful inner) (same : other.Alike inner) :
    entries.Faithful other :=
  fun scope name entity found =>
    (same.answers scope name).trans (faithful scope name entity found)

/-- An answer that is remembered beside others. -/
theorem put
    (faithful : entries.Faithful inner)
    {scope name : String}
    {entity : Entity}
    (answered : inner.answer scope name = .ok entity) :
    RememberedEntities.Faithful (Table.put (scope, name) entity entries) inner := by
  intro scope' name' entity' found
  by_cases same : (scope, name) = (scope', name')
  · obtain ⟨rfl, rfl⟩ := Prod.mk.inj same
    rw [Table.find?_put_self] at found
    rw [answered, Option.some.inj found]
  · rw [Table.find?_put_of_ne same] at found
    exact faithful scope' name' entity' found

end RememberedEntities.Faithful

/-! ## Resolutions -/

namespace Resolution

/-- A step that uses the catalog to ask it, and asks catalogs that answer alike the same
questions; nothing else of a catalog shows in what comes of the step. -/
def OnlyAsks {result : Type} (settings : Settings) (step : Resolution result) : Prop :=
  ∀ (context : Context) (catalog : Option Catalog),
    Option.Rel Catalog.Alike context.catalog catalog →
      ∃ questions : List (String × String),
        (step settings context).2.catalog = context.catalog.map (·.askedAll questions) ∧
        step settings { context with catalog } =
          ((step settings context).1,
            { (step settings context).2 with catalog := catalog.map (·.askedAll questions) })

variable {settings : Settings}

/-- A step that leaves the catalog alone asks nothing. -/
theorem OnlyAsks.of_nothing
    {result : Type}
    {step : Resolution result}
    (untouched : ∀ context : Context, (step settings context).2.catalog = context.catalog)
    (blind : ∀ (context : Context) (catalog : Option Catalog),
      step settings { context with catalog } =
        ((step settings context).1, { (step settings context).2 with catalog })) :
    step.OnlyAsks settings := by
  intro context catalog alike
  refine ⟨[], ?_, ?_⟩
  · simpa using untouched context
  · simpa using blind context catalog

theorem askCatalog_onlyAsks (name : String) : (askCatalog name).OnlyAsks settings := by
  intro context catalog alike
  refine ⟨[(settings.catalogScope, name)], ?_⟩
  cases given : context.catalog with
  | none =>
      rw [given] at alike
      cases alike
      simp [askCatalog, given]
  | some own =>
      rw [given] at alike
      cases alike with
      | some same =>
          have answers := same.answers settings.catalogScope name
          simp only [Catalog.answer] at answers
          simp [askCatalog, given, answers, Catalog.askedAll, Catalog.asked]

theorem alike_askedAll
    {left right : Option Catalog}
    (alike : Option.Rel Catalog.Alike left right)
    (questions : List (String × String)) :
    Option.Rel Catalog.Alike (left.map (·.askedAll questions))
      (right.map (·.askedAll questions)) := by
  cases alike with
  | none => exact .none
  | some same =>
      exact .some ((Catalog.Alike.askedAll _ questions).trans
        (same.trans (Catalog.Alike.askedAll _ questions).symm))

theorem OnlyAsks.bind
    {first second : Type}
    {step : Resolution first}
    {next : first → Resolution second}
    (steps : step.OnlyAsks settings)
    (nexts : ∀ found, (next found).OnlyAsks settings) :
    (step >>= next).OnlyAsks settings := by
  intro context catalog alike
  obtain ⟨questions, asked, ran⟩ := steps context catalog alike
  rw [bind_apply, bind_apply, ran]
  generalize step settings context = ends at asked ⊢
  obtain ⟨outcome, after⟩ := ends
  cases outcome with
  | error error => exact ⟨questions, asked, rfl⟩
  | ok found =>
      have between : Option.Rel Catalog.Alike after.catalog
          (catalog.map (·.askedAll questions)) := by
        rw [show after.catalog = _ from asked]
        exact alike_askedAll alike questions
      obtain ⟨others, asked', ran'⟩ := nexts found after _ between
      refine ⟨questions ++ others, ?_, ?_⟩
      · rw [← Catalog.map_askedAll, ← asked]
        exact asked'
      · rw [← Catalog.map_askedAll]
        exact ran'

/-- A registry that goes on forgets parameters and asks nothing. -/
theorem firstAcceptable_onlyAsks
    (kind : ExpressionKind)
    (output : OutputKind)
    {attempts : List (Resolution (Option Resolved))}
    (each : ∀ attempt ∈ attempts, attempt.OnlyAsks settings) :
    (Resolvers.firstAcceptable kind output attempts).OnlyAsks settings := by
  induction attempts with
  | nil => exact .of_nothing (fun _ => rfl) fun _ _ => rfl
  | cons attempt rest inductionHypothesis =>
      obtain ⟨first, others⟩ := List.forall_mem_cons.mp each
      have counts : parameterCount.OnlyAsks settings := .of_nothing (fun _ => rfl) fun _ _ => rfl
      have goesOn (bound : Nat) : Resolution.OnlyAsks settings (do
          forgetParameters bound
          Resolvers.firstAcceptable kind output rest) :=
        .bind (.of_nothing (fun _ => rfl) fun _ _ => rfl) fun _ => inductionHypothesis others
      refine counts.bind fun bound => first.bind fun answer => ?_
      cases answer with
      | none => exact goesOn bound
      | some resolved =>
          by_cases acceptable : resolved.isAcceptable output = true
          · simp only [acceptable, if_true]
            exact .of_nothing (fun _ => rfl) fun _ _ => rfl
          · simp only [acceptable, Bool.false_eq_true, if_false]
            exact goesOn bound

/-- Whatever is put together from steps that only ask does nothing else. -/
theorem hereditary_onlyAsks : Hereditary (fun step => step.OnlyAsks settings) where
  pure _ := .of_nothing (fun _ => rfl) fun _ _ => rfl
  fail _ := .of_nothing (fun _ => rfl) fun _ _ => rfl
  bind := .bind
  dialect := .of_nothing (fun _ => rfl) fun _ _ => rfl
  reading := by
    intro result next nexts overlooks context catalog alike
    obtain ⟨questions, asked, ran⟩ := nexts context context catalog alike
    refine ⟨questions, asked, ?_⟩
    have same : (Resolution.context >>= next) settings { context with catalog } =
        next { context with catalog } settings { context with catalog } := rfl
    rw [same, overlooks, ran]
    rfl
  binding _ := .of_nothing (fun _ => rfl) fun _ _ => rfl
  inChild := by
    intro result step aliasMode steps context catalog alike
    obtain ⟨questions, asked, ran⟩ := steps (context.enter aliasMode) catalog alike
    have depth : Context.depth { context with catalog } = context.depth := rfl
    simp only [Resolution.inChild, depth]
    split
    · exact ⟨[], by simp, by simp⟩
    · exact ⟨questions, asked, by
        rw [show ({ context with catalog } : Context).enter aliasMode =
          { context.enter aliasMode with catalog } from rfl, ran]
        rfl⟩
  withHint := by
    intro result step hint steps context catalog alike
    obtain ⟨questions, asked, ran⟩ := steps { context with hint := some hint } catalog alike
    exact ⟨questions, asked, by simp only [Resolution.withHint, ran]⟩
  allocateAlias := by
    intro name given
    refine .of_nothing (fun context => ?_) fun context catalog => ?_
    · simp only [Resolution.allocateAlias]
      split
      · rfl
      · split <;> rfl
      · rfl
      · rfl
    · simp only [Resolution.allocateAlias]
      split
      · rfl
      · split <;> rfl
      · rfl
      · rfl
  askCatalog := askCatalog_onlyAsks
  newParameter _ _ := .of_nothing (fun _ => rfl) fun _ _ => rfl
  choosing := firstAcceptable_onlyAsks

end Resolution

/-! ## Compilations -/

namespace Compiler

/-- A compilation asks its catalog some questions, and catalogs that answer alike the same ones,
with the same outcome. -/
theorem compile_onlyAsks
    {compiler : Compiler}
    (hosts : compiler.registry.HostsHave (fun step => step.OnlyAsks compiler.settings))
    (operation : Operation)
    {catalog : Option Catalog}
    (alike : Option.Rel Catalog.Alike compiler.catalog catalog) :
    ∃ questions : List (String × String),
      (compiler.compile operation).2 =
        { compiler with catalog := compiler.catalog.map (·.askedAll questions) } ∧
      Compiler.compile { compiler with catalog } operation =
        ((compiler.compile operation).1,
          { compiler with catalog := catalog.map (·.askedAll questions) }) := by
  have composes := Resolution.hereditary_onlyAsks.compose hosts operation
  obtain ⟨questions, asked, ran⟩ := composes (compiler.context operation) catalog alike
  refine ⟨questions, ?_, ?_⟩
  · simp only [compile]
    generalize operation.compose compiler.registry compiler.settings _ = ends at asked ⊢
    rcases ends with ⟨_ | _, after⟩ <;>
      exact congrArg (fun catalog => ({ compiler with catalog } : Compiler)) asked
  · have same : operation.compose compiler.registry compiler.settings
        (Compiler.context { compiler with catalog } operation) = _ := ran
    simp only [compile]
    rw [show Compiler.settings { compiler with catalog } = compiler.settings from rfl, same]
    generalize operation.compose compiler.registry compiler.settings _ = ends
    rcases ends with ⟨_ | _, after⟩ <;> rfl

end Compiler
end ObjectQuery
