import ObjectQuery.Expression.Validation
import ObjectQuery.Resolution.Context

/-!
# Resolutions

A resolution reads the settings, changes the context, and gives a result or an
error. What it did to the context stays when it fails, so that a caller who goes on
sees the parameters and aliases that were used. Scopes and hints are put back by
the two forms that change them.
-/

namespace ObjectQuery

/-- A step of writing a statement. -/
def Resolution (result : Type) : Type :=
  Settings → Context → Except ResolutionError result × Context

namespace Resolution

variable {first second : Type}

/-- A step that only gives a result. -/
def pure (result : first) : Resolution first :=
  fun _ context => (.ok result, context)

/-- A step, and another that depends on its result. -/
def bind (step : Resolution first) (next : first → Resolution second) : Resolution second :=
  fun settings context =>
    match step settings context with
    | (.ok result, after) => next result settings after
    | (.error error, after) => (.error error, after)

instance : Monad Resolution where
  pure := pure
  bind := bind

/-- A step that fails. -/
def fail (error : ResolutionError) : Resolution first :=
  fun _ context => (.error error, context)

/-- A step that an outcome decides. -/
def ofExcept (outcome : Except ResolutionError first) : Resolution first :=
  fun _ context => (outcome, context)

/-- A step that a check decides. -/
def ofChecked (outcome : Checked) : Resolution Unit :=
  fun _ context =>
    match outcome with
    | .ok () => (.ok (), context)
    | .error fault => (.error (.invalid fault), context)

/-- The settings. -/
def settings : Resolution Settings :=
  fun settings context => (.ok settings, context)

/-- The dialect. -/
def dialect : Resolution Dialect :=
  fun settings context => (.ok settings.dialect, context)

/-- The context. -/
def context : Resolution Context :=
  fun _ context => (.ok context, context)

/-- The context is changed. -/
def modify (change : Context → Context) : Resolution Unit :=
  fun _ context => (.ok (), change context)

/-- A construct that the platform cannot express. -/
def unsupported (construct : String) : Resolution first :=
  fun settings context =>
    (.error (.unsupportedOn settings.dialect.platform construct), context)

/-- A step inside a new scope; the scopes are put back whatever comes of it. -/
def inChild (aliasMode : AliasPolicy) (step : Resolution first) : Resolution first :=
  fun settings context =>
    if settings.depthLimit < context.depth + 1 then
      (.error (.nestingLimit (context.depth + 1) settings.depthLimit), context)
    else
      match step settings (context.enter aliasMode) with
      | (outcome, after) => (outcome, after.leave context)

/-- A step with a type expected of constants; the hint is put back whatever comes of it. -/
def withHint (hint : ValueType) (step : Resolution first) : Resolution first :=
  fun settings context =>
    match step settings { context with hint := some hint } with
    | (outcome, after) => (outcome, { after with hint := context.hint })

@[simp]
theorem pure_apply (result : first) (settings : Settings) (context : Context) :
    (Pure.pure result : Resolution first) settings context = (.ok result, context) := rfl

theorem bind_apply (step : Resolution first) (next : first → Resolution second)
    (settings : Settings) (context : Context) :
    (step >>= next) settings context =
      match step settings context with
      | (.ok result, after) => next result settings after
      | (.error error, after) => (.error error, after) := rfl

/-- The alias of a target that is about to be bound, if it gets one. -/
def allocateAlias (name : String) (given : Option String) : Resolution (Option String) :=
  fun _ context =>
    match context.current.aliasMode, given with
    | .unsupported, _ => (.ok none, context)
    | _, some aliasName =>
        if context.aliases.contains aliasName then
          (.error (.duplicateAlias aliasName), context)
        else
          (.ok (some aliasName), context.useAlias aliasName)
    | .default, none => (.ok none, context)
    | .auto, none =>
        let base := aliasStem name
        let count := context.freshCount base
        let aliasName := generatedAlias base context.current.sequence count
        (.ok (some aliasName), (context.countAlias base (count + 1)).useAlias aliasName)

/-- What the catalog says of a name, if there is a catalog. -/
def askCatalog (name : String) : Resolution (Option (Except CatalogError Entity)) :=
  fun settings context =>
    match context.catalog with
    | none => (.ok none, context)
    | some catalog =>
        let (answer, asked) := catalog.resolve settings.catalogScope name
        (.ok (some answer), { context with catalog := some asked })

/--
The entity and the known attributes of a target. An entity that the operation gives
needs no entry in the catalog.
-/
def targetEntity (target : Target) : Resolution (String × List Attribute) := do
  let answer ← askCatalog target.name
  match target.entity, answer with
  | some entity, some (.ok found) => return (entity, found.attributes)
  | some entity, _ => return (entity, [])
  | none, some (.ok found) => return (found.entityName, found.attributes)
  | none, some (.error error) => fail (.catalog error)
  | none, none => return (target.name, [])

/-- A target, without its joins, is bound in the current scope. -/
def introduce (target : Target) : Resolution BoundTarget := do
  let (entity, attributes) ← targetEntity target
  let aliasName ← allocateAlias target.name target.aliasName
  let binding : BoundTarget := ⟨target.name, entity, aliasName, attributes⟩
  modify (·.bind binding)
  return binding

/-- The target that a qualifier names. -/
def lookup (qualifier : String) : Resolution BoundTarget := do
  let context ← context
  match context.find? qualifier with
  | some binding => return binding
  | none => fail (.missingTarget qualifier)

/-- The alias of the target that a qualifier names. -/
def aliasOf (qualifier : String) : Resolution (Option String) := do
  let binding ← lookup qualifier
  return binding.aliasName

/--
The alias before the properties of a target. A target of an enclosing scope needs
one, since its bare properties would be read from the current scope.
-/
def qualifyingAlias (qualifier : String) : Resolution (Option String) := do
  let context ← context
  match context.current.find? qualifier with
  | some binding => return binding.aliasName
  | none =>
      let binding ← lookup qualifier
      match binding.aliasName with
      | some aliasName => return some aliasName
      | none => unsupported ("reference to unaliased outer target " ++ binding.name)

/-- A value is bound to a new parameter, whose name is given back. -/
def newParameter (value : Value) (valueType : ValueType) : Resolution String :=
  fun settings context =>
    let name := settings.dialect.numberedName (context.parameters.size + 1)
    (.ok name,
      { context with parameters := context.parameters.push name (.of value valueType) })

/-- A value is bound to a new parameter, whose reference is given back. -/
def newReference (value : Value) (valueType : ValueType) : Resolution String := do
  let name ← newParameter value valueType
  let dialect ← dialect
  return dialect.referenceTo name

/-- The number of parameters so far. -/
def parameterCount : Resolution Nat :=
  fun _ context => (.ok context.parameters.size, context)

/-- Every parameter after the first ones is forgotten. -/
def forgetParameters (kept : Nat) : Resolution Unit :=
  modify fun context => { context with parameters := context.parameters.truncate kept }

end Resolution
end ObjectQuery
