import ObjectQuery.Compiler.Configuration
import ObjectQuery.Composition.Operation

/-!
# Compilers

A compiler holds what outlives a statement: configuration, dialect, resolvers and
catalog. Each operation is compiled in a fresh context, so that the parameters of
every statement are counted from one; only the catalog remembers that it was asked.
-/

namespace ObjectQuery

/-- A statement with all that is needed to run it and to read its rows. -/
structure Statement where
  kind : OperationKind
  text : String
  parameters : ParameterTable
  /-- The entries of the select list; writes have none. -/
  selections : List Selection
  shape : Option RowShape
  converter : Option RowReader
  limit : Option UInt64
  offset : Option UInt64
  lockMode : LockMode
  hints : Hints

namespace Statement

/-- Whether the statement changes rows. -/
def isWrite (statement : Statement) : Bool :=
  statement.kind.isWrite

/-- The reading of a row; a write gives none. -/
def read (statement : Statement) (row : Row) : Except RowError RowContent :=
  match statement.converter with
  | some converter => converter.read row
  | none => .error (.shapeMismatch "no" row.shapeLabel)

end Statement

/-- Why a compilation fails. -/
inductive CompileError where
  | resolve (error : ResolutionError)
  | config (error : ConfigurationError)
  deriving DecidableEq, Repr

namespace CompileError

/-- The message of a compilation error. -/
def message : CompileError → String
  | .resolve error => error.message
  | .config error => error.message

/-- Whether another shape of the operation may do. -/
def isUnsupported : CompileError → Bool
  | .resolve error => error.isUnsupported
  | .config _ => false

/-- How bad a compilation error is. -/
def severity : CompileError → Severity
  | .resolve error => error.severity
  | .config _ => .bug

end CompileError

/-- A compiler of operations. -/
structure Compiler where
  config : Configuration
  dialect : Dialect
  registry : Resolvers
  catalog : Option Catalog

namespace Compiler

/-- A compiler with the library's own resolvers and no catalog. -/
def create (config : Configuration) : Except CompileError Compiler :=
  match config.validate with
  | .ok () => .ok ⟨config, config.dialect, Resolvers.standard, none⟩
  | .error error => .error (.config error)

/-- The compiler with names resolved through a catalog. -/
def withCatalog (compiler : Compiler) (catalog : Catalog) : Compiler :=
  { compiler with catalog := some catalog }

/-- The compiler with other resolvers. -/
def withResolvers (compiler : Compiler) (registry : Resolvers) : Compiler :=
  { compiler with registry }

/-- The compiler with other function spellings. -/
def withFunctions (compiler : Compiler) (functions : SpellingRegistry) : Compiler :=
  { compiler with dialect := { compiler.dialect with functions } }

/-- Whether the target of a kind of operation may have an alias. -/
def aliasesTarget (compiler : Compiler) : OperationKind → Bool
  | .update => compiler.dialect.supports .updateTargetAlias
  | .delete => compiler.dialect.supports .deleteTargetAlias
  | .select | .insert => true

/-- What stays the same while the compiler writes a statement. -/
def settings (compiler : Compiler) : Settings :=
  ⟨compiler.dialect, compiler.config.catalogScope, compiler.config.maxDepth⟩

/-- The context in which the compiler starts on an operation. -/
def context (compiler : Compiler) (operation : Operation) : Context :=
  Context.root
    (compiler.config.aliasMode.forStatement operation.kind
      (compiler.aliasesTarget operation.kind))
    compiler.catalog

/-- The statement of a composed operation with its parameters. -/
def statement (operation : Operation) (composed : StatementText) (parameters : ParameterTable) :
    Statement :=
  { kind := operation.kind
    text := composed.text
    parameters
    selections := (composed.plan.map ProjectionPlan.selections).getD []
    shape := composed.plan.map ProjectionPlan.shape
    converter := composed.plan.map ProjectionPlan.converter
    limit := operation.limit
    offset := operation.offset
    lockMode := operation.lockMode
    hints := operation.hints }

/-- The statement of an operation, and the compiler for the next one. -/
def compile (compiler : Compiler) (operation : Operation) :
    Except CompileError Statement × Compiler :=
  match operation.compose compiler.registry compiler.settings (compiler.context operation) with
  | (.ok composed, after) =>
      (.ok (statement operation composed after.parameters),
        { compiler with catalog := after.catalog })
  | (.error error, after) => (.error (.resolve error), { compiler with catalog := after.catalog })

/-- A configuration makes a compiler if it is accepted. -/
theorem create_eq_ok_iff {config : Configuration} {compiler : Compiler} :
    create config = .ok compiler ↔
      config.validate = .ok () ∧ compiler = ⟨config, config.dialect, Resolvers.standard, none⟩ := by
  unfold create
  split
  · next valid => simp [valid, eq_comm]
  · next error invalid => simp [invalid]

/-- Resolvers that compose an operation alike make no difference to its compilation. -/
theorem compile_withResolvers
    {compiler : Compiler}
    {operation : Operation}
    {registry : Resolvers}
    (same : operation.compose registry compiler.settings (compiler.context operation) =
      operation.compose compiler.registry compiler.settings (compiler.context operation)) :
    (compiler.withResolvers registry).compile operation =
      ((compiler.compile operation).1, (compiler.compile operation).2.withResolvers registry) := by
  have composed : operation.compose (compiler.withResolvers registry).registry
      (compiler.withResolvers registry).settings
      ((compiler.withResolvers registry).context operation) =
        operation.compose compiler.registry compiler.settings (compiler.context operation) := same
  simp only [compile, composed]
  split
  · rfl
  · rfl

/-- A compiled statement comes from a composition that succeeded. -/
theorem exists_composed
    {compiler : Compiler}
    {operation : Operation}
    {statement : Statement}
    (compiled : (compiler.compile operation).1 = .ok statement) :
    ∃ composed after,
      operation.compose compiler.registry compiler.settings (compiler.context operation) =
          (.ok composed, after) ∧
        statement = Compiler.statement operation composed after.parameters := by
  simp only [compile] at compiled
  split at compiled
  · next composed after run => exact ⟨composed, after, run, by simpa using compiled.symm⟩
  · simp at compiled

end Compiler
end ObjectQuery
