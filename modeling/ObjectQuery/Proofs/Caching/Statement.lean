import ObjectQuery.Proofs.Caching.Memory
import ObjectQuery.Sample

/-!
# Caches make no difference

A host compiles operations through one catalog and, in between, uses the catalog itself. With a
cache in front of the catalog every outcome is what it is without the cache. To the cache the
compilations are nothing but further questions.
-/

namespace ObjectQuery

/-- What a host does with a compiler, or with the catalog behind its back. -/
inductive SessionStep where
  | compile (operation : Operation)
  | call (call : CacheCall)

/-- The operation that is compiled in a step, if it is a compilation. -/
def SessionStep.operation? : SessionStep → Option Operation
  | .compile operation => some operation
  | .call _ => none

/-- The compilations among some steps. -/
def SessionStep.compilations (steps : List SessionStep) : List SessionStep :=
  (steps.filterMap operation?).map compile

namespace Compiler

/-- The outcomes of compilations, one after the other, and the compiler after the last step. -/
def session (compiler : Compiler) :
    List SessionStep → List (Except CompileError Statement) × Compiler
  | [] => ([], compiler)
  | .compile operation :: rest =>
      let (outcome, next) := compiler.compile operation
      let (outcomes, last) := session next rest
      (outcome :: outcomes, last)
  | .call call :: rest =>
      session { compiler with catalog := compiler.catalog.map (·.after call) } rest

theorem session_compile (compiler : Compiler) (operation : Operation) (rest : List SessionStep) :
    compiler.session (.compile operation :: rest) =
      ((compiler.compile operation).1 :: ((compiler.compile operation).2.session rest).1,
        ((compiler.compile operation).2.session rest).2) := rfl

variable {compiler : Compiler} {inner : Catalog}

/-- A session through a cache has the outcomes of its compilations through any catalog that
answers alike, and leads to the cache after some further calls. -/
theorem session_cached
    (hosts : compiler.registry.HostsHave (fun step => step.OnlyAsks compiler.settings))
    {memory : CacheMemory}
    (serves : memory.Serves inner)
    {catalog : Catalog}
    (alike : catalog.Alike inner)
    (steps : List SessionStep) :
    ∃ later,
      (compiler.withCatalog memory.catalog).session steps =
        (((compiler.withCatalog catalog).session (SessionStep.compilations steps)).1,
          compiler.withCatalog (memory.run later).catalog) := by
  induction steps generalizing memory catalog with
  | nil => exact ⟨[], rfl⟩
  | cons step rest inductionHypothesis =>
      cases step with
      | call call =>
          obtain ⟨later, ran⟩ := inductionHypothesis (serves.after call) alike
          refine ⟨call :: later, ?_⟩
          rw [CacheMemory.catalog_after] at ran
          exact ran
      | compile operation =>
          have answers : Option.Rel Catalog.Alike (some memory.catalog) (some catalog) :=
            .some (serves.alike_catalog.trans alike.symm)
          obtain ⟨questions, cached, uncached⟩ :=
            (compiler.withCatalog memory.catalog).compile_onlyAsks hosts operation answers
          -- To the cache a compilation is a sequence of questions.
          let calls : List CacheCall :=
            questions.map fun question => .resolve question.1 question.2
          have asks : memory.catalog.askedAll questions = (memory.run calls).catalog := by
            rw [CacheMemory.catalog_run, List.foldl_map]
            rfl
          have next : ((compiler.withCatalog memory.catalog).compile operation).2 =
              compiler.withCatalog (memory.run calls).catalog := by
            rw [cached, ← asks]
            rfl
          have other : (compiler.withCatalog catalog).compile operation =
              (((compiler.withCatalog memory.catalog).compile operation).1,
                compiler.withCatalog (catalog.askedAll questions)) := uncached
          obtain ⟨later, ran⟩ := inductionHypothesis (serves.run calls)
            ((Catalog.Alike.askedAll catalog questions).trans alike)
          refine ⟨calls ++ later, ?_⟩
          have first : SessionStep.compilations (.compile operation :: rest) =
              .compile operation :: SessionStep.compilations rest := rfl
          rw [session_compile, next, ran, first, session_compile, other, CacheMemory.run_append]

end Compiler

/--
Caching is transparent. After any calls on a cache in front of a catalog, the next answer is the
catalog's own; the catalog was asked for each name once in a period between invalidations, or
every time if it does not know the name; the snapshot that is taken now is never changed; and
every session has, through the cache, the outcomes of its compilations without it. The calls are
done by a memory that shares its tables, which at each point is the cache.
-/
theorem Catalog.withCache_transparent (inner : Catalog) (calls : List CacheCall) :
    let memory := (CacheMemory.start inner).run calls
    memory.catalog = calls.foldl Catalog.after inner.withCache ∧
      (∀ scope name,
        (memory.resolve scope name).1 = (inner.resolve scope name).1 ∧
        (memory.catalog.resolve scope name).1 = (inner.resolve scope name).1) ∧
      memory.catalog.inner = inner.askedAll memory.asked ∧
      (∀ scope name, memory.asked.count (scope, name) =
        ((CacheMemory.periods calls).map (CacheMemory.timesAsked inner scope name)).sum) ∧
      (memory.catalog.snapshot? = some memory.table ∧
        ∀ later, (memory.snapshot.run later).tables memory.current = memory.table) ∧
      ∀ compiler : Compiler,
        compiler.registry.HostsHave (fun step => step.OnlyAsks compiler.settings) →
        ∀ steps, ∃ later,
          (compiler.withCatalog memory.catalog).session steps =
            (((compiler.withCatalog inner).session (SessionStep.compilations steps)).1,
              compiler.withCatalog (memory.run later).catalog) := by
  intro memory
  have serves : memory.Serves inner := (CacheMemory.Serves.start inner).run calls
  refine ⟨?_, fun scope name => ⟨?_, ?_⟩, ?_, fun scope name => ?_, ⟨rfl, ?_⟩, ?_⟩
  · exact CacheMemory.catalog_run _ calls
  · exact (memory.resolve_fst scope name).trans (serves.alike_catalog.answers scope name)
  · exact serves.alike_catalog.answers scope name
  · exact serves.inner
  · obtain ⟨first, others, split⟩ := CacheMemory.exists_periods calls
    have counted := CacheMemory.count_run scope name (CacheMemory.Serves.start inner) split
    have all : (CacheMemory.start inner).timesLeft inner scope name first =
        CacheMemory.timesAsked inner scope name first := by
      simp [CacheMemory.timesLeft, CacheMemory.start, CacheMemory.table]
    have nothing : (CacheMemory.start inner).asked = [] := rfl
    rw [counted, all, nothing, split, List.map_cons, List.sum_cons, List.count_nil, Nat.zero_add]
  · exact memory.tables_snapshot
  · intro compiler hosts steps
    exact compiler.session_cached hosts serves (.refl inner) steps

open Sample in
/-- A shop's catalog is asked twice for orders, once in each period, and each time for ghosts; a
resolver of the host takes part in the compilations. -/
theorem Catalog.shop_withCache_transparent :
    let inner : Catalog := .counting CountingCatalog.empty.withShopSchema
    let orders : CacheCall := .resolve "default" "order"
    let ghosts : CacheCall := .resolve "default" "ghost"
    let memory := (CacheMemory.start inner).run
      [orders, .snapshot, orders, ghosts, ghosts, .invalidate, orders]
    let compiler : Compiler :=
      ⟨.standard .hibernate, (Configuration.standard .hibernate).dialect,
        Resolvers.standard.register (.scripted .path .fragment (some "row") [] .pass), none⟩
    memory.asked.count ("default", "order") = 2 ∧
      memory.asked.count ("default", "ghost") = 2 ∧
      (memory.resolve "default" "ghost").1 = .error (.entityNotFound "ghost" "default") ∧
      (memory.snapshot.run [ghosts, orders, .invalidate]).tables memory.current = memory.table ∧
      ((compiler.withCatalog memory.catalog).session
          [.compile openOrders, .call .invalidate, .compile purgeCancelled]).1 =
        ((compiler.withCatalog inner).session [.compile openOrders, .compile purgeCancelled]).1 := by
  intro inner orders ghosts memory compiler
  obtain ⟨-, answers, -, counts, ⟨-, snapshots⟩, sessions⟩ := inner.withCache_transparent
    [orders, .snapshot, orders, ghosts, ghosts, .invalidate, orders]
  have hosts : compiler.registry.HostsHave (fun step => step.OnlyAsks compiler.settings) := by
    intro resolver member expression
    obtain rfl : resolver = .scripted .path .fragment (some "row") [] .pass := by
      simpa [compiler, Resolvers.register, Resolvers.standard] using member
    exact Resolution.hereditary_onlyAsks.scripted _ _ _ _ _ expression
  obtain ⟨later, same⟩ := sessions compiler hosts
    [.compile openOrders, .call .invalidate, .compile purgeCancelled]
  refine ⟨?_, ?_, ?_, ?_, ?_⟩
  · exact (counts _ _).trans (by decide)
  · exact (counts _ _).trans (by decide)
  · exact (answers _ _).1.trans (by rfl)
  · exact snapshots _
  · have compilations : SessionStep.compilations
        [.compile openOrders, .call .invalidate, .compile purgeCancelled] =
          [.compile openOrders, .compile purgeCancelled] := rfl
    rw [same, compilations]

end ObjectQuery
