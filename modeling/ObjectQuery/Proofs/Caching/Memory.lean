import ObjectQuery.Proofs.Caching.Answers

/-!
# Tables that are shared

A cache hands its table out without copying it. The table in hand is written in place as long
as nobody else holds it; else a copy is written, which then is the one in hand. In the memory
of such a cache the tables have places, a snapshot holds a place, and what stands in a place
that is held never changes again. Apart from that the memory is the cache of the same table:
each call does to the one what it does to the other.

The memory also notes what the catalog behind the cache is asked.
-/

namespace ObjectQuery

/-- A call on a cache. -/
inductive CacheCall where
  | resolve (scope name : String)
  | invalidate
  | snapshot
  deriving DecidableEq

/-- A catalog after a call, which means something to a cache only unless it is a question. -/
def Catalog.after (catalog : Catalog) : CacheCall → Catalog
  | .resolve scope name => catalog.asked scope name
  | .invalidate => catalog.invalidate
  | .snapshot => catalog

/-- The tables of a cache by their places, and the catalog behind it. -/
structure CacheMemory where
  tables : Nat → RememberedEntities
  /-- The first place that was never used. -/
  fresh : Nat
  /-- The place of the table in hand. -/
  current : Nat
  /-- The places that snapshots hold. -/
  held : List Nat
  inner : Catalog
  /-- What the catalog was asked, in order. -/
  asked : List (String × String)
  current_lt : current < fresh
  held_lt : ∀ place ∈ held, place < fresh

namespace CacheMemory

/-- An empty cache in front of a catalog. -/
def start (inner : Catalog) : CacheMemory where
  tables _ := []
  fresh := 1
  current := 0
  held := []
  inner
  asked := []
  current_lt := Nat.one_pos
  held_lt := nofun

/-- The table in hand. -/
def table (memory : CacheMemory) : RememberedEntities :=
  memory.tables memory.current

/-- The cache of the table in hand. -/
def catalog (memory : CacheMemory) : Catalog :=
  .cached memory.table memory.inner

/-- Another table in hand, in a place of its own. -/
def replace (memory : CacheMemory) (entries : RememberedEntities) : CacheMemory :=
  { memory with
    tables := Function.update memory.tables memory.fresh entries
    fresh := memory.fresh + 1
    current := memory.fresh
    current_lt := Nat.lt_succ_self _
    held_lt := fun place member => Nat.lt_succ_of_lt (memory.held_lt place member) }

/-- The table in hand with one more entry: in place if no snapshot holds it, else in a copy. -/
def remember (memory : CacheMemory) (key : String × String) (entity : Entity) : CacheMemory :=
  let entries := Table.put key entity memory.table
  if memory.current ∈ memory.held then
    memory.replace entries
  else
    { memory with tables := Function.update memory.tables memory.current entries }

/-- The memory after the catalog behind the cache was asked. -/
def ask (memory : CacheMemory) (scope name : String) : CacheMemory :=
  { memory with
    inner := memory.inner.asked scope name
    asked := memory.asked ++ [(scope, name)] }

/-- The answer for a name, and the memory after the question. -/
def resolve (memory : CacheMemory) (scope name : String) :
    Except CatalogError Entity × CacheMemory :=
  match Table.find? (scope, name) memory.table with
  | some entity => (.ok entity, memory)
  | none =>
      match memory.inner.answer scope name with
      | .ok entity => (.ok entity, (memory.ask scope name).remember (scope, name) entity)
      | .error error => (.error error, memory.ask scope name)

/-- Nothing is remembered in a fresh table. -/
def invalidate (memory : CacheMemory) : CacheMemory :=
  memory.replace []

/-- The table in hand is held; its place is the snapshot. -/
def snapshot (memory : CacheMemory) : CacheMemory :=
  { memory with
    held := memory.current :: memory.held
    held_lt := List.forall_mem_cons.mpr ⟨memory.current_lt, memory.held_lt⟩ }

/-- The memory after a call. -/
def after (memory : CacheMemory) : CacheCall → CacheMemory
  | .resolve scope name => (memory.resolve scope name).2
  | .invalidate => memory.invalidate
  | .snapshot => memory.snapshot

/-- The memory after some calls. -/
def run (memory : CacheMemory) (calls : List CacheCall) : CacheMemory :=
  calls.foldl after memory

/-! ## The memory as a cache -/

@[simp] theorem run_nil (memory : CacheMemory) : memory.run [] = memory := rfl

@[simp] theorem run_cons (memory : CacheMemory) (call : CacheCall) (calls : List CacheCall) :
    memory.run (call :: calls) = (memory.after call).run calls := rfl

theorem run_append (memory : CacheMemory) (calls later : List CacheCall) :
    memory.run (calls ++ later) = (memory.run calls).run later :=
  List.foldl_append

@[simp] theorem catalog_start (inner : Catalog) : (start inner).catalog = inner.withCache := rfl

@[simp] theorem catalog_replace (memory : CacheMemory) (entries : RememberedEntities) :
    (memory.replace entries).catalog = .cached entries memory.inner := by
  simp [catalog, table, replace]

@[simp] theorem catalog_remember
    (memory : CacheMemory)
    (key : String × String)
    (entity : Entity) :
    (memory.remember key entity).catalog =
      .cached (Table.put key entity memory.table) memory.inner := by
  simp only [remember]
  split
  · exact catalog_replace _ _
  · simp [catalog, table]

@[simp] theorem catalog_ask (memory : CacheMemory) (scope name : String) :
    (memory.ask scope name).catalog = .cached memory.table (memory.inner.asked scope name) := rfl

/-- A question is answered as the cache answers it. -/
theorem resolve_fst (memory : CacheMemory) (scope name : String) :
    (memory.resolve scope name).1 = memory.catalog.answer scope name := by
  rw [catalog, Catalog.answer_cached, resolve]
  cases Table.find? (scope, name) memory.table with
  | some entity => rfl
  | none => cases memory.inner.answer scope name <;> rfl

/-- A call does to the memory what it does to the cache. -/
theorem catalog_after (memory : CacheMemory) (call : CacheCall) :
    (memory.after call).catalog = memory.catalog.after call := by
  cases call with
  | resolve scope name =>
      rw [after, Catalog.after, resolve]
      rw [show memory.catalog = .cached memory.table memory.inner from rfl, Catalog.asked_cached]
      cases Table.find? (scope, name) memory.table with
      | some entity => rfl
      | none =>
          cases memory.inner.answer scope name with
          | error error => exact catalog_ask memory scope name
          | ok entity => exact catalog_remember (memory.ask scope name) (scope, name) entity
  | invalidate => exact catalog_replace memory []
  | snapshot => rfl

/-- Calls do to the memory what they do to the cache. -/
theorem catalog_run (memory : CacheMemory) (calls : List CacheCall) :
    (memory.run calls).catalog = calls.foldl Catalog.after memory.catalog := by
  induction calls generalizing memory with
  | nil => rfl
  | cons call rest inductionHypothesis =>
      rw [run_cons, inductionHypothesis, catalog_after, List.foldl_cons]

/-! ## Snapshots -/

/-- Whatever is held in one memory is held, with the same table, in another one. -/
def Keeps (before after : CacheMemory) : Prop :=
  ∀ place ∈ before.held, place ∈ after.held ∧ after.tables place = before.tables place

theorem keeps_replace (memory : CacheMemory) (entries : RememberedEntities) :
    memory.Keeps (memory.replace entries) := by
  intro place member
  refine ⟨member, ?_⟩
  have old : place ≠ memory.fresh := (memory.held_lt place member).ne
  simp [replace, old]

theorem keeps_remember (memory : CacheMemory) (key : String × String) (entity : Entity) :
    memory.Keeps (memory.remember key entity) := by
  simp only [remember]
  split
  · exact memory.keeps_replace _
  · next free =>
      intro place member
      have other : place ≠ memory.current := fun same => free (same ▸ member)
      exact ⟨member, by simp [other]⟩

/-- No call changes a table that is held. -/
theorem keeps_after (memory : CacheMemory) (call : CacheCall) :
    memory.Keeps (memory.after call) := by
  cases call with
  | resolve scope name =>
      rw [after, resolve]
      split
      · exact fun place member => ⟨member, rfl⟩
      · split
        · exact (memory.ask scope name).keeps_remember _ _
        · exact fun place member => ⟨member, rfl⟩
  | invalidate => exact memory.keeps_replace []
  | snapshot => exact fun place member => ⟨List.mem_cons_of_mem _ member, rfl⟩

/-- No sequence of calls changes a table that is held. -/
theorem keeps_run (memory : CacheMemory) (calls : List CacheCall) :
    memory.Keeps (memory.run calls) := by
  induction calls generalizing memory with
  | nil => exact fun place member => ⟨member, rfl⟩
  | cons call rest inductionHypothesis =>
      intro place member
      obtain ⟨held, same⟩ := memory.keeps_after call place member
      obtain ⟨held', same'⟩ := inductionHypothesis (memory.after call) place held
      exact ⟨held', same'.trans same⟩

/-- What a snapshot shows stays as it was when the snapshot was taken. -/
theorem tables_snapshot (memory : CacheMemory) (later : List CacheCall) :
    (memory.snapshot.run later).tables memory.current = memory.table :=
  (memory.snapshot.keeps_run later memory.current List.mem_cons_self).2

/-! ## Questions to the catalog behind the cache -/

/-- What the catalog is asked by a call. -/
def asks (memory : CacheMemory) : CacheCall → List (String × String)
  | .resolve scope name =>
      if (Table.find? (scope, name) memory.table).isSome then [] else [(scope, name)]
  | .invalidate | .snapshot => []

theorem asked_after (memory : CacheMemory) (call : CacheCall) :
    (memory.after call).asked = memory.asked ++ memory.asks call := by
  cases call with
  | resolve scope name =>
      rw [after, resolve, asks]
      cases Table.find? (scope, name) memory.table with
      | some entity => simp
      | none =>
          cases memory.inner.answer scope name with
          | error error => rfl
          | ok entity =>
              simp only [remember]
              split <;> rfl
  | invalidate | snapshot => exact (List.append_nil _).symm

theorem inner_after (memory : CacheMemory) (call : CacheCall) :
    (memory.after call).inner = memory.inner.askedAll (memory.asks call) := by
  cases call with
  | resolve scope name =>
      rw [after, resolve, asks]
      cases Table.find? (scope, name) memory.table with
      | some entity => rfl
      | none =>
          cases memory.inner.answer scope name with
          | error error => rfl
          | ok entity =>
              simp only [remember]
              split <;> rfl
  | invalidate | snapshot => rfl

/-- The table after a call is the one of the cache after the call. -/
theorem table_resolve (memory : CacheMemory) (scope name : String) :
    (memory.after (.resolve scope name)).table =
      match Table.find? (scope, name) memory.table, memory.inner.answer scope name with
      | none, .ok entity => Table.put (scope, name) entity memory.table
      | _, _ => memory.table := by
  have caches := memory.catalog_after (.resolve scope name)
  rw [Catalog.after, show memory.catalog = .cached memory.table memory.inner from rfl,
    Catalog.asked_cached] at caches
  cases known : Table.find? (scope, name) memory.table with
  | some entity =>
      rw [known] at caches
      exact (Catalog.cached.inj caches).1
  | none =>
      rw [known] at caches
      cases answers : memory.inner.answer scope name with
      | error error =>
          rw [answers] at caches
          exact (Catalog.cached.inj caches).1
      | ok entity =>
          rw [answers] at caches
          exact (Catalog.cached.inj caches).1

@[simp] theorem table_invalidate (memory : CacheMemory) :
    (memory.after .invalidate).table = [] := by
  simp [after, invalidate, replace, table]

/-- A memory that answers for a catalog: behind it is that catalog after the questions noted, and
it remembers nothing but answers of it. -/
structure Serves (memory : CacheMemory) (catalog : Catalog) : Prop where
  inner : memory.inner = catalog.askedAll memory.asked
  faithful : memory.table.Faithful catalog

namespace Serves

variable {memory : CacheMemory} {catalog : Catalog}

theorem start (catalog : Catalog) : (start catalog).Serves catalog :=
  ⟨rfl, .nil catalog⟩

theorem alike (serves : memory.Serves catalog) : memory.inner.Alike catalog := by
  rw [serves.inner]
  exact .askedAll catalog memory.asked

/-- The cache of the memory answers like the catalog. -/
theorem alike_catalog (serves : memory.Serves catalog) : memory.catalog.Alike catalog :=
  (serves.faithful.of_alike serves.alike).alike.trans serves.alike

theorem after (serves : memory.Serves catalog) (call : CacheCall) :
    (memory.after call).Serves catalog where
  inner := by rw [inner_after, asked_after, Catalog.askedAll_append, serves.inner]
  faithful := by
    cases call with
    | resolve scope name =>
        rw [table_resolve]
        split
        · next entity unknown answered =>
            rw [serves.alike.answers] at answered
            exact serves.faithful.put answered
        · exact serves.faithful
    | invalidate =>
        rw [table_invalidate]
        exact .nil catalog
    | snapshot => exact serves.faithful

theorem run (serves : memory.Serves catalog) (calls : List CacheCall) :
    (memory.run calls).Serves catalog := by
  induction calls generalizing memory with
  | nil => exact serves
  | cons call rest inductionHypothesis => exact inductionHypothesis (serves.after call)

end Serves

/-! ## How often the catalog is asked -/

/-- How often a catalog is asked for a name in a period without invalidations: once if it knows
the name, and each time if it does not. -/
def timesAsked (catalog : Catalog) (scope name : String) (period : List CacheCall) : Nat :=
  match catalog.answer scope name with
  | .ok _ => min 1 (period.count (.resolve scope name))
  | .error _ => period.count (.resolve scope name)

@[simp] theorem timesAsked_nil (catalog : Catalog) (scope name : String) :
    timesAsked catalog scope name [] = 0 := by
  rw [timesAsked]
  split <;> simp

/-- The periods into which invalidations divide some calls. -/
def periods (calls : List CacheCall) : List (List CacheCall) :=
  calls.splitOnP (· == .invalidate)

theorem exists_periods (calls : List CacheCall) :
    ∃ first others, periods calls = first :: others :=
  List.exists_cons_of_ne_nil (List.splitOnP_ne_nil _ calls)

theorem periods_invalidate (rest : List CacheCall) :
    periods (.invalidate :: rest) = [] :: periods rest := by
  simp [periods, List.splitOnP_cons_eq_if_modifyHead]

theorem periods_cons
    {call : CacheCall}
    (continues : call ≠ .invalidate)
    {rest first : List CacheCall}
    {others : List (List CacheCall)}
    (split : periods rest = first :: others) :
    periods (call :: rest) = (call :: first) :: others := by
  rw [periods] at split ⊢
  simp [List.splitOnP_cons_eq_if_modifyHead, continues, split]

section Counting

variable {catalog : Catalog} (scope name : String)

/-- How often the catalog is asked in what is left of a period: not at all once it is known. -/
def timesLeft
    (memory : CacheMemory)
    (catalog : Catalog)
    (scope name : String)
    (period : List CacheCall) : Nat :=
  if (Table.find? (scope, name) memory.table).isSome then 0
  else timesAsked catalog scope name period

/-- A call that is no invalidation is asked for at once, or leaves as much to be asked as before. -/
theorem timesLeft_after
    {memory : CacheMemory}
    (serves : memory.Serves catalog)
    {call : CacheCall}
    (continues : call ≠ .invalidate)
    (period : List CacheCall) :
    (memory.asks call).count (scope, name) +
        (memory.after call).timesLeft catalog scope name period =
      memory.timesLeft catalog scope name (call :: period) := by
  cases call with
  | invalidate => exact absurd rfl continues
  | snapshot =>
      have same : timesAsked catalog scope name (.snapshot :: period) =
          timesAsked catalog scope name period := by
        simp [timesAsked]
      rw [timesLeft, timesLeft, same, asks, List.count_nil, Nat.zero_add]
      rfl
  | resolve scope' name' =>
      have answers := serves.alike.answers scope' name'
      by_cases same : (scope', name') = (scope, name)
      · obtain ⟨rfl, rfl⟩ := Prod.mk.inj same
        cases known : Table.find? (scope', name') memory.table with
        | some entity => simp [asks, timesLeft, table_resolve, known]
        | none =>
            cases answered : catalog.answer scope' name' with
            | ok entity =>
                simp [asks, timesLeft, table_resolve, known, answers, answered, timesAsked,
                  Table.find?_put_self]
            | error error =>
                simp [asks, timesLeft, table_resolve, known, answers, answered, timesAsked,
                  Nat.add_comm]
      · have unasked : (memory.asks (.resolve scope' name')).count (scope, name) = 0 := by
          rw [asks]
          split <;> simp [same]
        have asFar : Table.find? (scope, name) (memory.after (.resolve scope' name')).table =
            Table.find? (scope, name) memory.table := by
          rw [table_resolve]
          split
          · exact Table.find?_put_of_ne same _ _
          · rfl
        have others : CacheCall.resolve scope' name' ≠ .resolve scope name := by
          simpa using same
        simp [timesLeft, unasked, asFar, timesAsked, List.count_cons_of_ne others]

/-- What is noted of a name after some calls: what was noted before, what is left to ask in the
first period, and what is asked in the others. -/
theorem count_run
    {memory : CacheMemory}
    (serves : memory.Serves catalog)
    {calls first : List CacheCall}
    {others : List (List CacheCall)}
    (split : periods calls = first :: others) :
    (memory.run calls).asked.count (scope, name) =
      memory.asked.count (scope, name) + memory.timesLeft catalog scope name first +
        (others.map (timesAsked catalog scope name)).sum := by
  induction calls generalizing memory first others with
  | nil =>
      obtain ⟨rfl, rfl⟩ : [] = first ∧ [] = others := by simpa [periods] using split
      simp [timesLeft]
  | cons call rest inductionHypothesis =>
      obtain ⟨second, later, tail⟩ := exists_periods rest
      have noted := inductionHypothesis (serves.after call) tail
      rw [run_cons, noted, asked_after, List.count_append]
      by_cases ends : call = .invalidate
      · subst ends
        rw [periods_invalidate, tail] at split
        obtain ⟨rfl, rfl⟩ := List.cons.inj split
        have none_left : memory.timesLeft catalog scope name [] = 0 := by simp [timesLeft]
        have all_left : (memory.after .invalidate).timesLeft catalog scope name second =
            timesAsked catalog scope name second := by
          simp [timesLeft]
        rw [none_left, all_left, asks, List.count_nil, List.map_cons, List.sum_cons]
        omega
      · rw [periods_cons ends tail] at split
        obtain ⟨rfl, rfl⟩ := List.cons.inj split
        rw [← timesLeft_after scope name serves ends second]
        omega

end Counting

end CacheMemory
end ObjectQuery
