import ObjectQuery.Compiler.Basic
import ObjectQuery.Proofs.Aliases.Generated
import ObjectQuery.Proofs.Sketch.Effect
import ObjectQuery.Proofs.Sketch.Statement
import ObjectQuery.Sample

/-!
# Aliases of a statement

The aliases that a run records are those of the targets it binds, in the order of binding.
They are identifiers and pairwise distinct: a given alias is refused when it is used, and a
made-up one is free. Where no alias is given, the made-up ones never meet, and each counts
the targets with its base that were bound before it in its scope.
-/

namespace ObjectQuery

open Resolution Text

/-! ## Distinct identifiers -/

/-- The aliases of some targets, for those that have one. -/
def Resident.aliases (residents : List Resident) : List String :=
  residents.filterMap fun resident => resident.target.aliasName

theorem Resident.aliases_append (residents residents' : List Resident) :
    Resident.aliases (residents ++ residents') =
      Resident.aliases residents ++ Resident.aliases residents' :=
  List.filterMap_append

theorem Resident.aliases_singleton (scope : Nat) (binding : BoundTarget) :
    Resident.aliases [⟨scope, binding⟩] = binding.aliasName.toList := by
  cases given : binding.aliasName <;> simp [Resident.aliases, given]

namespace AliasChoice

variable
  {context chosen : Context}
  {name : String}
  {given aliasName : Option String}
  (choice : AliasChoice context name given aliasName chosen)

include choice

theorem aliases : chosen.aliases = context.aliases ++ aliasName.toList := by
  cases choice <;> simp [Context.useAlias, Context.countAlias]

theorem unused : ∀ found ∈ aliasName, found ∉ context.aliases := by
  cases choice with
  | unsupported mode => simp
  | given mode unused => simpa using unused
  | default mode => simp
  | auto mode => simpa using (context.isFresh_freshCount _).unused

theorem isIdentifier
    (valid : Validation.targetNames name given = .ok ()) :
    ∀ found ∈ aliasName, Text.isIdentifier found = true := by
  cases choice with
  | unsupported mode => simp
  | given mode unused =>
      simp only [Validation.targetNames, Validation.aliasName, Validation.andThen_ok_iff,
        Validation.require_ok_iff] at valid
      simpa using valid.2.2
  | default mode => simp
  | auto mode => simpa using isIdentifier_generatedAlias name _ _

end AliasChoice

/-- The recorded aliases are those of the bound targets, distinct identifiers all of them. -/
structure DistinctAliases (past : List Resident) (context : Context) : Prop where
  owned : context.aliases = Resident.aliases past
  distinct : context.aliases.Nodup
  identifiers : ∀ aliasName ∈ context.aliases, isIdentifier aliasName = true

theorem distinctAliases_invariant : RunInvariant (fun _ => True) DistinctAliases where
  unseen holds _ _ aliases _ := by
    obtain ⟨owned, distinct, identifiers⟩ := holds
    exact ⟨aliases.trans owned, aliases ▸ distinct, aliases ▸ identifiers⟩
  declare {past before chosen target binding} holds _ valid choice _ := by
    obtain ⟨owned, distinct, identifiers⟩ := holds
    refine ⟨?_, ?_, ?_⟩
    · rw [Context.bind, choice.aliases, owned, Resident.aliases_append,
        Resident.aliases_singleton]
    · rw [Context.bind, choice.aliases, List.nodup_append]
      refine ⟨distinct, ?_, ?_⟩
      · cases binding.aliasName <;> simp
      · rintro used among _ chosenAlias rfl
        exact choice.unused used (by simpa using chosenAlias) among
    · intro aliasName member
      rw [Context.bind, choice.aliases, List.mem_append] at member
      rcases member with earlier | chosenAlias
      · exact identifiers aliasName earlier
      · exact choice.isIdentifier valid aliasName (by simpa using chosenAlias)
  enter holds := ⟨holds.owned, holds.distinct, holds.identifiers⟩
  leave holds _ := ⟨holds.owned, holds.distinct, holds.identifiers⟩

/-! ## Counted aliases -/

/-- The policy of a scope: a sub-query may always alias its targets. -/
def AliasPolicy.ofScope (mode : AliasPolicy) : Nat → AliasPolicy
  | 0 => mode
  | _ + 1 => BuiltIn.childMode mode

/-- How many targets of a scope have a base. -/
def Resident.occurrences (residents : List Resident) (scope : Nat) (base : String) : Nat :=
  residents.countP fun resident =>
    resident.scope = scope ∧ aliasStem resident.target.name = base

/--
The alias of a target that is given none, after the targets bound before it: the base, the
number of the scope, and how many targets of the scope had the base before.
-/
def Resident.countedAlias (mode : AliasPolicy) (earlier : List Resident) (resident : Resident) :
    Option String :=
  match mode.ofScope resident.scope with
  | .auto =>
      let base := aliasStem resident.target.name
      some (generatedAlias base resident.scope (occurrences earlier resident.scope base))
  | .default | .unsupported => none

namespace AliasPolicy

theorem ofScope_of_pos (mode : AliasPolicy) {scope : Nat} (positive : 0 < scope) :
    mode.ofScope scope = BuiltIn.childMode mode := by
  cases scope with
  | zero => simp at positive
  | succ scope => rfl

theorem childMode_ofScope (mode : AliasPolicy) (scope : Nat) :
    BuiltIn.childMode (mode.ofScope scope) = BuiltIn.childMode mode := by
  cases scope with
  | zero => rfl
  | succ scope => cases mode <;> rfl

end AliasPolicy

namespace Resident

variable {residents : List Resident} {scope : Nat} {base : String}

theorem occurrences_append_singleton (resident : Resident) :
    occurrences (residents ++ [resident]) scope base =
      occurrences residents scope base +
        if resident.scope = scope ∧ aliasStem resident.target.name = base then 1 else 0 := by
  simp [occurrences, List.countP_append, List.countP_singleton]

theorem occurrences_of_other_scope (other : ∀ resident ∈ residents, resident.scope ≠ scope) :
    occurrences residents scope base = 0 := by
  rw [occurrences, List.countP_eq_zero]
  intro resident member
  simp [other resident member]

/-- A target counts itself for those after it. -/
theorem occurrences_lt (earlier : List Resident) (resident : Resident) (later : List Resident) :
    occurrences earlier resident.scope (aliasStem resident.target.name) <
      occurrences (earlier ++ resident :: later) resident.scope
        (aliasStem resident.target.name) := by
  simp only [occurrences, List.countP_append, List.countP_cons]
  simp

/-- Every target has the alias that is counted for it. -/
def Counted (mode : AliasPolicy) (residents : List Resident) : Prop :=
  ∀ earlier resident later, residents = earlier ++ resident :: later →
    resident.target.aliasName = countedAlias mode earlier resident

theorem Counted.append_singleton
    {mode : AliasPolicy}
    {resident : Resident}
    (counted : Counted mode residents)
    (last : resident.target.aliasName = countedAlias mode residents resident) :
    Counted mode (residents ++ [resident]) := by
  intro earlier found later split
  rcases List.eq_nil_or_concat later with rfl | ⟨front, final, rfl⟩
  · obtain ⟨rfl, only⟩ := List.append_inj' split rfl
    obtain rfl := List.singleton_inj.mp only
    exact last
  · rw [List.concat_eq_append, ← List.cons_append, ← List.append_assoc] at split
    obtain ⟨rfl, -⟩ := List.append_inj' split rfl
    exact counted earlier found front rfl

/-- A made-up alias with a count that is not used up yet is free. -/
theorem Counted.unused
    {mode : AliasPolicy}
    (counted : Counted mode residents) :
    generatedAlias base scope (occurrences residents scope base) ∉ aliases residents := by
  intro used
  obtain ⟨resident, member, found⟩ := List.mem_filterMap.mp used
  obtain ⟨earlier, later, rfl⟩ := List.append_of_mem member
  rw [counted earlier resident later rfl, countedAlias] at found
  split at found
  · obtain ⟨rfl, rfl, counts⟩ := generatedAlias_inj (Option.some.inj found)
    exact absurd counts (Nat.ne_of_lt (occurrences_lt earlier resident later))
  · simp at found
  · simp at found

end Resident

/--
Without given aliases every target has its counted alias, and the open scopes, whose numbers
differ, have counted their targets.
-/
structure CountedAliases (mode : AliasPolicy) (past : List Resident) (context : Context) :
    Prop where
  counted : Resident.Counted mode past
  owned : context.aliases = Resident.aliases past
  modes :
    ∀ scope ∈ context.current :: context.enclosing, scope.aliasMode = mode.ofScope scope.sequence
  counts :
    ∀ scope ∈ context.current :: context.enclosing, scope.aliasMode = .auto →
      ∀ base, scope.aliasCount base = Resident.occurrences past scope.sequence base
  apart : ((context.current :: context.enclosing).map Scope.sequence).Nodup
  opened :
    ∀ scope ∈ context.current :: context.enclosing, scope.sequence < context.nextSequence
  placed : ∀ resident ∈ past, resident.scope < context.nextSequence

namespace CountedAliases

variable {mode : AliasPolicy} {past : List Resident} {before after chosen : Context}

theorem root (mode : AliasPolicy) (catalog : Option Catalog) :
    CountedAliases mode [] (Context.root mode catalog) where
  counted := by simp [Resident.Counted]
  owned := rfl
  modes := by simp [Context.root, Scope.empty, AliasPolicy.ofScope]
  counts := by simp [Context.root, Scope.empty, Scope.aliasCount, Table.find?, Resident.occurrences]
  apart := by simp [Context.root]
  opened := by simp [Context.root, Scope.empty]
  placed := by simp

theorem enter (holds : CountedAliases mode past before) :
    CountedAliases mode past (before.enter (BuiltIn.childMode before.current.aliasMode)) where
  counted := holds.counted
  owned := holds.owned
  modes := by
    have positive : 0 < before.nextSequence :=
      Nat.zero_lt_of_lt (holds.opened before.current List.mem_cons_self)
    refine List.forall_mem_cons.mpr ⟨?_, holds.modes⟩
    rw [Context.enter, Scope.empty, holds.modes before.current List.mem_cons_self,
      AliasPolicy.childMode_ofScope, AliasPolicy.ofScope_of_pos mode positive]
  counts := by
    refine List.forall_mem_cons.mpr ⟨fun _ base => ?_, holds.counts⟩
    have empty : Resident.occurrences past before.nextSequence base = 0 :=
      Resident.occurrences_of_other_scope fun resident member =>
        Nat.ne_of_lt (holds.placed resident member)
    rw [Context.enter, Scope.empty, empty]
    rfl
  apart := by
    have below := holds.opened
    refine List.nodup_cons.mpr ⟨?_, holds.apart⟩
    intro member
    obtain ⟨scope, among, equal⟩ := List.mem_map.mp member
    exact Nat.ne_of_lt (below scope among) equal
  opened := by
    refine List.forall_mem_cons.mpr ⟨Nat.lt_succ_self _, fun scope member => ?_⟩
    exact Nat.lt_succ_of_lt (holds.opened scope member)
  placed resident member := Nat.lt_succ_of_lt (holds.placed resident member)

theorem leave
    (holds : CountedAliases mode past after)
    (inside : after.enclosing = before.current :: before.enclosing) :
    CountedAliases mode past (after.leave before) := by
  obtain ⟨counted, owned, modes, counts, apart, opened, placed⟩ := holds
  rw [inside] at modes counts apart opened
  exact
    { counted
      owned
      modes := (List.forall_mem_cons.mp modes).2
      counts := (List.forall_mem_cons.mp counts).2
      apart := (List.nodup_cons.mp apart).2
      opened := (List.forall_mem_cons.mp opened).2
      placed }

section Declare

variable {name : String} {binding : BoundTarget}

/-- A made-up alias takes the count of the targets with its base at once. -/
theorem freshCount_eq
    (holds : CountedAliases mode past before)
    (isAuto : before.current.aliasMode = .auto)
    (base : String) :
    before.freshCount base = Resident.occurrences past before.current.sequence base := by
  have counts := holds.counts before.current List.mem_cons_self isAuto base
  have free : generatedAlias base before.current.sequence
      (Resident.occurrences past before.current.sequence base) ∉ before.aliases := by
    rw [holds.owned]
    exact holds.counted.unused
  rw [← counts] at free ⊢
  exact Context.freshCount_eq_aliasCount free

/-- A target that is given no alias takes the one that is counted for it. -/
theorem aliasName_eq
    (holds : CountedAliases mode past before)
    (choice : AliasChoice before name none binding.aliasName chosen)
    (named : binding.name = name) :
    binding.aliasName =
      Resident.countedAlias mode past ⟨before.current.sequence, binding⟩ := by
  have current := holds.modes before.current List.mem_cons_self
  rw [Resident.countedAlias, ← current, named]
  generalize binding.aliasName = aliasName at choice
  cases choice with
  | unsupported isUnsupported => rw [isUnsupported]
  | default isDefault => rw [isDefault]
  | auto isAuto => rw [isAuto, holds.freshCount_eq isAuto]

/-- The scope in hand has counted one more target with the base. -/
theorem counts_declare
    (holds : CountedAliases mode past before)
    (choice : AliasChoice before name none binding.aliasName chosen)
    (named : binding.name = name)
    (isAuto : before.current.aliasMode = .auto)
    (base : String) :
    chosen.current.aliasCount base =
      Resident.occurrences (past ++ [⟨before.current.sequence, binding⟩])
        before.current.sequence base := by
  rw [Resident.occurrences_append_singleton, named]
  generalize binding.aliasName = aliasName at choice
  cases choice with
  | unsupported isUnsupported => simp [isAuto] at isUnsupported
  | default isDefault => simp [isAuto] at isDefault
  | auto _ =>
      simp only [Context.useAlias, Context.countAlias, Scope.aliasCount, true_and]
      by_cases same : aliasStem name = base
      · rw [same, Table.find?_put_self, holds.freshCount_eq isAuto]
        simp
      · rw [Table.find?_put_of_ne same]
        have counts := holds.counts before.current List.mem_cons_self isAuto base
        rw [Scope.aliasCount] at counts
        simpa [same] using counts

theorem declare
    (holds : CountedAliases mode past before)
    (choice : AliasChoice before name none binding.aliasName chosen)
    (named : binding.name = name) :
    CountedAliases mode (past ++ [⟨before.current.sequence, binding⟩]) (chosen.bind binding) where
  counted := holds.counted.append_singleton (holds.aliasName_eq choice named)
  owned := by
    rw [Context.bind, choice.aliases, holds.owned, Resident.aliases_append,
      Resident.aliases_singleton]
  modes := by
    obtain ⟨current, outer⟩ := List.forall_mem_cons.mp holds.modes
    refine List.forall_mem_cons.mpr ⟨?_, ?_⟩
    · rw [Context.bind, choice.aliasMode, choice.sequence]
      exact current
    · rw [Context.bind, choice.enclosing]
      exact outer
  counts := by
    obtain ⟨-, outer⟩ := List.forall_mem_cons.mp holds.counts
    refine List.forall_mem_cons.mpr ⟨fun isAuto base => ?_, ?_⟩
    · rw [Context.bind, choice.aliasMode] at isAuto
      rw [Context.bind, choice.sequence]
      exact holds.counts_declare choice named isAuto base
    · intro scope member isAuto base
      rw [Context.bind, choice.enclosing] at member
      have other : before.current.sequence ≠ scope.sequence := by
        rintro equal
        have apart := (List.nodup_cons.mp holds.apart).1
        exact apart (equal ▸ List.mem_map_of_mem member)
      rw [outer scope member isAuto base, Resident.occurrences_append_singleton]
      simp [other]
  apart := by
    have apart := holds.apart
    simpa [Context.bind, choice.sequence, choice.enclosing] using apart
  opened := by
    have opened := holds.opened
    simpa [Context.bind, choice.sequence, choice.enclosing, choice.nextSequence] using opened
  placed := by
    have current := holds.opened before.current List.mem_cons_self
    intro resident member
    rw [Context.bind, choice.nextSequence]
    rcases List.mem_append.mp member with earlier | last
    · exact holds.placed resident earlier
    · rw [List.mem_singleton.mp last]
      exact current

end Declare

end CountedAliases

theorem countedAliases_invariant (mode : AliasPolicy) :
    RunInvariant (fun target => target.aliasName = none) (CountedAliases mode) where
  unseen holds current enclosing aliases nextSequence := by
    obtain ⟨counted, owned, modes, counts, apart, opened, placed⟩ := holds
    rw [← current, ← enclosing] at modes counts apart opened
    rw [← nextSequence] at opened placed
    exact ⟨counted, aliases.trans owned, modes, counts, apart, opened, placed⟩
  declare holds unnamed _ choice named := by
    rw [unnamed] at choice
    exact holds.declare choice named
  enter := CountedAliases.enter
  leave := CountedAliases.leave

/-! ## Statements -/

theorem distinctAliases_of_rendering
    {settings : Settings}
    {sketch : Sketch}
    {mode : AliasPolicy}
    {catalog : Option Catalog}
    {after : Context}
    (rendering : Rendering settings sketch (Context.root mode catalog) after) :
    DistinctAliases rendering.residents after := by
  have start : DistinctAliases [] (Context.root mode catalog) := ⟨rfl, .nil, nofun⟩
  exact distinctAliases_invariant.preserved rendering (fun _ _ => trivial) start

theorem counted_of_rendering
    {settings : Settings}
    {sketch : Sketch}
    {mode : AliasPolicy}
    {catalog : Option Catalog}
    {after : Context}
    (rendering : Rendering settings sketch (Context.root mode catalog) after)
    (unnamed : ∀ target ∈ sketch.targets, target.aliasName = none) :
    Resident.Counted mode rendering.residents :=
  ((countedAliases_invariant mode).preserved rendering unnamed
    (CountedAliases.root mode catalog)).counted

namespace Compiler

variable {compiler : Compiler} {operation : Operation} {statement : Statement}

/-- The search for a free count comes to an end in every context. The aliases that the
compilation of an operation records are those of the targets it binds, in the order of binding,
and they are distinct identifiers. Scopes are numbered in the order in which they are entered,
and where no alias is given, every target has the alias that is counted for it in its scope. -/
theorem compile_aliases_distinct
    (standard : compiler.registry = Resolvers.standard)
    (compiled : (compiler.compile operation).1 = .ok statement) :
    (∀ (context : Context) (base : String), context.IsFresh base (context.freshCount base)) ∧
      ∃ composed after,
        operation.compose compiler.registry compiler.settings (compiler.context operation) =
            (.ok composed, after) ∧
          composed.text = statement.text ∧
          ∃ rendering :
            Rendering compiler.settings operation.sketch (compiler.context operation) after,
            rendering.text = statement.text ∧
              after.current.residents = rendering.bound ∧
              after.aliases = Resident.aliases rendering.residents ∧
              after.aliases.Nodup ∧
              (∀ aliasName ∈ after.aliases, isIdentifier aliasName = true) ∧
              rendering.Placed 0 ∧
              rendering.numbers = List.range' 1 rendering.numbers.length ∧
              ((∀ target ∈ operation.sketch.targets, target.aliasName = none) →
                Resident.Counted (compiler.context operation).current.aliasMode
                  rendering.residents) := by
  refine ⟨Context.isFresh_freshCount, ?_⟩
  obtain ⟨composed, after, run, rfl⟩ := exists_composed compiled
  have standardRun := run
  rw [standard] at standardRun
  obtain ⟨rendering, written⟩ := compose_guided operation composed after standardRun
  obtain ⟨owned, distinct, identifiers⟩ := distinctAliases_of_rendering rendering
  exact ⟨composed, after, run, rfl, rendering, written, rendering.continues.residents, owned,
    distinct, identifiers, rendering.placed, rendering.opens.consecutive,
    counted_of_rendering rendering⟩

/-- Customers joined with customers, and customers again in a sub-query: three aliases of one
base, two of them in the scope of the statement. -/
theorem selfJoin_aliases_distinct :
    let compiler : Compiler :=
      ⟨.standard .hibernate, (Configuration.standard .hibernate).dialect, .standard, none⟩
    let others := SubQuery.of (Target.named "customer") (.path Sample.identifier)
    let operation : Operation :=
      { Operation.of .select (Target.selfJoin "customer" 1) with filter := some (.hasRows others) }
    ∃ statement after,
      (compiler.compile operation).1 = .ok statement ∧
        after.aliases = ["cust_0_0", "cust_0_1", "cust_1_0"] ∧ after.aliases.Nodup ∧
        ∃ rendering :
          Rendering compiler.settings operation.sketch (compiler.context operation) after,
          rendering.text = statement.text ∧ Resident.Counted .auto rendering.residents := by
  intro compiler others operation
  have aliases : (operation.compose compiler.registry compiler.settings
      (compiler.context operation)).2.aliases = ["cust_0_0", "cust_0_1", "cust_1_0"] := by
    decide +kernel
  have succeeds : (compiler.compile operation).1.toOption.isSome = true := by
    decide +kernel
  obtain ⟨statement, shown⟩ := Option.isSome_iff_exists.mp succeeds
  have compiled := Except.eq_ok_of_toOption shown
  obtain ⟨-, composed, after, run, -, rendering, written, -, -, distinct, -, -, -, counted⟩ :=
    compile_aliases_distinct rfl compiled
  rw [run] at aliases
  refine ⟨statement, after, compiled, aliases, distinct, rendering, written, counted ?_⟩
  decide +kernel

end Compiler
end ObjectQuery
