import ObjectQuery.Proofs.Aliases.Generated
import ObjectQuery.Proofs.Sketch.Nodes

/-!
# How the aliases of a statement are allotted

All that the aliases of a statement depend on is which targets are declared, in which order,
and where sub-queries begin and end. These are the events of a sketch. The targets come by
their aliases in one pass over the events: a given alias is taken unless it is used, and a
made-up one is the first of its base that is not used yet.

So a made-up alias gives way to the given ones before it, but not to those after it. Where no
alias is given twice, a given alias can only have been used because it was made up earlier.
-/

namespace ObjectQuery

/-- Something that bears on the aliases of a statement. -/
inductive AliasEvent where
  /-- A sub-query begins. -/
  | opens
  /-- The innermost sub-query ends. -/
  | closes
  /-- A target is bound and declared. -/
  | declares (target : Target)

/-- The alias that an event gives. -/
def AliasEvent.given? : AliasEvent → Option String
  | .opens | .closes => none
  | .declares target => target.aliasName

/-- The scopes that are open, and the aliases used so far. -/
structure AliasState where
  /-- The number of the scope in hand. -/
  scope : Nat
  policy : AliasPolicy
  /-- The numbers and policies of the scopes around, innermost first. -/
  enclosing : List (Nat × AliasPolicy)
  nextScope : Nat
  /-- In order of allocation. -/
  used : List String

namespace AliasState

/-- The state before the first event. -/
def start (policy : AliasPolicy) : AliasState :=
  ⟨0, policy, [], 1, []⟩

/-- The state with one more used alias. -/
def use (state : AliasState) (aliasName : String) : AliasState :=
  { state with used := state.used ++ [aliasName] }

/-- The lowest count with which an alias of a base is not used yet. -/
def freeCount (state : AliasState) (base : String) : Nat :=
  let counts := List.range' 0 (state.used.length + 1)
  (counts.find? fun count =>
    !state.used.contains (generatedAlias base state.scope count)).getD 0

/-- The alias that is made up for a target of the scope in hand. -/
def madeUp (state : AliasState) (name : String) : String :=
  generatedAlias (aliasStem name) state.scope (state.freeCount (aliasStem name))

/-- A target comes by its alias, or is refused the one that it is given. -/
def declare (state : AliasState) (target : Target) : Except String AliasState :=
  match state.policy, target.aliasName with
  | .unsupported, _ | .default, none => .ok state
  | .auto, none => .ok (state.use (state.madeUp target.name))
  | .default, some given | .auto, some given =>
      if given ∈ state.used then .error given else .ok (state.use given)

/-- One event. -/
def apply (state : AliasState) : AliasEvent → Except String AliasState
  | .opens =>
      .ok
        { state with
          scope := state.nextScope
          policy := BuiltIn.childMode state.policy
          enclosing := (state.scope, state.policy) :: state.enclosing
          nextScope := state.nextScope + 1 }
  | .closes =>
      match state.enclosing with
      | [] => .ok state
      | (scope, policy) :: enclosing => .ok { state with scope, policy, enclosing }
  | .declares target => state.declare target

/-- Events one after the other; the first alias that is refused ends the run. -/
def run (state : AliasState) : List AliasEvent → Except String AliasState
  | [] => .ok state
  | event :: rest => do
      let next ← state.apply event
      next.run rest

variable {state final : AliasState} {events first second : List AliasEvent} {refused : String}

/-- The rest of the events goes on where the first one leads. -/
theorem run_cons_of_ok
    {event : AliasEvent}
    {next : AliasState}
    (applied : state.apply event = .ok next) :
    state.run (event :: events) = next.run events := by
  rw [run, applied]
  rfl

theorem run_cons_of_error
    {event : AliasEvent}
    (applied : state.apply event = .error refused) :
    state.run (event :: events) = .error refused := by
  rw [run, applied]
  rfl

theorem run_append_of_ok (succeeds : state.run first = .ok final) :
    state.run (first ++ second) = final.run second := by
  induction first generalizing state with
  | nil =>
      cases succeeds
      rfl
  | cons event rest inductionHypothesis =>
      cases applied : state.apply event with
      | ok next =>
          rw [run_cons_of_ok applied] at succeeds
          rw [List.cons_append, run_cons_of_ok applied]
          exact inductionHypothesis succeeds
      | error found => simp [run_cons_of_error applied] at succeeds

theorem run_append_of_error (fails : state.run first = .error refused) :
    state.run (first ++ second) = .error refused := by
  induction first generalizing state with
  | nil => cases fails
  | cons event rest inductionHypothesis =>
      cases applied : state.apply event with
      | ok next =>
          rw [run_cons_of_ok applied] at fails
          rw [List.cons_append, run_cons_of_ok applied]
          exact inductionHypothesis fails
      | error found =>
          rw [run_cons_of_error applied] at fails
          rw [List.cons_append, run_cons_of_error applied, fails]

theorem run_declares (state : AliasState) (target : Target) :
    state.run [.declares target] = state.declare target := by
  rw [run, apply]
  cases state.declare target <;> rfl

section Declare

variable {target : Target}

theorem declare_of_unsupported (policy : state.policy = .unsupported) :
    state.declare target = .ok state := by
  simp only [declare, policy]

theorem declare_of_given
    {given : String}
    (policy : state.policy ≠ .unsupported)
    (named : target.aliasName = some given) :
    state.declare target = if given ∈ state.used then .error given else .ok (state.use given) := by
  cases found : state.policy with
  | unsupported => exact absurd found policy
  | default => simp only [declare, found, named]
  | auto => simp only [declare, found, named]

theorem declare_of_default
    (policy : state.policy = .default)
    (unnamed : target.aliasName = none) :
    state.declare target = .ok state := by
  simp only [declare, policy, unnamed]

theorem declare_of_auto
    (policy : state.policy = .auto)
    (unnamed : target.aliasName = none) :
    state.declare target = .ok (state.use (state.madeUp target.name)) := by
  simp only [declare, policy, unnamed]

end Declare

/-! ## Where aliases come from -/

/-- What a target is given, or what is made up for it where it is given nothing. -/
def Supplies (state : AliasState) (target : Target) (aliasName : String) : Prop :=
  target.aliasName = some aliasName ∨
    target.aliasName = none ∧ state.policy = .auto ∧ aliasName = state.madeUp target.name

theorem declare_eq_ok
    {target : Target}
    {next : AliasState}
    (declared : state.declare target = .ok next) :
    next = state ∨ ∃ aliasName, state.Supplies target aliasName ∧ next = state.use aliasName := by
  unfold declare at declared
  split at declared
  · cases declared
    exact .inl rfl
  · cases declared
    exact .inl rfl
  · next policy unnamed =>
      cases declared
      exact .inr ⟨_, .inr ⟨unnamed, policy, rfl⟩, rfl⟩
  all_goals
    next aliasName _ given =>
      split at declared
      · cases declared
      · cases declared
        exact .inr ⟨aliasName, .inl given, rfl⟩

theorem declare_eq_error
    {target : Target}
    (declared : state.declare target = .error refused) :
    target.aliasName = some refused ∧ refused ∈ state.used := by
  unfold declare at declared
  split at declared
  · cases declared
  · cases declared
  · cases declared
  all_goals
    next aliasName _ given =>
      split at declared
      · next used =>
          cases declared
          exact ⟨given, used⟩
      · cases declared

/-- An alias is refused only to a target that is given it where it is used already. -/
theorem apply_eq_error
    {event : AliasEvent}
    (applied : state.apply event = .error refused) :
    ∃ target,
      event = .declares target ∧ target.aliasName = some refused ∧ refused ∈ state.used := by
  cases event with
  | opens => cases applied
  | closes =>
      simp only [apply] at applied
      split at applied
      · cases applied
      · cases applied
  | declares target => exact ⟨target, rfl, declare_eq_error applied⟩

/-- Only a target adds to the used aliases: what it is given, or what is made up for it. -/
theorem mem_used_of_apply
    {event : AliasEvent}
    {next : AliasState}
    {aliasName : String}
    (applied : state.apply event = .ok next)
    (used : aliasName ∈ next.used) :
    aliasName ∈ state.used ∨
      ∃ target, event = .declares target ∧ state.Supplies target aliasName := by
  cases event with
  | opens =>
      cases applied
      exact .inl used
  | closes =>
      simp only [apply] at applied
      split at applied
      all_goals
        cases applied
        exact .inl used
  | declares target =>
      rcases declare_eq_ok applied with rfl | ⟨supplied, supplies, rfl⟩
      · exact .inl used
      · rcases List.mem_append.mp used with before | last
        · exact .inl before
        · obtain rfl := List.mem_singleton.mp last
          exact .inr ⟨target, rfl, supplies⟩

theorem exists_refused_of_run (fails : state.run events = .error refused) :
    ∃ earlier target later between,
      events = earlier ++ .declares target :: later ∧
        state.run earlier = .ok between ∧
        target.aliasName = some refused ∧
        refused ∈ between.used := by
  induction events generalizing state with
  | nil => cases fails
  | cons event rest inductionHypothesis =>
      cases applied : state.apply event with
      | ok next =>
          rw [run_cons_of_ok applied] at fails
          obtain ⟨earlier, target, later, between, rfl, succeeds, given, used⟩ :=
            inductionHypothesis fails
          exact ⟨event :: earlier, target, later, between, rfl,
            (run_cons_of_ok applied).trans succeeds, given, used⟩
      | error found =>
          obtain rfl : found = refused := by simpa [run_cons_of_error applied] using fails
          obtain ⟨target, rfl, given, used⟩ := apply_eq_error applied
          exact ⟨[], target, rest, state, rfl, rfl, given, used⟩

theorem exists_supplied_of_run
    {aliasName : String}
    (succeeds : state.run events = .ok final)
    (used : aliasName ∈ final.used) :
    aliasName ∈ state.used ∨
      ∃ earlier target later between,
        events = earlier ++ .declares target :: later ∧
          state.run earlier = .ok between ∧
          between.Supplies target aliasName := by
  induction events generalizing state with
  | nil =>
      cases succeeds
      exact .inl used
  | cons event rest inductionHypothesis =>
      cases applied : state.apply event with
      | error found => simp [run_cons_of_error applied] at succeeds
      | ok next =>
          rw [run_cons_of_ok applied] at succeeds
          rcases inductionHypothesis succeeds with
            earlierUsed | ⟨earlier, target, later, between, rfl, reaches, supplies⟩
          · rcases mem_used_of_apply applied earlierUsed with before | ⟨target, rfl, supplies⟩
            · exact .inl before
            · exact .inr ⟨[], target, rest, state, rfl, rfl, supplies⟩
          · exact .inr ⟨event :: earlier, target, later, between, rfl,
              (run_cons_of_ok applied).trans reaches, supplies⟩

/-- An alias is made up for a target that is given none, and is given to a later one. -/
def Anticipates (state : AliasState) (events : List AliasEvent) (aliasName : String) : Prop :=
  ∃ earlier unnamed between named later reached,
    events = earlier ++ .declares unnamed :: (between ++ .declares named :: later) ∧
      state.run earlier = .ok reached ∧
      unnamed.aliasName = none ∧
      reached.policy = .auto ∧
      reached.madeUp unnamed.name = aliasName ∧
      named.aliasName = some aliasName

/-- Where no alias is given twice, a given one is refused only because it was made up before. -/
theorem anticipates_of_run
    {policy : AliasPolicy}
    (distinct : (events.filterMap AliasEvent.given?).Nodup)
    (fails : (start policy).run events = .error refused) :
    (start policy).Anticipates events refused := by
  obtain ⟨earlier, named, later, between, rfl, succeeds, given, used⟩ :=
    exists_refused_of_run fails
  rcases exists_supplied_of_run succeeds used with
    initial | ⟨before, target, after, reached, rfl, reaches, supplies⟩
  · simp [start] at initial
  · rcases supplies with sameGiven | ⟨unnamed, policy, madeUp⟩
    · simp [AliasEvent.given?, sameGiven, given, List.nodup_append] at distinct
    · exact ⟨before, target, after, named, later, reached, by simp, reaches, unnamed, policy,
        madeUp.symm, given⟩

end AliasState

/-! ## Events of sketches -/

namespace Sketch

/-- The events of a sketch, in the order in which its parts are resolved. -/
def aliasEvents : Sketch → List AliasEvent
  | .filling _ | .mention _ => []
  | .declaration target => [.declares target]
  | .append first second => first.aliasEvents ++ second.aliasEvents
  | .expecting _ inner => inner.aliasEvents
  | .call _ _ argument => argument.aliasEvents
  | .select _ source clauses selected =>
      source.aliasEvents ++ (clauses.aliasEvents ++ selected.aliasEvents)
  | .nested query => .opens :: (query.aliasEvents ++ [.closes])

@[simp]
theorem aliasEvents_words (text : String) : (words text).aliasEvents = [] := rfl

@[simp]
theorem aliasEvents_between (opening : String) (inner : Sketch) (closing : String) :
    (between opening inner closing).aliasEvents = inner.aliasEvents := by
  simp [between, aliasEvents]

@[simp]
theorem aliasEvents_separated (separator : String) (parts : List Sketch) :
    (separated separator parts).aliasEvents = parts.flatMap aliasEvents := by
  induction parts with
  | nil => rfl
  | cons first rest inductionHypothesis =>
      cases rest with
      | nil => simp [separated]
      | cons second rest => simp [separated, aliasEvents, inductionHypothesis]

@[simp]
theorem aliasEvents_junction (word : String) (conditions : List Sketch) :
    (junction word conditions).aliasEvents = conditions.flatMap aliasEvents := by
  simp [junction, List.flatMap_map]

/-- A sketch has no place for a second argument, and a valid call has none. -/
theorem aliasEvents_calling
    (kind : FunctionKind)
    (distinct : Bool)
    {arguments : List Sketch}
    (atMostOne : arguments.length ≤ 1) :
    (calling kind distinct arguments).aliasEvents = arguments.flatMap aliasEvents := by
  match arguments with
  | [] => rfl
  | [argument] => simp [calling, aliasEvents]
  | _ :: _ :: _ => simp at atMostOne

@[simp]
theorem aliasEvents_named (inner : Sketch) (name : Option String) :
    (inner.named name).aliasEvents = inner.aliasEvents := by
  cases name <;> simp [named, aliasEvents]

@[simp]
theorem aliasEvents_enclosing (operand : Expression) (inner : Sketch) :
    (enclosing operand inner).aliasEvents = inner.aliasEvents := by
  unfold enclosing
  split
  · exact aliasEvents_between _ _ _
  · rfl

@[simp]
theorem aliasEvents_subject (ignoreCase : Bool) (inner : Sketch) :
    (subject ignoreCase inner).aliasEvents = inner.aliasEvents := by
  cases ignoreCase <;> rfl

@[simp]
theorem aliasEvents_pattern (value : Expression) (mode : MatchMode) (ignoreCase : Bool) :
    (value.pattern mode ignoreCase).aliasEvents = [] := rfl

end Sketch
end ObjectQuery
