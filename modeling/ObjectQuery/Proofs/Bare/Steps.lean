import ObjectQuery.Proofs.Inquiries.Basic
import ObjectQuery.Proofs.Occurrence
import ObjectQuery.Proofs.Sketch.Effect

/-!
# Runs with and without an alias

A step is run in a scope with one target that has an alias, and again in a scope that cannot
alias its targets, where the same target has none. If the first run succeeds, so does the
second, with a text that can be seen where the first one can; only a property that is read
by the alias is lost, since nothing has this name any more. There is one rule for each way in
which resolutions are put together.
-/

namespace ObjectQuery

/-- The target without its alias. -/
def BoundTarget.withoutAlias (binding : BoundTarget) : BoundTarget :=
  { binding with aliasName := none }

/-- The names that the target keeps without its alias. -/
def BoundTarget.keepsName (binding : BoundTarget) (qualifier : String) : Prop :=
  qualifier = binding.name ∨ qualifier = binding.entity

/-- A path that names no target, or names it otherwise than by its alias. -/
def Path.StaysWith (found : Path) (binding : BoundTarget) : Prop :=
  ∀ qualifier ∈ found.qualifier?, binding.keepsName qualifier

/-- The node of an inquiry, if it is a path, does not depend on the alias. -/
def Inquiry.StaysWith (binding : BoundTarget) (inquiry : Inquiry) : Prop :=
  ∀ found, inquiry.node = .path found → found.StaysWith binding

/-- A context with one target, and one in which this target has no alias and cannot have any. -/
structure Context.Bared (binding : BoundTarget) (before bare : Context) : Prop where
  bound : before.current.bindings = [binding]
  boundBare : bare.current.bindings = [binding.withoutAlias]
  closed : bare.current.aliasMode = .unsupported
  alone : before.enclosing = []
  parameters : bare.parameters = before.parameters
  hint : bare.hint = before.hint

namespace Context.Bared

variable {binding : BoundTarget} {before bare : Context}

theorem withHint (bared : Bared binding before bare) (hint : Option ValueType) :
    Bared binding { before with hint } { bare with hint } :=
  { bared with hint := rfl }

theorem withParameters (bared : Bared binding before bare) (parameters : ParameterTable) :
    Bared binding { before with parameters } { bare with parameters } :=
  { bared with parameters := rfl }

theorem rootTarget? (bared : Bared binding before bare) :
    bare.rootTarget? = before.rootTarget?.map BoundTarget.withoutAlias := by
  simp [Context.rootTarget?, bared.bound, bared.boundBare]

/-- The one target answers to its alias, its name and its entity, and nothing else does. -/
theorem answers_of_find? (bared : Bared binding before bare) {qualifier : String}
    {found : BoundTarget} (finds : before.find? qualifier = some found) :
    binding.aliasName = some qualifier ∨ binding.keepsName qualifier := by
  have inScope : before.current.find? qualifier = some found := by
    rw [Context.find?, bared.alone, findIn, findIn] at finds
    cases shown : before.current.find? qualifier with
    | some shownBinding => simpa [shown] using finds
    | none => simp [shown] at finds
  simp only [Scope.find?, bared.bound, List.find?_singleton, BoundTarget.keepsName] at inScope ⊢
  grind

/-- Without the alias the target still answers to its name and its entity. -/
theorem find?_bare (bared : Bared binding before bare) {qualifier : String}
    (kept : binding.keepsName qualifier) :
    bare.current.find? qualifier = some binding.withoutAlias := by
  simp only [Scope.find?, bared.boundBare, List.find?_singleton, BoundTarget.keepsName,
    BoundTarget.withoutAlias] at kept ⊢
  grind

/-- Nothing answers to the alias then, and the scope shows nothing around it. -/
theorem find?_bare_eq_none (bared : Bared binding before bare) {qualifier : String}
    (lost : ¬ binding.keepsName qualifier) :
    bare.current.find? qualifier = none ∧ bare.find? qualifier = none := by
  have inScope : bare.current.find? qualifier = none := by
    simp only [Scope.find?, bared.boundBare, List.find?_singleton, BoundTarget.keepsName,
      BoundTarget.withoutAlias] at lost ⊢
    grind
  refine ⟨inScope, ?_⟩
  rw [Context.find?, findIn, inScope]
  simp [bared.closed]

end Context.Bared

namespace Resolution

variable {first second : Type}

/-- What comes of the second run where the first one succeeds: a related result if no inquiry
depends on the alias, and else that no target has this name. -/
inductive BaredEnds
    (binding : BoundTarget)
    (related : first → first → Prop)
    (inquiries : List Inquiry)
    (found : first)
    (after : Context) :
    Except ResolutionError first × Context → Prop
  | kept
      {found' : first}
      {bare : Context}
      (stay : ∀ inquiry ∈ inquiries, inquiry.StaysWith binding)
      (results : related found found')
      (contexts : after.Bared binding bare) :
      BaredEnds binding related inquiries found after (.ok found', bare)
  | lost
      {inquiry : Inquiry}
      {aliasName : String}
      {bare : Context}
      (member : inquiry ∈ inquiries)
      (depends : ¬ inquiry.StaysWith binding)
      (named : binding.aliasName = some aliasName) :
      BaredEnds binding related inquiries found after (.error (.missingTarget aliasName), bare)

/-- Wherever the first step succeeds, the second one in the bare context ends accordingly. -/
def Bares
    (settings : Settings)
    (binding : BoundTarget)
    (related : first → first → Prop)
    (inquiries : List Inquiry)
    (step bareStep : Resolution first) : Prop :=
  ∀ before bare, before.Bared binding bare → ∀ found after,
    step settings before = (.ok found, after) →
      BaredEnds binding related inquiries found after (bareStep settings bare)

namespace Bares

variable
  {settings : Settings}
  {binding : BoundTarget}
  {related : first → first → Prop}
  {related' : second → second → Prop}
  {inquiries inquiries' : List Inquiry}
  {step bareStep : Resolution first}

theorem pure {found found' : first} (results : related found found') :
    Bares settings binding related [] (Pure.pure found) (Pure.pure found') := by
  rintro before bare bared _ _ ⟨⟩
  exact .kept (List.forall_mem_nil _) results bared

theorem weaken
    {weaker : first → first → Prop}
    (steps : Bares settings binding related inquiries step bareStep)
    (implies : ∀ found found', related found found' → weaker found found') :
    Bares settings binding weaker inquiries step bareStep := by
  intro before bare bared found after ran
  have ends := steps before bare bared found after ran
  generalize bareStep settings bare = bareEnd at ends ⊢
  cases ends with
  | lost member depends named => exact .lost member depends named
  | kept stay results contexts => exact .kept stay (implies _ _ results) contexts

/-- A first step that never succeeds. -/
theorem ofFailing (fails : ∀ before found after, step settings before ≠ (.ok found, after)) :
    Bares settings binding related inquiries step bareStep :=
  fun before _ _ found after ran => absurd ran (fails before found after)

theorem fail (error : ResolutionError) :
    Bares settings binding related inquiries (Resolution.fail error) bareStep :=
  ofFailing fun _ _ _ => nofun

theorem ofExcept
    {outcome outcome' : Except ResolutionError first}
    (succeeds : ∀ found, outcome = .ok found →
      ∃ found', outcome' = .ok found' ∧ related found found') :
    Bares settings binding related [] (Resolution.ofExcept outcome)
      (Resolution.ofExcept outcome') := by
  intro before bare bared found after ran
  obtain ⟨ok, rfl⟩ := Prod.mk.inj ran
  obtain ⟨found', ok', results⟩ := succeeds found ok
  subst ok'
  exact .kept (List.forall_mem_nil _) results bared

theorem ofChecked (outcome : Checked) :
    Bares settings binding Eq [] (Resolution.ofChecked outcome)
      (Resolution.ofChecked outcome) := by
  cases outcome with
  | ok passed => exact pure rfl
  | error fault => exact ofFailing fun _ _ _ => nofun

/-- What depends on the alias in two steps, does so in one of them. -/
theorem bind
    {next bareNext : first → Resolution second}
    (steps : Bares settings binding related inquiries step bareStep)
    (nexts : ∀ found found', related found found' →
      Bares settings binding related' inquiries' (next found) (bareNext found')) :
    Bares settings binding related' (inquiries ++ inquiries') (step >>= next)
      (bareStep >>= bareNext) := by
  intro before bare bared result final run
  rw [bind_apply] at run ⊢
  cases ran : step settings before with
  | mk outcome after =>
      rw [ran] at run
      cases outcome with
      | error error => cases run
      | ok found =>
          have ends := steps before bare bared found after ran
          generalize bareStep settings bare = bareEnd at ends ⊢
          cases ends with
          | lost member depends named => exact .lost (List.mem_append_left _ member) depends named
          | @kept found' between stay results contexts =>
              show BaredEnds binding related' _ result final (bareNext found' settings between)
              have finals := nexts found found' results after between contexts result final run
              generalize bareNext found' settings between = bareFinal at finals ⊢
              cases finals with
              | lost member depends named =>
                  exact .lost (List.mem_append_right _ member) depends named
              | kept stay' results' contexts' =>
                  exact .kept (List.forall_mem_append.mpr ⟨stay, stay'⟩) results' contexts'

/-- A step that asks about nothing, and another. -/
theorem after
    {next bareNext : first → Resolution second}
    (steps : Bares settings binding related [] step bareStep)
    (nexts : ∀ found found', related found found' →
      Bares settings binding related' inquiries (next found) (bareNext found')) :
    Bares settings binding related' inquiries (step >>= next) (bareStep >>= bareNext) :=
  steps.bind nexts

/-- A step, and another that asks about nothing. -/
theorem andThen
    {next bareNext : first → Resolution second}
    (steps : Bares settings binding related inquiries step bareStep)
    (nexts : ∀ found found', related found found' →
      Bares settings binding related' [] (next found) (bareNext found')) :
    Bares settings binding related' inquiries (step >>= next) (bareStep >>= bareNext) := by
  rw [← List.append_nil inquiries]
  exact steps.bind nexts

/-- A step whose result is the same in both runs, and another that asks about nothing. -/
theorem afterEq
    {next bareNext : first → Resolution second}
    (steps : Bares settings binding Eq [] step bareStep)
    (nexts : ∀ found, Bares settings binding related' inquiries (next found) (bareNext found)) :
    Bares settings binding related' inquiries (step >>= next) (bareStep >>= bareNext) :=
  steps.after fun found _ equal => equal ▸ nexts found

theorem dialect : Bares settings binding Eq [] Resolution.dialect Resolution.dialect := by
  rintro before bare bared _ _ ⟨⟩
  exact .kept (List.forall_mem_nil _) rfl bared

theorem withHint
    (steps : Bares settings binding related inquiries step bareStep)
    (hint : ValueType) :
    Bares settings binding related inquiries (Resolution.withHint hint step)
      (Resolution.withHint hint bareStep) := by
  intro before bare bared found final run
  simp only [Resolution.withHint] at run ⊢
  obtain ⟨ok, rfl⟩ := Prod.mk.inj run
  have ends := steps _ _ (bared.withHint (some hint)) found _ (Prod.ext ok rfl)
  generalize bareStep settings { bare with hint := some hint } = bareEnd at ends ⊢
  cases ends with
  | lost member depends named => exact .lost member depends named
  | kept stay results contexts =>
      refine .kept stay results ?_
      rw [bared.hint]
      exact contexts.withHint before.hint

/-- An inquiry about anything but a path does not depend on the alias. -/
theorem about
    {depth : Nat}
    {node : Expression}
    (steps : Bares settings binding related inquiries step bareStep)
    (noPath : ∀ found, node ≠ .path found) :
    Bares settings binding related (⟨depth, node⟩ :: inquiries) step bareStep := by
  intro before bare bared found after ran
  have ends := steps before bare bared found after ran
  generalize bareStep settings bare = bareEnd at ends ⊢
  cases ends with
  | lost member depends named => exact .lost (List.mem_cons_of_mem _ member) depends named
  | kept stay results contexts =>
      have stays : Inquiry.StaysWith binding ⟨depth, node⟩ := fun found isPath =>
        absurd isPath (noPath found)
      exact .kept (List.forall_mem_cons.mpr ⟨stays, stay⟩) results contexts

end Bares

/-! ## Primitive steps -/

section Primitive

variable {settings : Settings} {binding : BoundTarget}

/-- A value is bound to the same parameter in both runs. -/
theorem newReference_bares (value : Value) (valueType : ValueType) :
    Bares settings binding Eq [] (newReference value valueType)
      (newReference value valueType) := by
  have names : Bares settings binding Eq [] (newParameter value valueType)
      (newParameter value valueType) := by
    rintro before bare bared _ _ ⟨⟩
    simp only [newParameter, bared.parameters]
    exact .kept (List.forall_mem_nil _) rfl (bared.withParameters _)
  exact names.afterEq fun name => .afterEq .dialect fun dialect => .pure rfl

end Primitive
end Resolution

/-! ## The registry -/

/-- Texts of which both can be seen or none. -/
def Text.SeenAlike (text text' : String) : Prop :=
  isBlank text = isBlank text'

/-- Answers without a plan whose texts are seen alike. -/
inductive Resolved.SeenAlike : Resolved → Resolved → Prop
  | fragment {text text' : String} (texts : Text.SeenAlike text text') :
      SeenAlike (.fragment text) (.fragment text')
  | emptyPredicate : SeenAlike .emptyPredicate .emptyPredicate

theorem Resolved.SeenAlike.isAcceptable_eq
    {resolved resolved' : Resolved}
    (alike : resolved.SeenAlike resolved')
    (output : OutputKind) :
    resolved'.isAcceptable output = resolved.isAcceptable output := by
  cases alike with
  | fragment texts =>
      simp only [isAcceptable, outputKind, fault?]
      rw [texts]
  | emptyPredicate => rfl

namespace Resolvers

open Resolution

variable
  {settings : Settings}
  {binding : BoundTarget}
  {inquiries : List Inquiry}
  {expression : Expression}
  {own bareOwn : Resolution Resolved}
  (owns : expression.validate = .ok () →
    Bares settings binding Resolved.SeenAlike inquiries own bareOwn)

include owns

/-- An answer that is acceptable with the alias is acceptable without it. -/
theorem dispatch_bares (output : OutputKind) :
    Bares settings binding Resolved.SeenAlike inquiries
      (standard.dispatch expression output own) (standard.dispatch expression output bareOwn) := by
  cases checked : expression.validate with
  | error fault =>
      refine .ofFailing fun before found after ran => ?_
      simp [dispatch, checked, bind_apply, Resolution.ofChecked] at ran
  | ok passed =>
      unfold dispatch
      rw [checked, standard_candidates, standard_candidates]
      refine .afterEq (.ofChecked _) fun _ => ?_
      split
      · have counts : Bares settings binding Eq [] parameterCount parameterCount := by
          rintro before bare bared _ _ ⟨⟩
          simp only [parameterCount, bared.parameters]
          exact .kept (List.forall_mem_nil _) rfl bared
        refine .afterEq counts fun bound => ?_
        have given : Bares settings binding
            (fun found found' => ∃ resolved resolved',
              found = some resolved ∧ found' = some resolved' ∧ resolved.SeenAlike resolved')
            inquiries (do let resolved ← own; return some resolved)
            (do let resolved ← bareOwn; return some resolved) :=
          (owns checked).andThen fun resolved resolved' alike =>
            .pure ⟨resolved, resolved', rfl, rfl, alike⟩
        refine given.andThen ?_
        rintro _ _ ⟨resolved, resolved', rfl, rfl, alike⟩
        simp only [alike.isAcceptable_eq output]
        split
        · exact .pure alike
        · refine .ofFailing fun before found after ran => ?_
          simp [bind_apply, forgetParameters, Resolution.modify, firstAcceptable,
            Resolution.fail] at ran
      · exact .fail _

/-- The text of a node is seen alike. -/
theorem fragment_bares :
    Bares settings binding Text.SeenAlike inquiries
      (standard.fragment expression own) (standard.fragment expression bareOwn) := by
  refine (dispatch_bares owns .fragment).andThen fun resolved resolved' alike => ?_
  cases alike with
  | fragment texts => exact .pure texts
  | emptyPredicate => exact .fail _

theorem predicate_bares :
    Bares settings binding Text.SeenAlike inquiries
      (standard.predicate expression own) (standard.predicate expression bareOwn) := by
  have optional : Bares settings binding (Option.Rel Text.SeenAlike) inquiries
      (standard.predicate? expression own) (standard.predicate? expression bareOwn) := by
    refine (dispatch_bares owns .fragment).andThen fun resolved resolved' alike => ?_
    cases alike with
    | fragment texts => exact .pure (.some texts)
    | emptyPredicate => exact .pure .none
  refine optional.andThen fun found found' alike => ?_
  cases alike with
  | some texts => exact .pure texts
  | none => exact .fail _

end Resolvers
end ObjectQuery
