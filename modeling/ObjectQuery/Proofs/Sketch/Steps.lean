import ObjectQuery.Proofs.Sketch.Guarded

/-!
# Steps that follow a sketch

A step follows a sketch when every successful run of the step is a run over the sketch that
writes the same text and ends in the same context. Here are the rules for the ways in which
sketches are put together and runs over them come apart, for the registry, and for the steps
without parts.
-/

namespace ObjectQuery

open Resolution

namespace Sketch

variable
  {settings : Settings}
  {before middle after : Context}
  {sketch first second : Sketch}
  {text firstText secondText : String}

/-! ## Runs over sketches that are put together come apart again -/

namespace Renders

theorem of_filling
    {filling : Filling}
    (renders : (Sketch.filling filling).Renders settings before text after) :
    filling.write settings before = (.ok text, after) := by
  obtain ⟨rendering, rfl⟩ := renders
  cases rendering with
  | filling text written => exact written

theorem of_words
    {opening : String}
    (renders : (Sketch.words opening).Renders settings before text after) :
    text = opening ∧ after = before := by
  have written : opening = text ∧ before = after := by
    simpa [Filling.write] using renders.of_filling
  exact ⟨written.1.symm, written.2.symm⟩

theorem of_mention
    {found : Mention}
    (renders : (Sketch.mention found).Renders settings before text after) :
    text = found.text ((Rendering.owner found before).map Resident.target) ∧ after = before := by
  obtain ⟨rendering, rfl⟩ := renders
  cases rendering with
  | mention found before => exact ⟨rfl, rfl⟩

theorem exists_append (renders : (first.append second).Renders settings before text after) :
    ∃ firstText middle secondText,
      first.Renders settings before firstText middle ∧
        second.Renders settings middle secondText after ∧ text = firstText ++ secondText := by
  obtain ⟨rendering, rfl⟩ := renders
  cases rendering with
  | append firstPart secondPart =>
      exact ⟨firstPart.text, _, secondPart.text, ⟨firstPart, rfl⟩, ⟨secondPart, rfl⟩, rfl⟩

theorem exists_expecting
    {valueType : ValueType}
    (renders : (Sketch.expecting valueType sketch).Renders settings before text after) :
    ∃ inner,
      sketch.Renders settings { before with hint := some valueType } text inner ∧
        after = { inner with hint := before.hint } := by
  obtain ⟨rendering, rfl⟩ := renders
  cases rendering with
  | expecting innerPart => exact ⟨_, ⟨innerPart, rfl⟩, rfl⟩

end Renders

/-- Runs over some sketches, one after the other, each with its text. -/
inductive RendersEach (settings : Settings) :
    List Sketch → Context → List String → Context → Prop
  | nil (before : Context) : RendersEach settings [] before [] before
  | cons
      {first : Sketch}
      {rest : List Sketch}
      {before between after : Context}
      {text : String}
      {texts : List String}
      (firsts : first.Renders settings before text between)
      (rests : RendersEach settings rest between texts after) :
      RendersEach settings (first :: rest) before (text :: texts) after

/-- The texts of a run over separated sketches. -/
theorem RendersEach.of_separated
    {sketches : List Sketch}
    {separator : String}
    (renders : (Sketch.separated separator sketches).Renders settings before text after) :
    ∃ texts,
      RendersEach settings sketches before texts after ∧ text = separator.intercalate texts := by
  induction sketches generalizing before text with
  | nil =>
      obtain ⟨rfl, rfl⟩ := Renders.of_words renders
      exact ⟨[], .nil after, rfl⟩
  | cons first rest inductionHypothesis =>
      cases rest with
      | nil => exact ⟨[text], .cons renders (.nil after), by simp⟩
      | cons second rest =>
          obtain ⟨firstText, middle, behind, firsts, rendersBehind, rfl⟩ := renders.exists_append
          obtain ⟨_, _, restText, rendersWords, rendersRest, rfl⟩ := rendersBehind.exists_append
          obtain ⟨rfl, rfl⟩ := rendersWords.of_words
          obtain ⟨texts, rests, rfl⟩ := inductionHypothesis rendersRest
          refine ⟨firstText :: texts, .cons firsts rests, ?_⟩
          cases rests with
          | cons seconds rests => rw [String.intercalate_cons_cons, String.append_assoc]

/-! ## Steps -/

/-- The step follows the sketch. -/
def Guides (settings : Settings) (sketch : Sketch) (step : Resolution String) : Prop :=
  ∀ before, step.Ensures settings before (sketch.Writes settings before)

/-- The step follows the sketch and plans to select what is written. -/
def GuidesPlan (settings : Settings) (sketch : Sketch) (step : Resolution ProjectionPlan) : Prop :=
  ∀ before, step.Ensures settings before fun plan => sketch.Writes settings before plan.selectList

/-- The step follows the sketch and answers with what is written. -/
def GuidesAnswer (settings : Settings) (sketch : Sketch) (step : Resolution Resolved) : Prop :=
  ∀ before, step.Ensures settings before
    (Resolved.Ensures (sketch.Writes settings before) fun plan =>
      sketch.Writes settings before plan.selectList)

/-- The steps follow the sketches, one after the other. -/
def GuidesEach
    (settings : Settings)
    (sketches : List Sketch)
    (step : Resolution (List String)) : Prop :=
  ∀ before, step.Ensures settings before (WritesEach settings sketches before)

theorem Guides.answer {step : Resolution String} (guides : Guides settings sketch step) :
    GuidesAnswer settings sketch (do let text ← step; return .fragment text) :=
  fun before => (guides before).bind fun _ _ writes => .pure writes

theorem GuidesPlan.answer
    {step : Resolution ProjectionPlan}
    (guides : GuidesPlan settings sketch step) :
    GuidesAnswer settings sketch (do let plan ← step; return .projection plan) :=
  fun before => (guides before).bind fun _ _ writes => .pure writes

theorem Guides.withHint
    {step : Resolution String}
    (guides : Guides settings sketch step)
    (valueType : ValueType) :
    Guides settings (.expecting valueType sketch) (withHint valueType step) :=
  fun _ => .withHint ((guides _).weaken fun _ _ writes => writes.expecting)

section Registry

variable
  {expression : Expression}
  {own : Resolution Resolved}
  (owns : expression.validate = .ok () → GuidesAnswer settings sketch own)

include owns

theorem guides_fragment : Guides settings sketch (Resolvers.standard.fragment expression own) :=
  fun before => (Resolvers.fragment_ensures fun valid => owns valid before).weaken
    fun _ _ taken => taken.2

theorem guides_predicate : Guides settings sketch (Resolvers.standard.predicate expression own) :=
  fun before => (Resolvers.predicate_ensures fun valid => owns valid before).weaken
    fun _ _ taken => taken.2

theorem guidesPlan_plan : GuidesPlan settings sketch (Resolvers.standard.plan expression own) :=
  fun before => (Resolvers.plan_ensures fun valid => owns valid before).weaken
    fun _ _ taken => taken.2

end Registry

end Sketch

/-! ## Looking up targets -/

namespace Context

theorem map_residentIn (qualifier : String) (scopes : List Scope) :
    (residentIn qualifier scopes).map Resident.target = findIn qualifier scopes := by
  induction scopes with
  | nil => rfl
  | cons scope outer inductionHypothesis =>
      cases found : scope.find? qualifier with
      | some binding => simp [residentIn, findIn, found]
      | none =>
          by_cases closed : scope.aliasMode = .unsupported
          · simp [residentIn, findIn, found, closed]
          · simpa [residentIn, findIn, found, closed] using inductionHypothesis

theorem map_resident?_some (context : Context) (qualifier : String) :
    (context.resident? (some qualifier)).map Resident.target = context.find? qualifier :=
  map_residentIn qualifier _

theorem map_resident?_none (context : Context) :
    (context.resident? none).map Resident.target = context.rootTarget? := by
  simp [resident?, Function.comp_def]

end Context

namespace Resolution

variable {settings : Settings} {before : Context}

theorem lookup_finds (qualifier : String) :
    (lookup qualifier).Ensures settings before fun binding after =>
      before.find? qualifier = some binding ∧ after = before := by
  refine .bindContext ?_
  split
  · next binding found => exact .pure ⟨found, rfl⟩
  · exact .fail _

/-- The alias before the properties of a target, which a target of a scope around must have. -/
theorem qualifyingAlias_finds (qualifier : String) :
    (qualifyingAlias qualifier).Ensures settings before fun aliasName after =>
      (∃ binding, before.find? qualifier = some binding ∧ binding.aliasName = aliasName ∧
        (before.current.find? qualifier = none → aliasName.isSome = true)) ∧
        after = before := by
  refine .bindContext ?_
  split
  · next binding found =>
      have inChain : before.find? qualifier = some binding := by
        simp [Context.find?, Context.findIn, found]
      exact .pure ⟨⟨binding, inChain, rfl, by simp [found]⟩, rfl⟩
  · refine (lookup_finds qualifier).bind ?_
    rintro binding _ ⟨found, rfl⟩
    split
    · next aliasName given => exact .pure ⟨⟨binding, found, given, fun _ => rfl⟩, rfl⟩
    · exact .unsupported _

end Resolution

namespace BuiltIn

open Sketch

variable {settings : Settings} {before : Context}

theorem owningAlias_finds (found : Path) :
    (owningAlias found).Ensures settings before fun aliasName after =>
      ((before.resident? found.qualifier?).map Resident.target).bind BoundTarget.aliasName =
          aliasName ∧
        (Mention.property found).GuardedIn before ∧
        after = before := by
  unfold owningAlias
  split
  · next qualifier qualified =>
      refine (qualifyingAlias_finds qualifier).weaken ?_
      rintro aliasName _ ⟨⟨binding, inChain, rfl, aliased⟩, rfl⟩
      rw [qualified, Context.map_resident?_some, inChain]
      refine ⟨rfl, ?_, rfl⟩
      simpa [Mention.GuardedIn, qualified] using ⟨binding, inChain, aliased⟩
  · next unqualified =>
      rw [unqualified, Context.map_resident?_none]
      exact .bindContext (.pure ⟨rfl, by simp [Mention.GuardedIn, unqualified], rfl⟩)

/-- A property is written as the target's own way of qualifying it asks for. -/
theorem text_property (found : Path) (owner : Option BoundTarget) :
    (Mention.property found).text owner =
      match owner.bind BoundTarget.aliasName with
      | some aliasName => aliasName ++ "." ++ found.fullName
      | none => found.fullName := by
  cases owner with
  | none => rfl
  | some binding =>
      cases given : binding.aliasName <;>
        simp [Mention.text, BoundTarget.qualify, given]

theorem path_guided (found : Path) :
    Guides settings (.mention (.property found)) (path found) := by
  intro before
  refine (owningAlias_finds found).bind ?_
  rintro aliasName before ⟨owned, guarded, rfl⟩
  have written := Sketch.Writes.mention settings guarded
  rw [text_property, Rendering.owner, Mention.qualifier?, owned] at written
  split
  · next given => exact .pure written
  · next missing => exact .pure written

theorem filling_guided (filling : Filling) :
    Guides settings (.filling filling) filling.write :=
  fun _ _ _ written => .filling written

theorem spelled_guided
    {kind : FunctionKind}
    {distinct : Bool}
    {sketches : List Sketch}
    {texts : List String}
    {after : Context}
    (each : WritesEach settings sketches before texts after)
    (few : texts.length ≤ 1) :
    (spelled kind texts distinct).Ensures settings after fun text final =>
      (calling kind distinct sketches).Writes settings before text final :=
  .bindDialect (.ofExcept fun _ written => each.calling few written)

/-- A string match is its subject, and then its pattern. -/
theorem matchText_guided
    {sketch : Sketch}
    {left : String}
    {after : Context}
    (writes : sketch.Writes settings before left after)
    (text : String)
    (mode : MatchMode)
    (ignoreCase : Bool) :
    (matchText left text mode ignoreCase).Ensures settings after fun written final =>
      ((subject ignoreCase sketch).append
        ((words " LIKE ").append (.filling (.pattern text mode ignoreCase)))).Writes settings
          before written final := by
  have subjects : (matchSubject left ignoreCase).Ensures settings after fun subjectText final =>
      (subject ignoreCase sketch).Writes settings before subjectText final := by
    cases ignoreCase with
    | true => exact spelled_guided (.cons writes (.nil _)) (by simp)
    | false => exact .pure writes
  refine .bindDialect (subjects.bind fun subjectText between writesSubject => ?_)
  have patterns : Guides settings _ (Filling.pattern text mode ignoreCase).write :=
    filling_guided _
  intro written final run
  rw [bind_apply] at run
  split at run
  · next reference bound allocated =>
      obtain ⟨rfl, rfl⟩ : subjectText ++ " LIKE " ++ reference ++ " " ++
          settings.dialect.escapeSuffix = written ∧ bound = final := by simpa using run
      have written : (Filling.pattern text mode ignoreCase).write settings between =
          (.ok (reference ++ " " ++ settings.dialect.escapeSuffix), bound) := by
        simp only [Filling.write, bind_apply, Resolution.dialect, allocated, pure_apply]
      have writesPattern := patterns between _ bound written
      simpa [String.append_assoc] using
        writesSubject.append (writesPattern.after_words " LIKE ")
  · simp at run

/-! ## Targets -/

/-- Correlations are looked up before a sub-query binds any target. -/
theorem checkCorrelations_finds (names : List String) :
    (checkCorrelations names).Ensures settings before fun _ after =>
      (∀ name ∈ names, ∃ binding, before.find? name = some binding) ∧ after = before := by
  induction names with
  | nil => exact .pure ⟨List.forall_mem_nil _, rfl⟩
  | cons name rest inductionHypothesis =>
      have first : (aliasOf name).Ensures settings before fun _ after =>
          (∃ binding, before.find? name = some binding) ∧ after = before :=
        (lookup_finds name).bind fun binding _ found => .pure ⟨⟨binding, found.1⟩, found.2⟩
      refine first.bind ?_
      rintro _ _ ⟨found, rfl⟩
      exact inductionHypothesis.weaken fun _ _ rests =>
        ⟨List.forall_mem_cons.mpr ⟨found, rests.1⟩, rests.2⟩

theorem introduce_guided
    {target : Target}
    (valid : Validation.targetNames target.name target.aliasName = .ok ()) :
    (introduce target).Ensures settings before fun binding after =>
      (Sketch.declaration target).Writes settings before binding.declaration after :=
  fun _ _ introduced => .declaration valid introduced

theorem introduceJoined_guided
    {joinType : JoinType}
    {target : Target}
    (valid : Validation.targetNames target.name target.aliasName = .ok ()) :
    (introduceJoined joinType target).Ensures settings before fun binding after =>
      (Sketch.declaration target).Writes settings before binding.declaration after := by
  refine .bindDialect (.bindContext ?_)
  split
  · exact .unsupported _
  · refine (introduce_guided valid).bind fun binding after writes => ?_
    split
    · exact .pure writes
    · exact .fail _

/-! ## Plans -/

theorem constantPlan_guided (value : Value) :
    GuidesPlan settings (.filling (.literal value)) (constantPlan value) := by
  intro before
  refine .bindDialect ?_
  have written : Guides settings _ (Filling.literal value).write := filling_guided _
  refine Ensures.bind (written before) fun text after writes => .pure ?_
  simpa [ProjectionPlan.selectList, Selection.render] using writes

theorem selectedTarget_finds (name : Option String) :
    (selectedTarget name).Ensures settings before fun binding after =>
      (before.resident? name).map Resident.target = some binding ∧ after = before := by
  unfold selectedTarget
  split
  · next name =>
      rw [Context.map_resident?_some]
      exact lookup_finds name
  · rw [Context.map_resident?_none]
    refine .bindContext ?_
    split
    · next binding found => exact .pure ⟨found, rfl⟩
    · exact .fail _

theorem entityPlan_guided (name : Option String) :
    GuidesPlan settings (.mention (.entity name)) (entityPlan name) := by
  intro before
  refine (selectedTarget_finds name).bind ?_
  rintro binding before ⟨found, rfl⟩
  have guarded : (Mention.entity name).GuardedIn before := trivial
  have written := Sketch.Writes.mention settings guarded
  rw [Rendering.owner, Mention.qualifier?, found] at written
  exact .pure (by simpa [ProjectionPlan.selectList, Selection.render, Mention.text] using written)

theorem attributesPlan_guided :
    GuidesPlan settings (.mention .attributes) attributesPlan := by
  intro before
  refine .bindContext ?_
  have guarded : Mention.attributes.GuardedIn before := trivial
  have written := Sketch.Writes.mention settings guarded
  rw [Rendering.owner, Mention.qualifier?, Context.map_resident?_none] at written
  split
  · exact .fail _
  · next binding found =>
      split
      · exact .unsupported _
      · refine .bindDialect (.pure ?_)
        rw [ProjectionPlan.selectList_record]
        simpa [found, Mention.text, Function.comp_def] using written

theorem countPlan_guided :
    GuidesPlan settings (.call .count false (.mention .rows)) countPlan := by
  intro before
  refine .bindContext ?_
  have guarded : Mention.rows.GuardedIn before := trivial
  have written := Sketch.Writes.mention settings guarded
  rw [Rendering.owner, Mention.qualifier?, Context.map_resident?_none] at written
  refine (spelled_guided (.cons written (.nil before)) (by simp)).bind
    fun text after writes => .pure ?_
  rw [ProjectionPlan.selectList_scalar]
  exact writes

end BuiltIn
end ObjectQuery
