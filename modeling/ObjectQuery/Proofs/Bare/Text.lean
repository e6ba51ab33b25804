import ObjectQuery.Proofs.Bare.Nodes

/-!
# Texts without aliases

The bare text of a run spells every target without its alias: a declaration is the entity
alone, and a property its name alone. Over a flat sketch this is what a run writes in which the
target has no alias.
-/

namespace ObjectQuery

namespace Rendering

variable {settings : Settings}

/-- The text of a run with the alias of every target left out. -/
def bareText : {sketch : Sketch} → {before after : Context} →
    Rendering settings sketch before after → String
  | _, _, _, .filling text _ => text
  | _, _, _, .mention found before =>
      found.text ((owner found before).map fun owner => owner.target.withoutAlias)
  | _, _, _, .declaration binding _ _ => binding.withoutAlias.declaration
  | _, _, _, .append firstPart secondPart => firstPart.bareText ++ secondPart.bareText
  | _, _, _, .expecting innerPart => innerPart.bareText
  | .call kind distinct _, _, _, .call argumentPart =>
      (settings.dialect.callText kind [argumentPart.bareText] distinct).toOption.getD ""
  | .select distinct _ _ _, _, _, .select sourcePart clausesPart selectedPart =>
      "SELECT " ++ (if distinct then "DISTINCT " else "") ++ selectedPart.bareText ++ " FROM " ++
        sourcePart.bareText ++ clausesPart.bareText
  | _, _, _, .nested queryPart => queryPart.bareText

end Rendering

open Resolution BuiltIn

variable {settings : Settings} {binding : BoundTarget} {before bare : Context}

/-- No target that is found in a bare context has an alias. -/
theorem Context.Bared.aliasName_eq_none (bared : before.Bared binding bare)
    {qualifier : Option String} {found : BoundTarget}
    (finds : (bare.resident? qualifier).map Resident.target = some found) :
    found.aliasName = none := by
  cases qualifier with
  | none =>
      rw [map_resident?_none, bared.rootTarget?] at finds
      obtain ⟨root, -, rfl⟩ := Option.map_eq_some_iff.mp finds
      rfl
  | some qualifier =>
      rw [map_resident?_some] at finds
      by_cases kept : binding.keepsName qualifier
      · rw [find?, findIn, bared.find?_bare kept] at finds
        cases finds
        rfl
      · simp [(bared.find?_bare_eq_none kept).2] at finds

/-- What speaks of no target is written alike in both runs. -/
theorem Filling.write_bares (filling : Filling) :
    Bares settings binding Eq [] filling.write filling.write := by
  cases filling with
  | words text => exact .pure rfl
  | call kind distinct =>
      exact .afterEq .dialect fun _ => .ofExcept fun found written => ⟨found, written, rfl⟩
  | constant value => exact constant_bares value
  | literal value =>
      exact .afterEq .dialect fun _ => .ofExcept fun found written => ⟨found, written, rfl⟩
  | pattern text mode ignoreCase =>
      exact .afterEq .dialect fun _ => (newReference_bares _ _).afterEq fun _ => .pure rfl
  | assigned text =>
      refine .afterEq .dialect fun dialect => ?_
      split
      · exact .pure rfl
      · exact constant_bares _

namespace Rendering

/-- Over a flat sketch the run in the bare context writes the bare text of the other one. -/
theorem text_of_bared
    {sketch : Sketch}
    {after final : Context}
    (flat : sketch.Flat)
    (bared : before.Bared binding bare)
    (rendering : Rendering settings sketch before after)
    (bareRendering : Rendering settings sketch bare final) :
    bareRendering.text = rendering.bareText ∧ after.Bared binding final := by
  induction flat generalizing before bare after final with
  | filling given =>
      cases rendering with
      | filling text written =>
          cases bareRendering with
          | filling text' written' =>
              have ends := given.write_bares before bare bared text after written
              rw [written'] at ends
              cases ends with
              | kept _ results contexts => exact ⟨results.symm, contexts⟩
  | property found =>
      cases rendering
      cases bareRendering
      refine ⟨?_, bared⟩
      have bareName (owner : Option BoundTarget)
          (unaliased : ∀ target ∈ owner, target.aliasName = none) :
          (Mention.property found).text owner = found.fullName := by
        rw [text_property]
        cases owner with
        | none => rfl
        | some target => simp [unaliased target rfl]
      have unaliased : ∀ target ∈ (owner (.property found) bare).map Resident.target,
          target.aliasName = none := fun target finds => bared.aliasName_eq_none finds
      simp only [text, bareText]
      rw [bareName _ unaliased, bareName]
      intro target finds
      obtain ⟨owner, -, rfl⟩ := Option.map_eq_some_iff.mp finds
      rfl
  | append _ _ firstHypothesis secondHypothesis =>
      cases rendering with
      | append firstPart secondPart =>
          cases bareRendering with
          | append firstPart' secondPart' =>
              obtain ⟨firstText, between⟩ := firstHypothesis bared firstPart firstPart'
              obtain ⟨secondText, contexts⟩ := secondHypothesis between secondPart secondPart'
              exact ⟨by rw [text, bareText, firstText, secondText], contexts⟩
  | expecting _ valueType inductionHypothesis =>
      cases rendering with
      | expecting innerPart =>
          cases bareRendering with
          | expecting innerPart' =>
              obtain ⟨innerText, contexts⟩ :=
                inductionHypothesis (bared.withHint (some valueType)) innerPart innerPart'
              refine ⟨innerText, ?_⟩
              rw [bared.hint]
              exact contexts.withHint before.hint
  | call _ kind distinct inductionHypothesis =>
      cases rendering with
      | call argumentPart =>
          cases bareRendering with
          | call argumentPart' =>
              obtain ⟨argumentText, contexts⟩ :=
                inductionHypothesis bared argumentPart argumentPart'
              exact ⟨by rw [text, bareText, argumentText], contexts⟩

end Rendering

/-! ## Binding the target -/

namespace Resolution

/-- The entity of a target does not depend on the alias mode. -/
theorem targetEntity_root (target : Target) (catalog : Option Catalog) :
    ∃ outcome asked, ∀ mode,
      targetEntity target settings (Context.root mode catalog) =
        (outcome, Context.root mode asked) := by
  obtain ⟨answer, asked, asks⟩ : ∃ answer asked, ∀ mode,
      askCatalog target.name settings (Context.root mode catalog) =
        (.ok answer, Context.root mode asked) := by
    cases catalog with
    | none => exact ⟨none, none, fun mode => rfl⟩
    | some catalog => exact ⟨_, _, fun mode => rfl⟩
  simp only [targetEntity, bind_apply, asks]
  rcases target.entity with _ | entity <;> rcases answer with _ | _ | found <;>
    exact ⟨_, asked, fun mode => rfl⟩

/-- The target of a statement is bound with its alias or without. -/
theorem introduce_root
    {target : Target}
    {catalog : Option Catalog}
    {after : Context}
    (introduced : introduce target settings (Context.root .auto catalog) = (.ok binding, after)) :
    ∃ aliasName final, binding.aliasName = some aliasName ∧ binding.name = target.name ∧
      introduce target settings (Context.root .unsupported catalog) =
        (.ok binding.withoutAlias, final) ∧
      after.Bared binding final := by
  obtain ⟨outcome, asked, entities⟩ : ∃ outcome asked, ∀ mode,
      targetEntity target settings (Context.root mode catalog) =
        (outcome, Context.root mode asked) := targetEntity_root target catalog
  simp only [introduce, bind_apply, entities] at introduced ⊢
  cases outcome with
  | error error => simp at introduced
  | ok known =>
      obtain ⟨aliasName, used, allocated, bindings, alone, parameters, hint⟩ :
          ∃ aliasName used, allocateAlias target.name target.aliasName settings
              (Context.root .auto asked) = (.ok (some aliasName), used) ∧
            used.current.bindings = [] ∧ used.enclosing = [] ∧
            used.parameters = ParameterTable.empty ∧ used.hint = none := by
        cases given : target.aliasName with
        | none => exact ⟨_, _, rfl, rfl, rfl, rfl, rfl⟩
        | some aliasName => exact ⟨aliasName, _, rfl, rfl, rfl, rfl, rfl⟩
      have unaliased : allocateAlias target.name target.aliasName settings
          (Context.root .unsupported asked) = (.ok none, Context.root .unsupported asked) := rfl
      simp only [allocated, unaliased, Resolution.modify, pure_apply] at introduced ⊢
      obtain ⟨rfl, rfl⟩ := by simpa using introduced
      refine ⟨aliasName, _, rfl, rfl, rfl, ?_⟩
      exact ⟨by simp [Context.bind, bindings], rfl, rfl, alone, parameters.symm, hint.symm⟩

end Resolution

/-! ## Writes -/

namespace Rendering

/-- Over a flat sketch no target is bound. -/
theorem bound_of_flat
    {sketch : Sketch}
    {after : Context}
    (flat : sketch.Flat)
    (rendering : Rendering settings sketch before after) :
    rendering.bound = [] := by
  induction flat generalizing before after with
  | filling given =>
      cases rendering
      rfl
  | property found =>
      cases rendering
      rfl
  | append _ _ firstHypothesis secondHypothesis =>
      cases rendering with
      | append firstPart secondPart =>
          rw [bound, firstHypothesis firstPart, secondHypothesis secondPart, List.append_nil]
  | expecting _ _ inductionHypothesis =>
      cases rendering with
      | expecting innerPart => exact inductionHypothesis innerPart
  | call _ _ _ inductionHypothesis =>
      cases rendering with
      | call argumentPart => exact inductionHypothesis argumentPart

/-- The declared target of a write is its only one, and without an alias for it the bare text
is written. -/
theorem text_of_write
    {opening : String}
    {target : Target}
    {rest : Sketch}
    {catalog : Option Catalog}
    {after : Context}
    (flat : rest.Flat)
    (rendering : Rendering settings
      ((Sketch.words opening).append ((Sketch.declaration target).append rest))
      (Context.root .auto catalog) after) :
    ∃ binding declared,
      introduce target settings (Context.root .auto catalog) = (.ok binding, declared) ∧
        rendering.bound = [⟨0, binding⟩] ∧
        ∀ final,
          ∀ bareRendering : Rendering settings
            ((Sketch.words opening).append ((Sketch.declaration target).append rest))
            (Context.root .unsupported catalog) final,
          bareRendering.text = rendering.bareText := by
  cases rendering with
  | append openingPart behind =>
      cases openingPart with
      | filling _ written =>
          cases written
          cases behind with
          | append declarationPart restPart =>
              cases declarationPart with
              | declaration binding _ introduced =>
                  refine ⟨binding, _, introduced, ?_, fun final bareRendering => ?_⟩
                  · simp only [bound, bound_of_flat flat restPart]
                    rfl
                  · obtain ⟨_, bareDeclared, -, -, introducedBare, bared⟩ :=
                      introduce_root introduced
                    cases bareRendering with
                    | append openingPart' behind' =>
                        cases openingPart' with
                        | filling _ written' =>
                            cases written'
                            cases behind' with
                            | append declarationPart' restPart' =>
                                cases declarationPart' with
                                | declaration _ _ introduced' =>
                                    rw [introducedBare] at introduced'
                                    cases introduced'
                                    have restText := (text_of_bared flat bared restPart restPart').1
                                    simp only [text, bareText, restText]

end Rendering
end ObjectQuery
