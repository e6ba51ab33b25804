import Mathlib.Data.List.Forall2
import ObjectQuery.Proofs.Ensures
import ObjectQuery.Proofs.Nesting.Outline

/-!
# Steps that write by an outline

A step writes by some pieces when every text it may end with is made up of them. Here are
the calls of functions, and the ways in which the registry takes what a step writes.
-/

namespace ObjectQuery

open Piece Resolution

/-! ## Calls -/

namespace FunctionSpelling

/-- A template is filled as its pieces are. -/
theorem fits_filled
    {argument : List Piece}
    {text : String}
    (fits : Fits argument text)
    (passed : Nat)
    (characters : List Char) :
    Fits (filled argument (places passed characters))
      (String.ofList
        (Text.replaceFrom (placeholder 0).toList text.toList passed characters)) := by
  induction characters generalizing passed with
  | nil => simp [places, filled, Text.replaceFrom, Fits]
  | cons character rest inductionHypothesis =>
      cases passed with
      | succ passed =>
          simp only [places, Text.replaceFrom]
          exact inductionHypothesis passed
      | zero =>
          simp only [places, Text.replaceFrom]
          split
          · rw [String.ofList_append, String.ofList_toList]
            exact fits.append (inductionHypothesis _)
          · have first : String.ofList (character :: Text.replaceFrom (placeholder 0).toList
                text.toList 0 rest) = String.singleton character ++
                  String.ofList (Text.replaceFrom (placeholder 0).toList text.toList 0 rest) :=
              String.toList_inj.mp (by simp)
            rw [first]
            exact (inductionHypothesis 0).afterWords _

theorem fits_marked
    {argument : List Piece}
    {text : String}
    (fits : Fits argument text)
    (distinct : Bool) :
    Fits (marked distinct argument) (if distinct then "DISTINCT " ++ text else text) := by
  cases distinct with
  | true => exact fits.afterWords "DISTINCT "
  | false => exact fits

end FunctionSpelling

/-- A call is written as its outline tells. -/
theorem Dialect.fits_callOutline
    {dialect : Dialect}
    {kind : FunctionKind}
    {distinct : Bool}
    {pieces : List (List Piece)}
    {arguments : List String}
    {text : String}
    (each : List.Forall₂ Fits pieces arguments)
    (few : arguments.length ≤ 1)
    (written : dialect.callText kind arguments distinct = .ok text) :
    Fits (dialect.callOutline kind distinct pieces) text := by
  unfold callText SpellingRegistry.render? at written
  unfold callOutline
  cases found : dialect.functions.find? dialect.platform kind with
  | none => simp [found] at written
  | some spelling =>
      simp only [found, Option.map_some, Except.ok.injEq] at written
      cases each with
      | nil =>
          simp only [FunctionSpelling.render, FunctionSpelling.fill] at written
          rw [← written]
          exact fits_words _
      | cons fits rest =>
          cases rest with
          | cons => simp at few
          | nil =>
              simp only [FunctionSpelling.render, FunctionSpelling.fill, Text.replaceAll] at written
              rw [← written]
              exact FunctionSpelling.fits_filled (FunctionSpelling.fits_marked fits distinct) 0 _

/-! ## Steps -/

namespace Outline

variable {settings : Settings} {pieces : List Piece} {expression : Expression}

/-- Whatever the step writes is made up of the pieces. -/
def WritesBy (settings : Settings) (pieces : List Piece) (step : Resolution String) : Prop :=
  ∀ before, step.Ensures settings before fun text _ => Fits pieces text

/-- Whatever the step plans to select is made up of the pieces. -/
def PlansBy (settings : Settings) (pieces : List Piece) (step : Resolution ProjectionPlan) : Prop :=
  ∀ before, step.Ensures settings before fun plan _ => Fits pieces plan.selectList

/-- Whatever the step answers is made up of the pieces. -/
def AnswersBy (settings : Settings) (pieces : List Piece) (step : Resolution Resolved) : Prop :=
  ∀ before, step.Ensures settings before
    (Resolved.Ensures (fun text _ => Fits pieces text) fun plan _ => Fits pieces plan.selectList)

theorem WritesBy.answers {step : Resolution String} (writes : WritesBy settings pieces step) :
    AnswersBy settings pieces (do let text ← step; return .fragment text) :=
  fun before => (writes before).bind fun _ _ fits => .pure fits

theorem PlansBy.answers {step : Resolution ProjectionPlan} (plans : PlansBy settings pieces step) :
    AnswersBy settings pieces (do let plan ← step; return .projection plan) :=
  fun before => (plans before).bind fun _ _ fits => .pure fits

theorem WritesBy.withHint
    {hint : ValueType}
    {step : Resolution String}
    (writes : WritesBy settings pieces step) :
    WritesBy settings pieces (withHint hint step) :=
  fun _ => .withHint (writes _)

/-- A step of which nothing is known writes by a gap. -/
theorem writesBy_gap (step : Resolution String) : WritesBy settings [.gap] step :=
  fun _ text _ _ => fits_gap text

section Registry

variable
  {own : Resolution Resolved}
  (owns : expression.validate = .ok () → AnswersBy settings pieces own)

include owns

theorem writesBy_fragment : WritesBy settings pieces (Resolvers.standard.fragment expression own) :=
  fun before => (Resolvers.fragment_ensures fun valid => owns valid before).weaken
    fun _ _ taken => taken.2

theorem writesBy_predicate :
    WritesBy settings pieces (Resolvers.standard.predicate expression own) :=
  fun before => (Resolvers.predicate_ensures fun valid => owns valid before).weaken
    fun _ _ taken => taken.2

theorem plansBy_plan : PlansBy settings pieces (Resolvers.standard.plan expression own) :=
  fun before => (Resolvers.plan_ensures fun valid => owns valid before).weaken
    fun _ _ taken => taken.2

end Registry

theorem spelled_writesBy
    {kind : FunctionKind}
    {distinct : Bool}
    {pieces : List (List Piece)}
    {arguments : List String}
    (each : List.Forall₂ Fits pieces arguments)
    (few : arguments.length ≤ 1) :
    WritesBy settings (settings.dialect.callOutline kind distinct pieces)
      (BuiltIn.spelled kind arguments distinct) := by
  intro before
  exact .bindDialect (.ofExcept fun text written => Dialect.fits_callOutline each few written)

theorem fits_enclosing
    {text : String}
    (operand : Expression)
    (fits : Fits pieces text) :
    Fits (enclosing operand pieces) (BuiltIn.enclose operand text) := by
  cases operand with
  | subQuery query =>
      have closing : Fits (pieces ++ [.words ")"]) (text ++ ")") := fits.append (fits_words ")")
      simpa [enclosing, BuiltIn.enclose, String.append_assoc] using closing.afterWords "("
  | _ => exact fits

theorem fits_junction
    {word : String}
    {conditions : List (List Piece)}
    {texts : List String}
    (each : List.Forall₂ Fits conditions texts) :
    Fits (junction word conditions) (BuiltIn.joinConditions word texts) := by
  have parts : List.Forall₂ Fits (conditions.map fun pieces => .words "(" :: pieces ++ [.words ")"])
      (texts.map fun text => "(" ++ text ++ ")") := by
    rw [List.forall₂_map_left_iff, List.forall₂_map_right_iff]
    refine each.imp fun pieces text fits => ?_
    rw [String.append_assoc]
    exact (fits.append (fits_words ")")).afterWords "("
  exact fits_separated _ parts

/-- A string match is its subject, and then a reference and the escape. -/
theorem matchText_writesBy
    {left : String}
    (fits : Fits pieces left)
    (text : String)
    (mode : MatchMode)
    (ignoreCase : Bool) :
    WritesBy settings
      ((if ignoreCase then settings.dialect.callOutline .lower false [pieces] else pieces) ++
        [.words " LIKE ", .gap])
      (BuiltIn.matchText left text mode ignoreCase) := by
  have subjects : WritesBy settings
      (if ignoreCase then settings.dialect.callOutline .lower false [pieces] else pieces)
      (BuiltIn.matchSubject left ignoreCase) := by
    cases ignoreCase with
    | true => exact spelled_writesBy (.cons fits .nil) (by simp)
    | false => exact fun before => .pure fits
  intro before
  refine .bindDialect ((subjects before).bind fun subject between fitsSubject => ?_)
  intro written after run
  rw [bind_apply] at run
  split at run
  · next reference after' bound =>
      obtain ⟨rfl, -⟩ : subject ++ " LIKE " ++ reference ++ " " ++ settings.dialect.escapeSuffix =
          written ∧ after' = after := by simpa using run
      simp only [String.append_assoc]
      exact fitsSubject.append ((fits_gap _).afterWords " LIKE ")
  · simp at run

theorem plansBy_gap (step : Resolution ProjectionPlan) : PlansBy settings [.gap] step :=
  fun _ plan _ _ => fits_gap plan.selectList

end Outline
end ObjectQuery
