import Mathlib.Data.List.Forall2
import ObjectQuery.Proofs.Bare.Flat
import ObjectQuery.Proofs.Bare.Steps
import ObjectQuery.Proofs.Sketch.Steps

/-!
# Flat nodes with and without an alias

A flat value or condition that is written where its target has an alias is written where the
target has none, unless one of its properties is read by the alias. The proof follows the
recursion of the resolvers over flat nodes.
-/

namespace ObjectQuery

/-! ## Texts that are seen alike -/

namespace Text.SeenAlike

variable {text text' other other' : String}

theorem refl (text : String) : SeenAlike text text :=
  rfl

theorem ofVisible (visible : isBlank text = false) (visible' : isBlank text' = false) :
    SeenAlike text text' :=
  visible.trans visible'.symm

theorem append (texts : SeenAlike text text') (others : SeenAlike other other') :
    SeenAlike (text ++ other) (text' ++ other') := by
  rw [SeenAlike, isBlank_append, isBlank_append, texts, others]

/-- A mark is replaced by texts that are seen alike. -/
theorem replaceAll (texts : SeenAlike text text') (whole mark : String) :
    SeenAlike (Text.replaceAll whole mark text) (Text.replaceAll whole mark text') := by
  have characters (passed : Nat) (rest : List Char) :
      (replaceFrom mark.toList text.toList passed rest).all isBlankCharacter =
        (replaceFrom mark.toList text'.toList passed rest).all isBlankCharacter := by
    induction rest generalizing passed with
    | nil => simp [replaceFrom]
    | cons character rest inductionHypothesis =>
        cases passed with
        | succ passed => simpa only [replaceFrom] using inductionHypothesis passed
        | zero =>
            simp only [replaceFrom]
            split
            · rw [List.all_append, List.all_append, inductionHypothesis]
              exact congrArg (· && _) texts
            · rw [List.all_cons, List.all_cons, inductionHypothesis]
  simpa only [SeenAlike, isBlank, Text.replaceAll, String.toList_ofList] using
    characters 0 whole.toList

end Text.SeenAlike

open Text (SeenAlike)

/-- A text that is not empty and holds no blank can be seen. -/
theorem Text.isBlank_of_hasBlank {text : String} (nonempty : text ≠ "")
    (unbroken : hasBlank text = false) :
    isBlank text = false := by
  have characters : text.toList ≠ [] := by simpa using nonempty
  obtain ⟨first, rest, split⟩ := List.exists_cons_of_ne_nil characters
  simp only [hasBlank, List.any_eq_false] at unbroken
  have visible := unbroken first (by simp [split])
  simp [isBlank, split, visible]

/-- The name of a valid path can be seen. -/
theorem Validation.isBlank_fullName {found : Path} (valid : path found = .ok ()) :
    Text.isBlank found.fullName = false := by
  obtain ⟨name, valueType, parent, target, aliasName⟩ := found
  have visible : Text.isBlank name = false := by
    unfold path at valid
    simp only [andThen_ok_iff, require_ok_iff, bne_iff_ne, Bool.not_eq_true'] at valid
    exact Text.isBlank_of_hasBlank valid.1 valid.2.1
  cases parent with
  | none => exact visible
  | some parent => simp [Path.fullName, Text.isBlank_append, visible]

/-- A call is seen alike with arguments that are. -/
theorem Dialect.callText_seenAlike
    {dialect : Dialect}
    {kind : FunctionKind}
    {texts texts' : List String}
    {distinct : Bool}
    {text : String}
    (alike : List.Forall₂ SeenAlike texts texts')
    (few : texts.length ≤ 1)
    (written : dialect.callText kind texts distinct = .ok text) :
    ∃ text', dialect.callText kind texts' distinct = .ok text' ∧ SeenAlike text text' := by
  simp only [callText, SpellingRegistry.render?] at written ⊢
  cases spelled : dialect.functions.find? dialect.platform kind with
  | none => simp [spelled] at written
  | some spelling =>
      simp only [spelled, Option.map_some, Except.ok.injEq] at written ⊢
      subst written
      refine ⟨_, rfl, ?_⟩
      cases alike with
      | nil => exact .refl _
      | cons first rest =>
          cases rest with
          | cons second rest => simp at few
          | nil =>
              simp only [FunctionSpelling.render, FunctionSpelling.fill]
              refine SeenAlike.replaceAll ?_ _ _
              split
              · exact (SeenAlike.refl _).append first
              · exact first

namespace BuiltIn

open Resolution

variable {settings : Settings} {binding : BoundTarget} {depth : Nat}

/-! ## Nodes without parts -/

/-- The alias of a property that is read by the alias is lost. -/
theorem owningAlias_bares (found : Path) :
    Bares settings binding (fun _ _ => True) [⟨depth, .path found⟩] (owningAlias found)
      (owningAlias found) := by
  intro before bare bared aliasName after ran
  unfold owningAlias at ran ⊢
  cases qualified : found.qualifier? with
  | none =>
      simp only [qualified] at ran ⊢
      cases ran
      refine .kept (List.forall_mem_singleton.mpr ?_) trivial bared
      rintro _ ⟨⟩ qualifier named
      simp [qualified] at named
  | some qualifier =>
      simp only [qualified] at ran ⊢
      obtain ⟨⟨owner, finds, -⟩, rfl⟩ := qualifyingAlias_finds qualifier aliasName after ran
      by_cases kept : binding.keepsName qualifier
      · have bareAlias : qualifyingAlias qualifier settings bare = (.ok none, bare) := by
          simp [qualifyingAlias, bind_apply, Resolution.context, bared.find?_bare kept,
            BoundTarget.withoutAlias]
        rw [bareAlias]
        refine .kept (List.forall_mem_singleton.mpr ?_) trivial bared
        rintro _ ⟨⟩ qualifier' named
        obtain rfl : qualifier = qualifier' := by simpa [qualified] using named
        exact kept
      · obtain ⟨inScope, inSight⟩ := bared.find?_bare_eq_none kept
        have missing : qualifyingAlias qualifier settings bare =
            (.error (.missingTarget qualifier), bare) := by
          simp [qualifyingAlias, lookup, bind_apply, Resolution.context, inScope, inSight,
            Resolution.fail]
        rw [missing]
        refine .lost List.mem_cons_self (fun stays => ?_)
          ((bared.answers_of_find? finds).resolve_right kept)
        exact kept (stays found rfl qualifier (by simp [qualified]))

/-- A property is written with its alias or without, and can be seen in both cases. -/
theorem path_bares {found : Path} (valid : Validation.path found = .ok ()) :
    Bares settings binding SeenAlike [⟨depth, .path found⟩] (path found) (path found) := by
  have visible := Validation.isBlank_fullName valid
  have qualified (aliasName : String) :
      Text.isBlank (aliasName ++ "." ++ found.fullName) = false := by
    simp [Text.isBlank_append, visible]
  refine (owningAlias_bares found).andThen fun aliasName aliasName' _ => ?_
  cases aliasName with
  | none =>
      cases aliasName' with
      | none => exact .pure (.refl _)
      | some name => exact .pure (.ofVisible visible (qualified name))
  | some name =>
      cases aliasName' with
      | none => exact .pure (.ofVisible (qualified name) visible)
      | some name' => exact .pure (.ofVisible (qualified name) (qualified name'))

/-- A value is bound to the same parameter, since the same type is expected of it. -/
theorem bindValue_bares (value : Value) :
    Bares settings binding Eq [] (bindValue value) (bindValue value) := by
  intro before bare bared found after ran
  have same : bindValue value settings bare =
      newReference value (bindingType before.hint value) settings bare := by
    simp [bindValue, bind_apply, Resolution.context, bared.hint]
  rw [same]
  exact newReference_bares value _ before bare bared found after ran

theorem bindItems_bares (items : List Value) :
    Bares settings binding Eq [] (bindItems items) (bindItems items) := by
  induction items with
  | nil => exact .pure rfl
  | cons item rest inductionHypothesis =>
      exact (bindValue_bares item).afterEq fun _ => inductionHypothesis.afterEq fun _ => .pure rfl

theorem constant_bares (value : Value) :
    Bares settings binding Eq [] (constant value) (constant value) := by
  cases value with
  | null => exact .pure rfl
  | list items => exact (bindItems_bares items).afterEq fun _ => .pure rfl
  | _ => exact bindValue_bares _

theorem spelled_bares
    {texts texts' : List String}
    (alike : List.Forall₂ SeenAlike texts texts')
    (few : texts.length ≤ 1)
    (kind : FunctionKind)
    (distinct : Bool) :
    Bares settings binding SeenAlike [] (spelled kind texts distinct)
      (spelled kind texts' distinct) :=
  .afterEq .dialect fun _ => .ofExcept fun _ written =>
    Dialect.callText_seenAlike alike few written

theorem matchedText_bares (value : Expression) :
    Bares settings binding Eq [] (matchedText value) (matchedText value) := by
  unfold matchedText
  split
  · exact .pure rfl
  · exact .fail _

theorem matchText_bares
    {left left' : String}
    (alike : SeenAlike left left')
    (text : String)
    (mode : MatchMode)
    (ignoreCase : Bool) :
    Bares settings binding SeenAlike [] (matchText left text mode ignoreCase)
      (matchText left' text mode ignoreCase) := by
  have subjects : Bares settings binding SeenAlike [] (matchSubject left ignoreCase)
      (matchSubject left' ignoreCase) := by
    cases ignoreCase with
    | true => exact spelled_bares (.cons alike .nil) (by simp) .lower false
    | false => exact .pure alike
  refine .afterEq .dialect fun dialect => subjects.after fun subject subject' seen => ?_
  refine (newReference_bares _ _).afterEq fun reference => .pure ?_
  exact (((seen.append (.refl _)).append (.refl _)).append (.refl _)).append (.refl _)

theorem enclose_seenAlike {text text' : String} (alike : SeenAlike text text')
    (operand : Expression) :
    SeenAlike (enclose operand text) (enclose operand text') := by
  cases operand with
  | subQuery query => exact ((SeenAlike.refl _).append alike).append (.refl _)
  | _ => exact alike

/-- Conditions between parentheses can be seen. -/
theorem isBlank_joinConditions (word text : String) (texts : List String) :
    Text.isBlank (joinConditions word (text :: texts)) = false := by
  refine Text.isBlank_intercalate_cons ?_ _ _
  simp [Text.isBlank_append, show Text.isBlank "(" = false by decide]

/-! ## Flat nodes -/

/-- A written text is given as an answer. -/
theorem answer_of_text
    {inquiries : List Inquiry}
    {step bareStep : Resolution String}
    (steps : Bares settings binding SeenAlike inquiries step bareStep) :
    Bares settings binding Resolved.SeenAlike inquiries
      (do let text ← step; return Resolved.fragment text)
      (do let text ← bareStep; return Resolved.fragment text) :=
  steps.andThen fun _ _ texts => .pure (.fragment texts)

mutual

theorem answer_bares :
    (node : Expression) → node.isFlat = true → node.validate = .ok () →
      Bares settings binding Resolved.SeenAlike (Inquiry.into depth node)
        (answer .standard node) (answer .standard node)
  | .path found, _, valid => by
      simp only [Inquiry.into, Expression.inquiries, answer]
      exact answer_of_text (path_bares valid)
  | .constant value, _, _ => by
      simp only [Inquiry.into, Expression.inquiries, answer]
      have texts : Bares settings binding Resolved.SeenAlike []
          (do let text ← constant value; return Resolved.fragment text)
          (do let text ← constant value; return Resolved.fragment text) :=
        (constant_bares value).afterEq fun text => .pure (.fragment (.refl text))
      exact texts.about (by simp)
  | .function call, flat, valid => by
      simp only [Expression.isFlat] at flat
      simp only [Inquiry.into, Expression.inquiries, answer]
      exact (answer_of_text (function_bares call flat valid)).about (by simp)
  | .custom node, _, _ => by
      simp only [answer]
      exact .fail _
  | .subQuery _, flat, _ | .filter _, flat, _ | .sort _, flat, _ | .aggregation _, flat, _
  | .projection _, flat, _ | .target _, flat, _ => by simp [Expression.isFlat] at flat

theorem function_bares :
    (call : FunctionCall) → call.isFlat = true → Validation.function call = .ok () →
      Bares settings binding SeenAlike (call.inquiries depth) (function .standard call)
        (function .standard call)
  | .mk kind arguments distinct, flat, valid => by
      simp only [FunctionCall.isFlat] at flat
      simp only [FunctionCall.inquiries, function]
      refine (fragments_bare arguments flat).andThen fun texts texts' alike => ?_
      have few : texts.length ≤ 1 := by
        rw [alike.1]
        exact Validation.length_le_one_of_function valid
      exact spelled_bares alike.2 few kind distinct

theorem fragments_bare :
    (nodes : List Expression) → Expression.areFlat nodes = true →
      Bares settings binding
        (fun texts texts' => texts.length = nodes.length ∧ List.Forall₂ SeenAlike texts texts')
        (Expression.eachInquiries depth nodes) (fragments .standard nodes)
        (fragments .standard nodes)
  | [], _ => by
      simp only [Expression.eachInquiries, fragments]
      exact .pure ⟨rfl, .nil⟩
  | first :: rest, flat => by
      simp only [Expression.areFlat, Bool.and_eq_true] at flat
      simp only [Expression.eachInquiries, fragments]
      refine (Resolvers.fragment_bares (answer_bares first flat.1)).bind fun text text' seen => ?_
      refine (fragments_bare rest flat.2).andThen fun texts texts' alike => .pure ?_
      exact ⟨by simp [alike.1], .cons seen alike.2⟩

theorem filter_bares :
    (condition : Filter) → condition.isFlat = true →
      Bares settings binding Resolved.SeenAlike (condition.inquiries depth)
        (filter .standard condition) (filter .standard condition)
  | .isNull operand, flat | .isNotNull operand, flat => by
      simp only [Filter.isFlat] at flat
      simp only [Filter.inquiries, filter]
      refine (Resolvers.fragment_bares (answer_bares operand flat)).andThen fun _ _ seen => ?_
      exact .pure (.fragment ((enclose_seenAlike seen operand).append (.refl _)))
  | .compare left operator right, flat => by
      simp only [Filter.isFlat, Bool.and_eq_true] at flat
      simp only [Filter.inquiries, filter]
      refine (Resolvers.fragment_bares (answer_bares left flat.1)).bind fun _ _ seenLeft => ?_
      refine ((Resolvers.fragment_bares (answer_bares right flat.2)).withHint _).andThen
        fun _ _ seenRight => ?_
      exact .pure (.fragment (((enclose_seenAlike seenLeft left).append (.refl _)).append
        (enclose_seenAlike seenRight right)))
  | .isIn left right, flat | .isNotIn left right, flat => by
      simp only [Filter.isFlat, Bool.and_eq_true] at flat
      simp only [Filter.inquiries, filter]
      refine (Resolvers.fragment_bares (answer_bares left flat.1)).bind fun _ _ seenLeft => ?_
      refine ((Resolvers.fragment_bares (answer_bares right flat.2)).withHint _).andThen
        fun _ _ seenRight => ?_
      exact .pure (.fragment ((((enclose_seenAlike seenLeft left).append (.refl _)).append
        seenRight).append (.refl _)))
  | .between operand lower upper, flat => by
      simp only [Filter.isFlat, Bool.and_eq_true] at flat
      obtain ⟨flatOperand, flatLower, flatUpper⟩ := flat
      simp only [Filter.inquiries, filter]
      refine (Resolvers.fragment_bares (answer_bares operand flatOperand)).bind fun _ _ seen => ?_
      refine ((Resolvers.fragment_bares (answer_bares lower flatLower)).withHint _).bind
        fun _ _ seenLower => ?_
      refine ((Resolvers.fragment_bares (answer_bares upper flatUpper)).withHint _).andThen
        fun _ _ seenUpper => ?_
      exact .pure (.fragment (((((enclose_seenAlike seen operand).append (.refl _)).append
        (enclose_seenAlike seenLower lower)).append (.refl _)).append
          (enclose_seenAlike seenUpper upper)))
  | .stringMatch left value mode ignoreCase, flat => by
      simp only [Filter.isFlat] at flat
      simp only [Filter.inquiries, filter]
      refine (matchedText_bares value).afterEq fun text => ?_
      refine (Resolvers.fragment_bares (answer_bares left flat)).andThen fun _ _ seen => ?_
      exact answer_of_text (matchText_bares (enclose_seenAlike seen left) text mode ignoreCase)
  | .and [], _ | .or [], _ => by
      simp only [Filter.inquiries, Filter.eachInquiries, filter]
      exact .pure .emptyPredicate
  | .and (first :: rest), flat | .or (first :: rest), flat => by
      simp only [Filter.isFlat, Filter.areFlat, Bool.and_eq_true] at flat
      simp only [Filter.inquiries, Filter.eachInquiries, filter]
      refine (Resolvers.predicate_bares fun _ =>
        (filter_bares first flat.1).about (by simp)).bind fun text text' _ => ?_
      refine (predicates_bare rest flat.2).andThen fun texts texts' _ => .pure (.fragment ?_)
      exact .ofVisible (isBlank_joinConditions _ text texts) (isBlank_joinConditions _ text' texts')
  | .not condition, flat => by
      simp only [Filter.isFlat] at flat
      simp only [Filter.inquiries, filter]
      refine (Resolvers.predicate_bares fun _ =>
        (filter_bares condition flat).about (by simp)).andThen fun _ _ seen => ?_
      exact .pure (.fragment (((SeenAlike.refl _).append seen).append (.refl _)))
  | .hasRows _, flat | .hasNoRows _, flat => by simp [Filter.isFlat] at flat

theorem predicates_bare :
    (conditions : List Filter) → Filter.areFlat conditions = true →
      Bares settings binding (fun _ _ => True) (Filter.eachInquiries depth conditions)
        (predicates .standard conditions) (predicates .standard conditions)
  | [], _ => by
      simp only [Filter.eachInquiries, predicates]
      exact .pure trivial
  | first :: rest, flat => by
      simp only [Filter.areFlat, Bool.and_eq_true] at flat
      simp only [Filter.eachInquiries, predicates]
      refine (Resolvers.predicate_bares fun _ =>
        (filter_bares first flat.1).about (by simp)).bind fun _ _ _ => ?_
      exact (predicates_bare rest flat.2).andThen fun _ _ _ => .pure trivial

end

end BuiltIn
end ObjectQuery
