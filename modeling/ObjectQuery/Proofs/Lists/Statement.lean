import ObjectQuery.Proofs.Lists.Validation
import ObjectQuery.Proofs.Occurrence
import ObjectQuery.Proofs.Parameters.Ledger
import ObjectQuery.Proofs.RoundTrip.Calendar

/-!
# Where lists reach the text

A filter that is valid holds a list wherever an operand may stand, apart from the right side of
a comparison. In whatever place it stands, the list is written in the same way: a reference for
each item, with commas between them and nothing around them.
-/

namespace ObjectQuery

/-- The references to so many parameters, allocated after the first ones. -/
def Dialect.references (dialect : Dialect) (first count : Nat) : List String :=
  (dialect.numberedNames first count).map dialect.referenceTo

theorem Dialect.references_succ (dialect : Dialect) (first count : Nat) :
    dialect.references first (count + 1) =
      dialect.referenceTo (dialect.numberedName (first + 1)) ::
        dialect.references (first + 1) count := by
  simp [references, numberedNames, List.range'_succ]

theorem Dialect.isBlank_referenceTo_numberedName (dialect : Dialect) (number : Nat) :
    Text.isBlank (dialect.referenceTo (dialect.numberedName number)) = false := by
  simp [referenceTo, numberedName, Text.isBlank_append, Calendar.isBlank_padded]

namespace BuiltIn

open Resolution

/-- Each item of a list gets a parameter, and is written as the reference to it. -/
theorem bindItems_apply (items : List Value) (settings : Settings) (before : Context) :
    ∃ after, bindItems items settings before =
      (.ok (settings.dialect.references before.parameters.size items.length), after) := by
  induction items generalizing before with
  | nil => exact ⟨before, rfl⟩
  | cons item rest inductionHypothesis =>
      let name := settings.dialect.numberedName (before.parameters.size + 1)
      let between : Context :=
        { before with
          parameters := before.parameters.push name (.of item (bindingType before.hint item)) }
      have bound : bindValue item settings before =
          (.ok (settings.dialect.referenceTo name), between) := rfl
      obtain ⟨after, others⟩ := inductionHypothesis between
      have size : between.parameters.size = before.parameters.size + 1 :=
        ParameterTable.size_push _ _ _
      refine ⟨after, ?_⟩
      rw [bindItems, bind_apply, bound]
      simp only [bind_apply, others, size]
      rw [List.length_cons, Dialect.references_succ]
      rfl

end BuiltIn

namespace Resolvers

open Resolution

variable {settings : Settings} {before after : Context}

/-- The library's own text for a node that passes its check is taken if it can be seen. -/
theorem fragment_of_visible
    {expression : Expression}
    {own : Resolution Resolved}
    {text : String}
    (valid : expression.validate = .ok ())
    (writes : expression.kind.ownOutput? = some .fragment)
    (visible : Text.isBlank text = false)
    (answered : own settings before = (.ok (.fragment text), after)) :
    standard.fragment expression own settings before = (.ok text, after) := by
  have acceptable : (Resolved.fragment text).isAcceptable .fragment = true := by
    simp [Resolved.isAcceptable, Resolved.outputKind, Resolved.fault?, visible]
  simp [fragment, dispatch, standard_candidates, writes, firstAcceptable, bind_apply, ofChecked,
    valid, parameterCount, answered, acceptable]

/-- A list that is not empty is written as the references to its items, joined by commas. -/
theorem fragmentOf_list (settings : Settings) (before : Context) (first : Value)
    (rest : List Value) :
    (standard.fragmentOf (.constant (.list (first :: rest))) settings before).1 =
      .ok (",".intercalate
        (settings.dialect.references before.parameters.size (rest.length + 1))) := by
  obtain ⟨after, bound⟩ := BuiltIn.bindItems_apply (first :: rest) settings before
  have visible : Text.isBlank (",".intercalate
      (settings.dialect.references before.parameters.size (rest.length + 1))) = false := by
    rw [Dialect.references_succ]
    exact Text.isBlank_intercalate_cons (settings.dialect.isBlank_referenceTo_numberedName _) _ _
  have answered : BuiltIn.answer standard (.constant (.list (first :: rest))) settings before =
      (.ok (.fragment (",".intercalate
        (settings.dialect.references before.parameters.size (rest.length + 1)))), after) := by
    simp only [BuiltIn.answer, BuiltIn.constant, bind_apply, bound]
    rfl
  exact congrArg Prod.fst (fragment_of_visible rfl rfl visible answered)

end Resolvers

namespace Filter

/--
A filter is valid exactly if it is with a truth value in the stead of every list constant, and
those constants, however deep they lie, stand in places that take them. All places take any list
but two: the right side of a comparison takes none, and that of a membership takes lists of at
least one item without null. And wherever a list stands, its text is the references to its items,
joined by commas and without parentheses.
-/
theorem validate_iff_lists_fit (condition : Filter) :
    ((Expression.filter condition).validate = .ok () ↔
      (Expression.filter condition.unlisted).validate = .ok () ∧
        Inquiry.AllListsFit (Inquiry.into 0 (.filter condition))) ∧
      ∀ (settings : Settings) (before : Context) (first : Value) (rest : List Value),
        let constant := Expression.constant (.list (first :: rest))
        ∃ text, (Resolvers.standard.fragmentOf constant settings before).1 = .ok text ∧
          BuiltIn.enclose constant text = ",".intercalate
            (settings.dialect.references before.parameters.size (rest.length + 1)) := by
  refine ⟨?_, fun settings before first rest => ⟨_, Resolvers.fragmentOf_list _ _ _ _, rfl⟩⟩
  rw [Inquiry.allListsFit_into]
  exact Validation.filter_iff 0 condition

/-- A list of two numbers on the left side of a comparison: the condition is valid, and written as
no database reads it. -/
theorem listEqualsTotal_valid :
    let condition : Filter :=
      .compare (.constant (.list [.integer 1, .integer 2])) .equal
        (.path (.mk "total" .decimal none none none))
    let settings : Settings := ⟨.standard .hibernate, "default", standardDepthLimit⟩
    let before := Context.root .auto none
    (Expression.filter condition).validate = .ok () ∧
      (Resolvers.standard.fragmentOf (.constant (.list [.integer 1, .integer 2])) settings
          before).1 = .ok ":p0001,:p0002" ∧
        (Resolvers.standard.fragmentOf (.filter condition) settings before).1 =
          .ok ":p0001,:p0002=total" := by
  intro condition settings before
  obtain ⟨checks, writes⟩ := validate_iff_lists_fit condition
  obtain ⟨text, written, known⟩ := writes settings before (.integer 1) [.integer 2]
  refine ⟨checks.mpr ⟨rfl, ?_⟩, ?_, ?_⟩
  · simp [condition, Inquiry.into, Expression.inquiries, Filter.inquiries, Expression.operands,
      operands, Expression.FitsIn, OperandPlace.Takes]
  · rw [written, show text = ":p0001,:p0002" from known.trans (by decide +kernel)]
  · simp only [condition, settings, before]
    decide +kernel

end Filter
end ObjectQuery
