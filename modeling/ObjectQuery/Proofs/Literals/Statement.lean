import ObjectQuery.Compiler.Basic
import ObjectQuery.Proofs.Literals.Scanning
import ObjectQuery.Proofs.Rows.Lossless
import ObjectQuery.Proofs.Rows.Plans

/-!
# Literals stay within their bounds

A projected constant is written into the select list as it is, so that its text must not be taken
for more than the one value. Every literal that the library writes itself is a single token, and
whoever scans the select finds its end where it was written. A decimal is copied from the constant
without being looked at: it stays within its bounds exactly if it is a number.
-/

namespace ObjectQuery

open Resolution

/-! ## The literal of each kind of value -/

/-- The literal is a single token, of the form that belongs to the kind of the value. -/
def Value.IsLiteral (value : Value) (literal : String) : Prop :=
  match value with
  | .null => literal = "NULL"
  | .boolean truth => literal = if truth then "TRUE" else "FALSE"
  | .integer _ | .float _ | .decimal _ => Text.IsNumeral literal.toList
  | .string text => literal = Text.quote text
  | .date _ => ∃ text, Text.Unquoted text ∧ literal = Dialect.temporalLiteral "d" text
  | .time _ => ∃ text, Text.Unquoted text ∧ literal = Dialect.temporalLiteral "t" text
  | .dateTime _ => ∃ text, Text.Unquoted text ∧ literal = Dialect.temporalLiteral "ts" text
  | .enum _ | .list _ => False

namespace Text

theorem isNumeral_integer (number : Int) : IsNumeral (toString number).toList := by
  have numeral (negative : Bool) (number : Nat) :
      IsNumeral ((if negative then ['-'] else []) ++ Nat.toDigits 10 number) :=
    (@isNumeral_of_digits _ [] negative Nat.toDigits_ne_nil
      (Number.all_toDigits id number) rfl).1
  rw [Number.toList_toString]
  simpa using numeral (decide (number < 0)) number.natAbs

/-- The literal of a finite number has digits before and behind its point. -/
theorem isNumeral_floatLiteral {number : Binary64} (finite : number.isFinite = true) :
    IsNumeral (Dialect.floatLiteral number).toList := by
  have notNaN : number.isNaN = false := by
    simp only [Binary64.isFinite, bne_iff_ne] at finite
    simp [Binary64.isNaN, finite]
  let decimal := Decimal.shortest number
  have characters : number.toPlain.toList =
      (if number.isNegative then ['-'] else []) ++ (decimal.positional.1 ++
        if decimal.positional.2 = [] then [] else '.' :: decimal.positional.2) := by
    simp only [Binary64.toPlain, Binary64.layout, notNaN, finite, if_true, Bool.false_eq_true,
      if_false, String.toList_ofList]
    rw [plainDigits_eq]
  have digits := isDigit_of_mem_positional decimal
  have numeral {fraction : List Char} (fractions : fraction.all Char.isDigit = true) :=
    isNumeral_of_digits number.isNegative (positional_ne_nil decimal)
      (List.all_eq_true.mpr digits.1) fractions
  have pointed := (numeral (List.all_eq_true.mpr digits.2)).2
  simp only [Dialect.floatLiteral]
  by_cases whole : decimal.positional.2 = []
  · rw [if_pos whole, List.append_nil] at characters
    split
    · rw [characters]
      exact (@numeral [] rfl).1
    · rw [String.toList_append, characters, List.append_assoc]
      exact (@numeral ['0'] (by decide)).2
  · rw [if_neg whole] at characters
    have shown : number.toPlain.toList.contains '.' = true := by simp [characters]
    rw [if_pos shown, characters]
    exact pointed

end Text

variable {value : Value} {literal : String}

theorem Dialect.isLiteral_of_literalText
    {dialect : Dialect}
    (written : dialect.literalText value = .ok literal)
    (numerals : ∀ digits, value = .decimal digits → Text.IsNumeral digits.toList) :
    value.IsLiteral literal := by
  cases value with
  | null => cases written; rfl
  | boolean truth => cases truth <;> cases written <;> rfl
  | integer number => cases written; exact Text.isNumeral_integer _
  | float number =>
      simp only [literalText] at written
      split at written
      · next finite =>
          cases written
          exact Text.isNumeral_floatLiteral finite
      · simp at written
  | decimal digits => cases written; exact numerals _ rfl
  | string text => cases written; rfl
  | date day => cases written; exact ⟨_, Text.unquoted_date day, rfl⟩
  | time clock => cases written; exact ⟨_, Text.unquoted_clock clock, rfl⟩
  | dateTime moment => cases written; exact ⟨_, Text.unquoted_dateTime moment, rfl⟩
  | enum name => simp [literalText] at written
  | list items => simp [literalText] at written

/-- The end of a literal is found wherever it closes. -/
theorem Value.IsLiteral.afterLiteral?_eq
    (isLiteral : value.IsLiteral literal)
    {rest : List Char}
    (closes : Text.Closes rest) :
    Text.afterLiteral? (literal.toList ++ rest) = some rest := by
  cases value with
  | null =>
      obtain rfl : literal = "NULL" := isLiteral
      exact Text.afterLiteral?_word (by decide) closes.separated
  | boolean truth =>
      obtain rfl : literal = if truth then "TRUE" else "FALSE" := isLiteral
      cases truth <;> exact Text.afterLiteral?_word (by decide) closes.separated
  | integer number => exact Text.afterLiteral?_numeral isLiteral closes
  | float number => exact Text.afterLiteral?_numeral isLiteral closes
  | decimal digits => exact Text.afterLiteral?_numeral isLiteral closes
  | string text =>
      obtain rfl : literal = Text.quote text := isLiteral
      exact Text.afterLiteral?_quote text closes.quote
  | date day =>
      obtain ⟨text, unquoted, rfl⟩ := isLiteral
      exact Text.afterLiteral?_temporalLiteral (by decide) unquoted
  | time clock =>
      obtain ⟨text, unquoted, rfl⟩ := isLiteral
      exact Text.afterLiteral?_temporalLiteral (by decide) unquoted
  | dateTime moment =>
      obtain ⟨text, unquoted, rfl⟩ := isLiteral
      exact Text.afterLiteral?_temporalLiteral (by decide) unquoted
  | enum name => exact isLiteral.elim
  | list items => exact isLiteral.elim

/-! ## Selects of a literal -/

/-- A select of a literal alone, whose end a scan behind the first words finds, whatever follows
the select. -/
def Text.Delimits (select literal : String) : Prop :=
  ∃ opening rest, opening ∈ ["SELECT ", "SELECT DISTINCT "] ∧
    select = opening ++ literal ++ rest ∧
    ∀ following, Text.afterLiteral? (literal.toList ++ (rest.toList ++ following)) =
      some (rest.toList ++ following)

/-- What is selected stands between the first words of a select and its source. -/
theorem SelectDraft.exists_source
    {draft : SelectDraft}
    {select : SelectText}
    (assembled : draft.assemble = .ok select) :
    ∃ opening source, opening ∈ ["SELECT ", "SELECT DISTINCT "] ∧
      select.text = opening ++ select.plan.selectList ++ (" FROM " ++ source) := by
  have planned := plan_of_assemble assembled
  cases sourced : draft.source with
  | none => simp [assemble, sourced] at assembled
  | some source =>
      have worded : select.text = draft.wording source select.plan := by
        simp only [assemble, sourced, planned] at assembled
        split at assembled
        · simp at assembled
        · split at assembled
          · simp at assembled
          · exact (congrArg SelectText.text (Except.ok.inj assembled)).symm
      refine ⟨if draft.distinct then "SELECT DISTINCT " else "SELECT ",
        source ++ clause "WHERE " draft.condition ++ clause "" draft.grouping ++
          clause "" draft.ordering, ?_, ?_⟩
      · cases draft.distinct <;> simp
      · rw [worded, wording]
        cases draft.distinct <;> simp [String.append_assoc]

theorem Value.IsLiteral.delimits
    (isLiteral : value.IsLiteral literal)
    {draft : SelectDraft}
    {select : SelectText}
    (assembled : draft.assemble = .ok select)
    (selected : select.plan.selectList = literal) :
    Text.Delimits select.text literal := by
  obtain ⟨opening, source, first, text⟩ := SelectDraft.exists_source assembled
  rw [selected] at text
  refine ⟨opening, _, first, text, fun following => isLiteral.afterLiteral?_eq ?_⟩
  rw [String.toList_append]
  exact Text.closes_blank _

variable {settings : Settings} {before : Context}

/-- A projected constant is all that is selected. -/
theorem Resolvers.plan_constant (written : settings.dialect.literalText value = .ok literal) :
    (standard.plan (.projection (.constant value)) (do
      let plan ← BuiltIn.projection .standard (.constant value)
      return .projection plan)).Ensures settings before fun plan _ =>
        plan.selectList = literal := by
  have plans : (BuiltIn.constantPlan value).Ensures settings before fun plan _ =>
      plan.selectList = literal := by
    have texts : (ofExcept (settings.dialect.literalText value)).Ensures settings before
        fun text _ => text = literal :=
      .ofExcept fun text succeeds => Except.ok.inj (succeeds.symm.trans written)
    refine .bindDialect (texts.bind ?_)
    rintro _ after rfl
    exact .pure (by simp [ProjectionPlan.selectList, Selection.render])
  have answers : (do
      let plan ← BuiltIn.projection .standard (.constant value)
      return Resolved.projection plan).Ensures settings before
        (Resolved.Ensures (fun _ _ => True) fun plan _ => plan.selectList = literal) := by
    simp only [BuiltIn.projection]
    exact plans.bind fun plan after selected => .pure selected
  exact (plan_ensures fun _ => answers).weaken fun _ _ taken => taken.2

namespace Value.IsLiteral

variable
  (isLiteral : value.IsLiteral literal)
  (written : settings.dialect.literalText value = .ok literal)

include isLiteral written

/-- A draft that has the plan of the constant is finished as a select of its literal. -/
theorem withProjection_delimits (draft : SelectDraft) :
    (draft.withProjection (Resolvers.standard.plan (.projection (.constant value)) (do
      let plan ← BuiltIn.projection .standard (.constant value)
      return .projection plan))).Ensures settings before fun draft after =>
        (ofExcept draft.assemble).Ensures settings after fun select _ =>
          Text.Delimits select.text literal := by
  refine (SelectDraft.withProjection_ensures (Resolvers.plan_constant written)).weaken ?_
  rintro _ after ⟨plan, rfl, selected⟩
  refine .ofExcept fun select assembled => isLiteral.delimits assembled ?_
  obtain rfl : plan = select.plan := Option.some.inj (SelectDraft.plan_of_assemble assembled)
  exact selected

theorem compose_delimits
    {operation : Operation}
    (selects : operation.kind = .select)
    (projected : operation.projection = some (.constant value)) :
    (operation.compose .standard).Ensures settings before fun composed _ =>
      Text.Delimits composed.text literal := by
  have composes (before : Context) : (operation.composeSelect .standard).Ensures settings before
      fun composed _ => Text.Delimits composed.text literal := by
    refine .bindAny fun draft _ => .bindAny fun draft _ => .bindAny fun draft _ =>
      .bindAny fun draft _ => ?_
    simp only [projected, Option.getD_some, Resolvers.planOf, BuiltIn.answer]
    refine (isLiteral.withProjection_delimits written draft).bind fun draft after finishes => ?_
    exact finishes.bind fun select ends delimits => .pure delimits
  simp only [Operation.compose, selects, if_true]
  refine .bindContext ?_
  split
  · exact .bindChecked fun _ => composes before
  · exact .fail _

theorem subQuery_delimits
    (queried : Target)
    (condition : Option Filter)
    (correlations : List String) :
    (Resolvers.standard.fragmentOf
      (.subQuery (.mk queried condition (.constant value) correlations))).Ensures settings before
        fun text _ => Text.Delimits text literal := by
  have bodies (before : Context) :
      (BuiltIn.queryBody .standard (.mk queried condition (.constant value) correlations)).Ensures
        settings before fun text _ => Text.Delimits text literal := by
    refine .bindAny fun _ _ => .bindAny fun _ _ => .bindAny fun draft _ => ?_
    refine (isLiteral.withProjection_delimits written draft).bind fun draft after finishes => ?_
    exact finishes.bind fun select ends delimits => .pure delimits
  have queries : (BuiltIn.subQuery .standard
      (.mk queried condition (.constant value) correlations)).Ensures settings before
        fun text _ => Text.Delimits text literal := by
    rw [BuiltIn.subQuery_eq]
    exact .bindContext (.inChild (bodies _))
  have answers : (BuiltIn.answer .standard
      (.subQuery (.mk queried condition (.constant value) correlations))).Ensures settings before
        (Resolved.Ensures (fun text _ => Text.Delimits text literal) fun _ _ => True) := by
    simp only [BuiltIn.answer]
    exact queries.bind fun text after delimits => .pure delimits
  exact (Resolvers.fragment_ensures fun _ => answers).weaken fun _ _ taken => taken.2

end Value.IsLiteral

namespace Compiler

/-- The literal of a constant is a single token of the form that belongs to its kind exactly if the
constant is no decimal or its digits are a number. Whoever scans a statement or a sub-query that
selects such a constant then finds the end of the literal where it was written. -/
theorem compile_literal_delimited
    {config : Configuration}
    {compiler : Compiler}
    {value : Value}
    {literal : String}
    (created : create config = .ok compiler)
    (written : compiler.dialect.literalText value = .ok literal) :
    (value.IsLiteral literal ↔
      ∀ digits, value = .decimal digits → Text.IsNumeral digits.toList) ∧
      (value.IsLiteral literal →
        (∀ (catalog : Option Catalog) (operation : Operation) (statement : Statement),
          operation.kind = .select →
          operation.projection = some (.constant value) →
          (compile { compiler with catalog } operation).1 = .ok statement →
          Text.Delimits statement.text literal) ∧
        ∀ (queried : Target) (condition : Option Filter) (correlations : List String)
          (before after : Context) (text : String),
          compiler.registry.fragmentOf
              (.subQuery (.mk queried condition (.constant value) correlations))
              compiler.settings before = (.ok text, after) →
          Text.Delimits text literal) := by
  obtain ⟨-, rfl⟩ := create_eq_ok_iff.mp created
  refine ⟨⟨?_, Dialect.isLiteral_of_literalText written⟩, fun isLiteral => ⟨?_, ?_⟩⟩
  · rintro isLiteral digits rfl
    cases written
    exact isLiteral
  · intro catalog operation statement selects projected compiled
    obtain ⟨composed, after, run, rfl⟩ := exists_composed compiled
    exact isLiteral.compose_delimits written selects projected composed after run
  · intro queried condition correlations before after text run
    exact isLiteral.subQuery_delimits written queried condition correlations text after run

/-- A text that holds a quote stays a single text, and a decimal that holds a comma is copied into
the select list as two selections. -/
theorem selected_text_delimited :
    let config := Configuration.standard .hibernate
    let compiler : Compiler := ⟨config, config.dialect, .standard, none⟩
    let selecting (value : Value) : Operation :=
      { Operation.of .select (Target.named "order") with projection := some (.constant value) }
    (∃ statement,
      (compiler.compile (selecting (.string "x' FROM customer"))).1 = .ok statement ∧
        statement.text = "SELECT 'x'' FROM customer' FROM order orde_0_0" ∧
        Text.Delimits statement.text "'x'' FROM customer'") ∧
      ∃ statement,
        (compiler.compile (selecting (.decimal "1, customerId"))).1 = .ok statement ∧
          statement.text = "SELECT 1, customerId FROM order orde_0_0" ∧
          ¬ (Value.decimal "1, customerId").IsLiteral "1, customerId" ∧
          Text.afterLiteral? "1, customerId FROM order orde_0_0".toList =
            some ", customerId FROM order orde_0_0".toList := by
  intro config compiler selecting
  have created : create config = .ok compiler := create_eq_ok_iff.mpr ⟨by decide, rfl⟩
  constructor
  · have shown : (compiler.compile (selecting (.string "x' FROM customer"))).1.toOption.map
        Statement.text = some "SELECT 'x'' FROM customer' FROM order orde_0_0" := by
      decide +kernel
    obtain ⟨statement, compiled, text⟩ := Except.exists_ok_of_map_toOption shown
    have written : compiler.dialect.literalText (.string "x' FROM customer") =
        .ok "'x'' FROM customer'" := rfl
    obtain ⟨exactly, delimits⟩ := compile_literal_delimited created written
    have isLiteral := exactly.mpr fun digits same => by cases same
    exact ⟨statement, compiled, text, (delimits isLiteral).1 none _ _ rfl rfl compiled⟩
  · have shown : (compiler.compile (selecting (.decimal "1, customerId"))).1.toOption.map
        Statement.text = some "SELECT 1, customerId FROM order orde_0_0" := by
      decide +kernel
    obtain ⟨statement, compiled, text⟩ := Except.exists_ok_of_map_toOption shown
    have written : compiler.dialect.literalText (.decimal "1, customerId") =
        .ok "1, customerId" := rfl
    obtain ⟨exactly, -⟩ := compile_literal_delimited created written
    refine ⟨statement, compiled, text, fun isLiteral => ?_, by decide +kernel⟩
    exact absurd (exactly.mp isLiteral _ rfl) (by decide +kernel)

end Compiler
end ObjectQuery
