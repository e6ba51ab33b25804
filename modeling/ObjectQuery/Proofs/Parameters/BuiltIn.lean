import ObjectQuery.Proofs.Parameters.Steps

/-!
# Ledgers of the library's own resolvers

Every node of well-named parts is written with its ledger kept: it takes as many parameters
as it has slots, and the scan reads their names off its text. The proof follows the mutual
recursion of the resolvers. Only a select writes its clauses in another order than it
resolves them: its projection comes last but is written first, so that order is kept where
projections bind nothing.
-/

namespace ObjectQuery

open Text

/-- Names that may be written as they are, and no decimal as a projected literal. -/
def NodeCheck.wellNamed : NodeCheck where
  ofPath := Path.IsDotted
  ofTarget := Target.HasDottedNames
  ofProjection selected := ∀ digits, selected ≠ .constant (.decimal digits)

/-- No projection binds a parameter. -/
def NodeCheck.unbound : NodeCheck where
  ofPath _ := True
  ofTarget _ _ := True
  ofProjection selected := selected.slots = 0

theorem NodeCheck.ofProjection_of_projection
    {check : NodeCheck}
    {selected : Projection}
    (holds : check.projection selected) :
    check.ofProjection selected := by
  cases selected with
  | path found | function call | properties items =>
      simp only [NodeCheck.projection] at holds
      exact holds.1
  | _ => simpa only [NodeCheck.projection] using holds

namespace BuiltIn

open Resolution NodeCheck

/-- The names that the scan reads off a select list. -/
def ReadsPlan (marker : Char) (plan : ProjectionPlan) (names : List String) : Prop :=
  ReadsEach marker (plan.selections.map Selection.render) names

/-- The ledger of an answer: of its text, or of its select list. -/
def Answers (settings : Settings) (ordered : Prop) (slots : Nat) (before : Context) :
    Resolved → Context → Prop :=
  Resolved.Ensures
    (fun text after =>
      Ledger settings ordered slots before after (Reads settings.dialect.parameterMarker text))
    fun plan after =>
      Ledger settings ordered slots before after (ReadsPlan settings.dialect.parameterMarker plan)

variable {settings : Settings} {ordered : Prop} {slots : Nat} {before : Context}

/-! ## Answers of the registry -/

section Registry

variable {expression : Expression} {own : Resolution Resolved}

theorem fragment_writes
    (owns : expression.validate = .ok () →
      own.Ensures settings before (Answers settings ordered slots before)) :
    Writes settings ordered slots before (Resolvers.standard.fragment expression own) :=
  (Resolvers.fragment_ensures owns).weaken fun _ _ taken => taken.2

theorem predicate_writes
    (owns : expression.validate = .ok () →
      own.Ensures settings before (Answers settings ordered slots before)) :
    Writes settings ordered slots before (Resolvers.standard.predicate expression own) :=
  (Resolvers.predicate_ensures owns).weaken fun _ _ taken => taken.2

theorem plan_writes
    (owns : expression.validate = .ok () →
      own.Ensures settings before (Answers settings ordered slots before)) :
    (Resolvers.standard.plan expression own).Ensures settings before fun plan after =>
      Ledger settings ordered slots before after
        (ReadsPlan settings.dialect.parameterMarker plan) :=
  (Resolvers.plan_ensures owns).weaken fun _ _ taken => taken.2

/-- A text that is written is an answer. -/
theorem Writes.answers
    {step : Resolution String}
    (writes : Writes settings ordered slots before step) :
    (do let text ← step; return Resolved.fragment text).Ensures settings before
      (Answers settings ordered slots before) :=
  writes.bind fun _ _ ledger => .pure ledger

/-- A plan that is made is an answer. -/
theorem plan_answers
    {step : Resolution ProjectionPlan}
    (plans : step.Ensures settings before fun plan after =>
      Ledger settings ordered slots before after
        (ReadsPlan settings.dialect.parameterMarker plan)) :
    (do let plan ← step; return Resolved.projection plan).Ensures settings before
      (Answers settings ordered slots before) :=
  plans.bind fun _ _ ledger => .pure ledger

theorem withHint_writes
    {hint : ValueType}
    {step : Resolution String}
    (writes : Writes settings ordered slots { before with hint := some hint } step) :
    Writes settings ordered slots before (withHint hint step) :=
  .withHint (Ensures.weaken writes fun _ _ ledger =>
    ⟨ledger.ready.withHint _, ledger.size, ledger.names⟩)

end Registry

/-! ## Texts around what is written -/

section Texts

variable {marker : Char} {text text' : String} {names names' : List String}

theorem opening_parenthesis (distinct : Distinct marker) : Opening marker "(" :=
  Plain.empty.opening distinct

theorem reads_enclose
    (distinct : Distinct marker)
    (operand : Expression)
    (reads : Reads marker text names) :
    Reads marker (enclose operand text) names := by
  cases operand with
  | subQuery query => exact (opening_parenthesis distinct).around distinct reads
  | _ => exact reads

theorem reads_joinConditions
    (distinct : Distinct marker)
    {word : String}
    (isWord : IsWord word)
    {texts : List String}
    (each : ReadsEach marker texts names) :
    Reads marker (joinConditions word texts) names := by
  have blank : Plain marker " " := plain_of_all distinct (by decide)
  have parts := each.map fun text names reads =>
    (opening_parenthesis distinct).around distinct reads
  refine parts.intercalate ((blank.append (isWord.plain distinct)).append blank) ?_ ?_
  · rw [String.append_assoc]
    exact Apart.append_left (by decide) (by decide)
  · intro empty
    simp at empty

end Texts

/-! ## Texts of conditions -/

/-- Two operands, the second of them under a hint, are written with the ledgers of both. -/
theorem operands_answer
    {first second : Resolution String}
    {hint : ValueType}
    {slots' : Nat}
    {joined : String → String → String}
    (writes : Writes settings ordered slots before first)
    (writes' : ∀ {between : Context}, between.Ready settings.dialect →
      Writes settings ordered slots' between second)
    (joins : ∀ {text text' names names'}, Reads settings.dialect.parameterMarker text names →
      Reads settings.dialect.parameterMarker text' names' →
        Reads settings.dialect.parameterMarker (joined text text') (names ++ names')) :
    Ensures (do
      let text ← first
      let text' ← withHint hint second
      return Resolved.fragment (joined text text')) settings before
        (Answers settings ordered (slots + slots') before) := by
  refine Ensures.bind writes fun text between ledger => ?_
  refine Ensures.bind (withHint_writes (writes' (ledger.ready.withHint _)))
    fun text' after ledger' => .pure ?_
  exact ledger.andThen ledger' fun names names' => joins

/-- What stands between parentheses is written with its own ledger. -/
theorem around_answers
    (distinct : Distinct settings.dialect.parameterMarker)
    {step : Resolution String}
    {opening : String}
    (writes : Writes settings ordered slots before step)
    (opens : Opening settings.dialect.parameterMarker opening) :
    Ensures (do
      let text ← step
      return Resolved.fragment (opening ++ text ++ ")")) settings before
        (Answers settings ordered slots before) :=
  Ensures.bind writes fun _ _ ledger =>
    .pure (ledger.map fun _ reads => opens.around distinct reads)

/-- A call reads what its arguments read. -/
theorem spelled_ensures
    (readable : settings.dialect.IsReadable)
    {kind : FunctionKind}
    {arguments : List String}
    (arity : arguments.length = kind.arity)
    (distinct : Bool) :
    (spelled kind arguments distinct).Ensures settings before fun text after =>
      after = before ∧ ∀ names, ReadsEach settings.dialect.parameterMarker arguments names →
        Reads settings.dialect.parameterMarker text names := by
  refine .bindDialect (.ofExcept fun text written => ⟨rfl, fun names each => ?_⟩)
  rw [Dialect.callText, readable.functions] at written
  rcases kind.arity_cases with nullary | unary
  · obtain rfl : arguments = [] := List.eq_nil_of_length_eq_zero (arity.trans nullary)
    rw [SpellingRegistry.standard_word _ nullary] at written
    cases written
    cases each
    exact (plain_word readable.marker kind).reads
  · obtain ⟨argument, rfl⟩ := List.length_eq_one_iff.mp (arity.trans unary)
    rw [SpellingRegistry.standard_call _ unary] at written
    cases written
    cases each with
    | cons first rest =>
        cases rest
        rw [List.append_nil]
        refine (opening_call readable.marker _ kind).around readable.marker ?_
        refine Plain.before ?_ first
        cases distinct with
        | true => exact plain_of_all readable.marker (by decide)
        | false => exact .empty

theorem matchText_writes
    (readable : settings.dialect.IsReadable)
    {start : Context}
    {left : String}
    (ledger : Ledger settings ordered slots start before
      (Reads settings.dialect.parameterMarker left))
    (text : String)
    (mode : MatchMode)
    (ignoreCase : Bool) :
    (matchText left text mode ignoreCase).Ensures settings before fun written after =>
      Ledger settings ordered (slots + 1) start after
        (Reads settings.dialect.parameterMarker written) := by
  have subjects : (matchSubject left ignoreCase).Ensures settings before fun subject after =>
      after = before ∧ ∀ names, Reads settings.dialect.parameterMarker left names →
        Reads settings.dialect.parameterMarker subject names := by
    unfold matchSubject
    split
    · refine (spelled_ensures readable (by rfl) false).weaken fun subject after spells => ?_
      obtain ⟨rfl, reads⟩ := spells
      exact ⟨rfl, fun names left => reads names (by simpa using ReadsEach.cons left .nil)⟩
    · exact .pure ⟨rfl, fun _ reads => reads⟩
  have words : ∀ {word : String}, word.toList.all isPlainCharacter = true →
      Plain settings.dialect.parameterMarker word := plain_of_all readable.marker
  have suffix : Plain settings.dialect.parameterMarker settings.dialect.escapeSuffix :=
    (words (by decide)).append (plain_quote _)
  refine .bindDialect (subjects.bind fun subject after holds => ?_)
  obtain ⟨rfl, reads⟩ := holds
  refine (newReference_ensures readable ordered ledger.ready _ _).bind
    fun reference after bound => .pure ?_
  refine (ledger.map reads).andThen bound fun names names' subject reference => ?_
  have compared := subject.joined " LIKE " (by decide) (by decide) (words (by decide)) reference
  simpa using compared.joined " " (by decide) (by decide) (words (by decide)) suffix.reads

/-! ## Plans without parts -/

section Plans

variable {marker : Char} {text : String} {names : List String}

theorem readsPlan_scalar
    (distinct : Distinct marker)
    {aliasName : Option String}
    (word : ∀ found, aliasName = some found → IsWord found)
    (valueType : ValueType)
    (reads : Reads marker text names) :
    ReadsPlan marker (.scalar text aliasName valueType) names := by
  have entry : Reads marker (Selection.render ⟨text, aliasName⟩) names := by
    cases aliasName with
    | none => exact reads
    | some found =>
        have plain := (word found rfl).plain distinct
        simpa [Selection.render] using reads.joined " AS " (by decide) (by decide)
          (plain_of_all distinct (by decide)) plain.reads
  simpa [ReadsPlan, ProjectionPlan.scalar] using ReadsEach.cons entry .nil

/-- A record reads what its columns read, one after the other. -/
theorem readsPlan_record
    (distinct : Distinct marker)
    (shape : RowShape)
    {columns : List (String × String × ValueType)}
    (words : ∀ column ∈ columns, IsWord column.1)
    (each : ReadsEach marker (columns.map fun column => column.2.1) names) :
    ReadsPlan marker (.record shape columns) names := by
  have entries : (ProjectionPlan.record shape columns).selections.map Selection.render =
      columns.map fun column => column.2.1 ++ " AS " ++ column.1 := by
    simp [ProjectionPlan.record, Selection.render, Function.comp_def]
  rw [ReadsPlan, entries]
  clear entries
  induction columns generalizing names with
  | nil =>
      cases each
      exact .nil
  | cons column rest inductionHypothesis =>
      cases each with
      | cons first others =>
          have plain := (words column List.mem_cons_self).plain distinct
          refine .cons ?_ (inductionHypothesis
            (fun found member => words found (List.mem_cons_of_mem _ member)) others)
          simpa using first.joined " AS " (by decide) (by decide)
            (plain_of_all distinct (by decide)) plain.reads

end Plans

theorem selectedTarget_ensures (ready : before.Ready settings.dialect) (name : Option String) :
    (selectedTarget name).Ensures settings before fun binding after =>
      after = before ∧ binding.HasWords := by
  cases name with
  | some name => exact lookup_ensures ready name
  | none =>
      refine .bindContext ?_
      split
      · next binding root => exact .pure ⟨rfl, ready.rootTarget? root⟩
      · exact .fail _

theorem entityPlan_ledger
    (readable : settings.dialect.IsReadable)
    (ordered : Prop)
    (ready : before.Ready settings.dialect)
    (name : Option String) :
    (entityPlan name).Ensures settings before fun plan after =>
      Ledger settings ordered 0 before after
        (ReadsPlan settings.dialect.parameterMarker plan) := by
  refine (selectedTarget_ensures ready name).bind fun binding after found => ?_
  obtain ⟨rfl, words⟩ := found
  refine .pure (.none ready.steady ?_)
  exact .cons (words.reference.plain readable.marker).reads .nil

theorem attributesPlan_ledger
    (readable : settings.dialect.IsReadable)
    (ordered : Prop)
    (ready : before.Ready settings.dialect) :
    attributesPlan.Ensures settings before fun plan after =>
      Ledger settings ordered 0 before after
        (ReadsPlan settings.dialect.parameterMarker plan) := by
  refine .bindContext ?_
  split
  · exact .fail _
  · next binding root =>
      have words := ready.rootTarget? root
      split
      · exact .unsupported _
      · refine .bindDialect (.pure (.none ready.steady ?_))
        refine readsPlan_record readable.marker _ (by simpa using words.attributes) ?_
        have each : ∀ attributes : List Attribute, (∀ found ∈ attributes, IsWord found.name) →
            ReadsEach settings.dialect.parameterMarker
              (attributes.map fun found => binding.qualify found.name) [] := by
          intro attributes
          induction attributes with
          | nil => exact fun _ => .nil
          | cons found rest inductionHypothesis =>
              intro words'
              have first := words.qualify (words' found List.mem_cons_self)
              exact .cons (first.plain readable.marker).reads (inductionHypothesis fun found member =>
                words' found (List.mem_cons_of_mem _ member))
        simpa [Function.comp_def] using each binding.attributes words.attributes

theorem countPlan_ledger
    (readable : settings.dialect.IsReadable)
    (ordered : Prop)
    (ready : before.Ready settings.dialect) :
    countPlan.Ensures settings before fun plan after =>
      Ledger settings ordered 0 before after
        (ReadsPlan settings.dialect.parameterMarker plan) := by
  refine .bindContext ?_
  -- without an alias all rows are counted by a sign that may be the marker itself
  have star : Reads settings.dialect.parameterMarker (String.singleton '*') [] :=
    reads_sign (by decide) (by decide) (by decide)
  have counted : Reads settings.dialect.parameterMarker
      ((before.rootTarget?.bind BoundTarget.aliasName).getD "*") [] := by
    cases root : before.rootTarget?.bind BoundTarget.aliasName with
    | none => exact star
    | some aliasName =>
        obtain ⟨binding, found, given⟩ := Option.bind_eq_some_iff.mp root
        exact (((ready.rootTarget? found).aliasName aliasName given).plain readable.marker).reads
  refine (spelled_ensures readable (by rfl) false).bind fun text after spells => .pure ?_
  obtain ⟨rfl, reads⟩ := spells
  exact .none ready.steady (readsPlan_scalar readable.marker (by simp) _
    (reads [] (.cons counted .nil)))

theorem constantPlan_ledger
    (readable : settings.dialect.IsReadable)
    (ordered : Prop)
    (ready : before.Ready settings.dialect)
    {value : Value}
    (noDecimal : ∀ digits, value ≠ .decimal digits) :
    (constantPlan value).Ensures settings before fun plan after =>
      Ledger settings ordered 0 before after
        (ReadsPlan settings.dialect.parameterMarker plan) := by
  refine .bindDialect ?_
  have literals : (ofExcept (settings.dialect.literalText value)).Ensures settings before
      fun text after => after = before ∧ Reads settings.dialect.parameterMarker text [] :=
    .ofExcept fun text written => ⟨rfl, reads_literal readable.marker noDecimal written⟩
  refine literals.bind fun text after written => .pure ?_
  obtain ⟨rfl, reads⟩ := written
  exact .none ready.steady (.cons reads .nil)

/-! ## Targets and selects -/

theorem introduceJoined_ensures
    (ready : before.Ready settings.dialect)
    (joinType : JoinType)
    (target : Target)
    (dotted : Target.HasDottedNames target.name target.entity)
    (word : ∀ aliasName, target.aliasName = some aliasName → IsWord aliasName) :
    (introduceJoined joinType target).Ensures settings before fun binding after =>
      before.Steady after settings.dialect ∧ binding.HasWords := by
  refine .bindDialect (.bindContext ?_)
  split
  · exact .unsupported _
  · refine (introduce_ensures ready target dotted word).bind fun binding after introduced => ?_
    split
    · exact .pure introduced
    · exact .fail _

theorem checkCorrelations_ensures (ready : before.Ready settings.dialect) (names : List String) :
    (checkCorrelations names).Ensures settings before fun _ after => after = before := by
  induction names with
  | nil => exact .pure rfl
  | cons name rest inductionHypothesis =>
      refine (aliasOf_ensures ready name).bind ?_
      rintro _ _ rfl
      exact inductionHypothesis

/-! ## What valid nodes are made of -/

theorem isWord_of_aliasName
    {expression : String}
    {given : Option String}
    (valid : Validation.aliasName expression given = .ok ()) :
    ∀ aliasName, given = some aliasName → IsWord aliasName := by
  rintro aliasName rfl
  exact isWord_of_isIdentifier (by simpa [Validation.aliasName] using valid)

theorem aliasName_of_valid_path
    {found : Path}
    (valid : Validation.path found = .ok ()) :
    ∀ aliasName, found.aliasName = some aliasName → IsWord aliasName := by
  obtain ⟨name, valueType, parent, target, given⟩ := found
  unfold Validation.path at valid
  simp only [Validation.andThen_ok_iff] at valid
  exact isWord_of_aliasName valid.2.2.2.1

theorem target_of_valid
    {name : String}
    {entity given : Option String}
    {joined : List Join}
    (valid : Validation.target (.mk name entity given joined) = .ok ()) :
    (∀ aliasName, given = some aliasName → IsWord aliasName) ∧
      Validation.joins joined = .ok () := by
  obtain ⟨names, validJoins⟩ := Validation.of_target valid
  simp only [Validation.targetNames, Validation.andThen_ok_iff] at names
  exact ⟨isWord_of_aliasName names.2.2, validJoins⟩

theorem properties_of_valid
    {items : List NamedProperty}
    (valid : Validation.projection (.properties items) = .ok ()) :
    Validation.projectionItems [] items = .ok () := by
  simp only [Validation.projection, Validation.andThen_ok_iff] at valid
  exact valid.2

theorem projectionItems_of_valid
    {earlier : List String}
    {name : String}
    {item : Expression}
    {rest : List NamedProperty}
    (valid : Validation.projectionItems earlier (.mk name item :: rest) = .ok ()) :
    IsWord name ∧ Validation.projectionItems (name :: earlier) rest = .ok () := by
  simp only [Validation.projectionItems, Validation.andThen_ok_iff,
    Validation.require_ok_iff] at valid
  exact ⟨isWord_of_isIdentifier valid.1, valid.2.2.2.2⟩

/-- What is read off a text that may stand directly behind a name. -/
def ReadsApart (marker : Char) (text : String) (names : List String) : Prop :=
  Reads marker text names ∧ Apart text

/-- The source and the clauses of a draft, as they follow the select list. -/
def ReadsDraft (marker : Char) (draft : SelectDraft) (names : List String) : Prop :=
  ∃ source, draft.source = some source ∧
    Reads marker (source ++ SelectDraft.clause "WHERE " draft.condition ++
      SelectDraft.clause "" draft.grouping ++ SelectDraft.clause "" draft.ordering) names

section Drafts

variable {marker : Char} {draft : SelectDraft} {source text : String} {names names' : List String}

theorem readsApart_clause
    (distinct : Distinct marker)
    (words : String)
    (isWord : IsWord words)
    (reads : Reads marker text names) :
    ReadsApart marker (SelectDraft.clause words (some text)) names := by
  have blank : Plain marker " " := plain_of_all distinct (by decide)
  refine ⟨?_, ?_⟩
  · exact (blank.append (isWord.plain distinct)).before reads
  · simp only [SelectDraft.clause, String.append_assoc]
    exact Apart.append_left (by decide) (by decide)

/-- The names of a projection stand before those of the clauses. -/
theorem reads_wording
    (distinct : Distinct marker)
    {plan : ProjectionPlan}
    (sourced : draft.source = some source)
    (plans : ReadsPlan marker plan names)
    (drafts : ReadsDraft marker draft names') :
    Reads marker (draft.wording source plan) (names ++ names') := by
  obtain ⟨source', sourced', reads⟩ := drafts
  obtain rfl : source = source' := Option.some.inj (sourced.symm.trans sourced')
  have plain : ∀ {word : String}, word.toList.all isPlainCharacter = true → Plain marker word :=
    plain_of_all distinct
  have start : Plain marker ("SELECT " ++ (if draft.distinct then "DISTINCT " else "")) := by
    refine (plain (by decide)).append ?_
    cases draft.distinct with
    | true => exact plain (by decide)
    | false => exact .empty
  have list : Reads marker plan.selectList names :=
    plans.intercalate (plain (by decide)) (by decide) (by decide)
  have whole := (start.before list).joined " FROM " (by decide) (by decide) (plain (by decide)) reads
  simpa [SelectDraft.wording, String.append_assoc] using whole

variable {start after : Context} {step : Resolution String} {slots' : Nat}

theorem withTarget_ledger
    (writes : Writes settings ordered slots before step)
    (distinct : Bool) :
    ((SelectDraft.start.withDistinct distinct).withTarget step).Ensures settings before
      fun draft' after =>
        (draft'.condition = none ∧ draft'.grouping = none ∧ draft'.ordering = none) ∧
          Ledger settings ordered slots before after
            (ReadsDraft settings.dialect.parameterMarker draft') := by
  refine (SelectDraft.withTarget_ensures writes).weaken fun draft' after written => ?_
  obtain ⟨source, rfl, ledger⟩ := written
  refine ⟨⟨rfl, rfl, rfl⟩, ledger.map fun names reads => ⟨source, rfl, ?_⟩⟩
  simpa [SelectDraft.start, SelectDraft.withDistinct, SelectDraft.clause] using reads

theorem withFilter_ledger
    (readable : settings.dialect.IsReadable)
    (missing : draft.condition = none ∧ draft.grouping = none ∧ draft.ordering = none)
    (ledger : Ledger settings ordered slots start before
      (ReadsDraft settings.dialect.parameterMarker draft))
    (writes : Writes settings ordered slots' before step) :
    (draft.withFilter step).Ensures settings before fun draft' after =>
      (draft'.grouping = none ∧ draft'.ordering = none) ∧
        Ledger settings ordered (slots + slots') start after
          (ReadsDraft settings.dialect.parameterMarker draft') := by
  refine (SelectDraft.withFilter_ensures writes).weaken fun draft' after written => ?_
  obtain ⟨text, rfl, ledger'⟩ := written
  refine ⟨missing.2, ledger.andThen ledger' fun names names' drafts reads => ?_⟩
  obtain ⟨source, sourced, drafted⟩ := drafts
  obtain ⟨clause, apart⟩ := readsApart_clause readable.marker "WHERE " (by decide) reads
  refine ⟨source, sourced, ?_⟩
  simp only [missing, SelectDraft.clause, String.append_empty] at drafted
  simpa [missing, SelectDraft.clause] using drafted.append apart clause

theorem withAggregation_ledger
    (readable : settings.dialect.IsReadable)
    (missing : draft.grouping = none ∧ draft.ordering = none)
    (ledger : Ledger settings ordered slots start before
      (ReadsDraft settings.dialect.parameterMarker draft))
    (writes : Writes settings ordered slots' before step) :
    (draft.withAggregation step).Ensures settings before fun draft' after =>
      draft'.ordering = none ∧ Ledger settings ordered (slots + slots') start after
        (ReadsDraft settings.dialect.parameterMarker draft') := by
  refine (SelectDraft.withAggregation_ensures writes).weaken fun draft' after written => ?_
  obtain ⟨text, rfl, ledger'⟩ := written
  refine ⟨missing.2, ledger.andThen ledger' fun names names' drafts reads => ?_⟩
  obtain ⟨source, sourced, drafted⟩ := drafts
  obtain ⟨clause, apart⟩ := readsApart_clause readable.marker "" (by decide) reads
  refine ⟨source, sourced, ?_⟩
  simp only [missing, SelectDraft.clause, String.append_empty] at drafted
  simpa [missing, SelectDraft.clause] using drafted.append apart clause

theorem withSort_ledger
    (readable : settings.dialect.IsReadable)
    (missing : draft.ordering = none)
    (ledger : Ledger settings ordered slots start before
      (ReadsDraft settings.dialect.parameterMarker draft))
    (writes : Writes settings ordered slots' before step) :
    (draft.withSort step).Ensures settings before fun draft' after =>
      Ledger settings ordered (slots + slots') start after
        (ReadsDraft settings.dialect.parameterMarker draft') := by
  refine (SelectDraft.withSort_ensures writes).weaken fun draft' after written => ?_
  obtain ⟨text, rfl, ledger'⟩ := written
  refine ledger.andThen ledger' fun names names' drafts reads => ?_
  obtain ⟨source, sourced, drafted⟩ := drafts
  obtain ⟨clause, apart⟩ := readsApart_clause readable.marker "" (by decide) reads
  refine ⟨source, sourced, ?_⟩
  simp only [missing, SelectDraft.clause, String.append_empty] at drafted
  simpa [SelectDraft.clause] using drafted.append apart clause

/-- The projection is resolved last and written first. -/
theorem withProjection_ledger
    (readable : settings.dialect.IsReadable)
    {step : Resolution ProjectionPlan}
    (ledger : Ledger settings ordered slots start before
      (ReadsDraft settings.dialect.parameterMarker draft))
    (plans : step.Ensures settings before fun plan after =>
      Ledger settings ordered slots' before after
        (ReadsPlan settings.dialect.parameterMarker plan))
    (unbound : ordered → slots' = 0) :
    (draft.withProjection step).Ensures settings before fun draft' after =>
      ∃ source plan, draft'.source = some source ∧ draft'.plan = some plan ∧
        Ledger settings ordered (slots + slots') start after
          (Reads settings.dialect.parameterMarker (draft'.wording source plan)) := by
  refine (SelectDraft.withProjection_ensures plans).weaken fun draft' after written => ?_
  obtain ⟨plan, rfl, ledger'⟩ := written
  obtain ⟨_, ⟨source, sourced, -⟩, -⟩ := ledger.names
  refine ⟨source, plan, sourced, rfl, ?_⟩
  exact ledger.andThenBefore ledger' unbound fun names names' drafts plans =>
    reads_wording readable.marker sourced plans drafts

end Drafts

end BuiltIn
end ObjectQuery
