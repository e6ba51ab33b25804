import ObjectQuery.Proofs.Parameters.BuiltIn

/-!
# Ledgers of nodes

The mutual induction over nodes: each well-named node is written with its ledger kept. What
is asked of a node is asked of its parts as well, and every part is checked again where it
is resolved, so only calls, targets and projections need to know that they are valid.
-/

namespace ObjectQuery
namespace BuiltIn

open Text Resolution NodeCheck

variable {settings : Settings} {ordered : Prop}

mutual

/-- The library's own answer for a node keeps its ledger. -/
theorem answer_ledger (readable : settings.dialect.IsReadable) :
    (node : Expression) → (named : wellNamed.expression node) →
      (still : ordered → unbound.expression node) → (valid : Validation.expression node = .ok ()) →
      {before : Context} → before.Ready settings.dialect →
      (answer .standard node).Ensures settings before (Answers settings ordered node.slots before)
  | .path found, named, _, _, _, ready => by
      simp only [NodeCheck.expression] at named
      simp only [answer, Expression.slots]
      exact (path_writes readable ordered ready named).answers
  | .constant value, _, _, _, _, ready => by
      simp only [answer, Expression.slots]
      exact (constant_writes readable ordered ready value).answers
  | .function call, named, still, valid, _, ready => by
      simp only [NodeCheck.expression] at named still
      simp only [Validation.expression] at valid
      simp only [answer, Expression.slots]
      exact (function_writes readable call named still valid ready).answers
  | .subQuery query, named, still, _, _, ready => by
      simp only [NodeCheck.expression] at named still
      simp only [answer, Expression.slots]
      exact (subQuery_writes readable query named still ready).answers
  | .filter condition, named, still, _, _, ready => by
      simp only [NodeCheck.expression] at named still
      simp only [answer, Expression.slots]
      exact filter_ledger readable condition named still ready
  | .sort keys, named, still, _, _, ready => by
      simp only [NodeCheck.expression] at named still
      simp only [answer, Expression.slots]
      refine (sortKeys_ledger readable keys named still ready).bind fun texts after ledger => .pure ?_
      have plain : ∀ {word : String}, word.toList.all isPlainCharacter = true →
          Plain settings.dialect.parameterMarker word := plain_of_all readable.marker
      exact ledger.map fun names each => (plain (by decide)).before
        (each.intercalate (plain (by decide)) (by decide) (by decide))
  | .aggregation found, named, still, _, _, ready => by
      simp only [NodeCheck.expression] at named still
      simp only [answer, Expression.slots]
      exact (aggregation_writes readable found named still ready).answers
  | .projection found, named, still, valid, _, ready => by
      simp only [NodeCheck.expression] at named still
      simp only [Validation.expression] at valid
      simp only [answer, Expression.slots]
      exact plan_answers (projection_ledger readable found named still valid ready)
  | .target found, named, still, valid, _, ready => by
      simp only [NodeCheck.expression] at named still
      simp only [Validation.expression] at valid
      simp only [answer, Expression.slots]
      exact (target_writes readable found named still valid ready).answers
  | .custom node, _, _, _, _, _ => by
      simp only [answer]
      exact .fail _

theorem function_writes (readable : settings.dialect.IsReadable) :
    (call : FunctionCall) → (named : wellNamed.function call) →
      (still : ordered → unbound.function call) → (valid : Validation.function call = .ok ()) →
      {before : Context} → before.Ready settings.dialect →
      Writes settings ordered call.slots before (function .standard call)
  | .mk kind arguments distinct, named, still, valid, _, ready => by
      simp only [NodeCheck.function] at named still
      simp only [function, FunctionCall.slots]
      refine (fragments_ledger readable arguments named still ready).bind
        fun texts after written => ?_
      obtain ⟨length, ledger⟩ := written
      refine (spelled_ensures readable (length.trans (Validation.length_of_function valid)) distinct).weaken
        fun text after' spells => ?_
      obtain ⟨rfl, reads⟩ := spells
      exact ledger.map reads

theorem fragments_ledger (readable : settings.dialect.IsReadable) :
    (nodes : List Expression) → (named : wellNamed.expressions nodes) →
      (still : ordered → unbound.expressions nodes) →
      {before : Context} → before.Ready settings.dialect →
      (fragments .standard nodes).Ensures settings before fun texts after =>
        texts.length = nodes.length ∧
          Ledger settings ordered (Expression.totalSlots nodes) before after
            (ReadsEach settings.dialect.parameterMarker texts)
  | [], _, _, _, ready => by
      simp only [fragments, Expression.totalSlots]
      exact .pure ⟨rfl, .none ready.steady .nil⟩
  | first :: rest, named, still, _, ready => by
      simp only [NodeCheck.expressions] at named still
      simp only [fragments, Expression.totalSlots]
      refine Ensures.bind (fragment_writes fun valid => answer_ledger readable first named.1
        (fun asked => (still asked).1) valid ready) fun text between ledger => ?_
      refine (fragments_ledger readable rest named.2 (fun asked => (still asked).2)
        ledger.ready).bind fun texts after written => .pure ?_
      obtain ⟨length, ledgers⟩ := written
      exact ⟨congrArg (· + 1) length, ledger.andThen ledgers fun names names' => .cons⟩

theorem filter_ledger (readable : settings.dialect.IsReadable) :
    (condition : Filter) → (named : wellNamed.filter condition) →
      (still : ordered → unbound.filter condition) →
      {before : Context} → before.Ready settings.dialect →
      (filter .standard condition).Ensures settings before
        (Answers settings ordered condition.slots before)
  | .isNull operand, named, still, _, ready | .isNotNull operand, named, still, _, ready => by
      simp only [NodeCheck.filter] at named still
      simp only [filter, Filter.slots]
      refine Ensures.bind (fragment_writes fun valid =>
        answer_ledger readable operand named still valid ready) fun text after ledger => .pure ?_
      exact ledger.map fun names reads => (reads_enclose readable.marker operand reads).andThen
        (by decide) (plain_of_all readable.marker (by decide))
  | .compare left operator right, named, still, _, ready => by
      simp only [NodeCheck.filter] at named still
      simp only [filter, Filter.slots]
      refine operands_answer
        (fragment_writes fun valid => answer_ledger readable left named.1
          (fun asked => (still asked).1) valid ready)
        (fun ready => fragment_writes fun valid => answer_ledger readable right named.2
          (fun asked => (still asked).2) valid ready)
        fun reads reads' => ?_
      have symbol : Apart operator.symbol ∧ operator.symbol ≠ "" ∧
          operator.symbol.toList.all isPlainCharacter = true := by
        rcases operator with _ | _ | inclusive | inclusive
        · decide
        · decide
        · cases inclusive <;> decide
        · cases inclusive <;> decide
      exact (reads_enclose readable.marker left reads).joined _ symbol.1 symbol.2.1
        (plain_of_all readable.marker symbol.2.2) (reads_enclose readable.marker right reads')
  | .between operand lower upper, named, still, _, ready => by
      simp only [NodeCheck.filter] at named still
      simp only [filter, Filter.slots]
      refine Ensures.bind (fragment_writes fun valid => answer_ledger readable operand named.1
        (fun asked => (still asked).1) valid ready) fun text between first => ?_
      refine Ensures.bind (withHint_writes (fragment_writes fun valid => answer_ledger readable lower
        named.2.1 (fun asked => (still asked).2.1) valid (first.ready.withHint _)))
        fun lowerText between' second => ?_
      refine Ensures.bind (withHint_writes (fragment_writes fun valid => answer_ledger readable upper
        named.2.2 (fun asked => (still asked).2.2) valid (second.ready.withHint _)))
        fun upperText after third => .pure ?_
      have bounded := first.andThen second fun names names' reads reads' =>
        (reads_enclose readable.marker operand reads).joined " BETWEEN " (by decide) (by decide)
          (plain_of_all readable.marker (by decide)) (reads_enclose readable.marker lower reads')
      exact bounded.andThen third fun names names' reads reads' =>
        reads.joined " AND " (by decide) (by decide) (plain_of_all readable.marker (by decide))
          (reads_enclose readable.marker upper reads')
  | .isIn left right, named, still, _, ready => by
      simp only [NodeCheck.filter] at named still
      simp only [filter, Filter.slots]
      have opening : Opening settings.dialect.parameterMarker " IN (" :=
        opening_of_all readable.marker (by decide : " IN (" = " IN " ++ "(") (by decide)
      exact operands_answer
        (fragment_writes fun valid => answer_ledger readable left named.1
          (fun asked => (still asked).1) valid ready)
        (fun ready => fragment_writes fun valid => answer_ledger readable right named.2
          (fun asked => (still asked).2) valid ready)
        fun reads reads' => (reads_enclose readable.marker left reads).joinedAround readable.marker _
          (by decide) (by decide) opening reads'
  | .isNotIn left right, named, still, _, ready => by
      simp only [NodeCheck.filter] at named still
      simp only [filter, Filter.slots]
      have opening : Opening settings.dialect.parameterMarker " NOT IN (" :=
        opening_of_all readable.marker (by decide : " NOT IN (" = " NOT IN " ++ "(") (by decide)
      exact operands_answer
        (fragment_writes fun valid => answer_ledger readable left named.1
          (fun asked => (still asked).1) valid ready)
        (fun ready => fragment_writes fun valid => answer_ledger readable right named.2
          (fun asked => (still asked).2) valid ready)
        fun reads reads' => (reads_enclose readable.marker left reads).joinedAround readable.marker _
          (by decide) (by decide) opening reads'
  | .stringMatch left value mode ignoreCase, named, still, _, ready => by
      simp only [NodeCheck.filter] at named still
      simp only [filter, Filter.slots]
      refine (matchedText_ensures value).bind ?_
      rintro text _ ⟨-, rfl⟩
      refine Ensures.bind (fragment_writes fun valid =>
        answer_ledger readable left named still valid ready) fun leftText between first => ?_
      have enclosed := first.map fun names reads => reads_enclose readable.marker left reads
      exact (matchText_writes readable enclosed text mode ignoreCase).bind
        fun written after ledger => .pure ledger
  | .and [], _, _, _, _ | .or [], _, _, _, _ => by
      simp only [filter]
      exact .pure trivial
  | .and (first :: rest), named, still, _, ready
  | .or (first :: rest), named, still, _, ready => by
      simp only [NodeCheck.filter, NodeCheck.filters] at named still
      simp only [filter, Filter.slots, Filter.totalSlots]
      refine Ensures.bind (predicate_writes fun _ => filter_ledger readable first named.1
        (fun asked => (still asked).1) ready) fun text between ledger => ?_
      refine (predicates_ledger readable rest named.2 (fun asked => (still asked).2)
        ledger.ready).bind fun texts after ledgers => .pure ?_
      exact ledger.andThen ledgers fun names names' reads each =>
        reads_joinConditions readable.marker (by decide) (.cons reads each)
  | .not condition, named, still, _, ready => by
      simp only [NodeCheck.filter] at named still
      simp only [filter, Filter.slots]
      refine around_answers readable.marker (predicate_writes fun _ =>
        filter_ledger readable condition named still ready) ?_
      exact opening_of_all readable.marker (by decide : "NOT (" = "NOT " ++ "(") (by decide)
  | .hasRows query, named, still, _, ready => by
      simp only [NodeCheck.filter] at named still
      simp only [filter, Filter.slots]
      refine around_answers readable.marker (fragment_writes fun _ =>
        (subQuery_writes readable query named still ready).answers) ?_
      exact opening_of_all readable.marker (by decide : "EXISTS (" = "EXISTS " ++ "(") (by decide)
  | .hasNoRows query, named, still, _, ready => by
      simp only [NodeCheck.filter] at named still
      simp only [filter, Filter.slots]
      refine around_answers readable.marker (fragment_writes fun _ =>
        (subQuery_writes readable query named still ready).answers) ?_
      exact opening_of_all readable.marker (by decide : "NOT EXISTS (" = "NOT EXISTS " ++ "(")
        (by decide)

theorem predicates_ledger (readable : settings.dialect.IsReadable) :
    (conditions : List Filter) → (named : wellNamed.filters conditions) →
      (still : ordered → unbound.filters conditions) →
      {before : Context} → before.Ready settings.dialect →
      (predicates .standard conditions).Ensures settings before fun texts after =>
        Ledger settings ordered (Filter.totalSlots conditions) before after
          (ReadsEach settings.dialect.parameterMarker texts)
  | [], _, _, _, ready => by
      simp only [predicates, Filter.totalSlots]
      exact .pure (.none ready.steady .nil)
  | first :: rest, named, still, _, ready => by
      simp only [NodeCheck.filters] at named still
      simp only [predicates, Filter.totalSlots]
      refine Ensures.bind (predicate_writes fun _ => filter_ledger readable first named.1
        (fun asked => (still asked).1) ready) fun text between ledger => ?_
      refine (predicates_ledger readable rest named.2 (fun asked => (still asked).2)
        ledger.ready).bind fun texts after ledgers => .pure ?_
      exact ledger.andThen ledgers fun names names' => .cons

theorem sortKeys_ledger (readable : settings.dialect.IsReadable) :
    (keys : List SortKey) → (named : wellNamed.sortKeys keys) →
      (still : ordered → unbound.sortKeys keys) →
      {before : Context} → before.Ready settings.dialect →
      (sortKeys .standard keys).Ensures settings before fun texts after =>
        Ledger settings ordered (SortKey.totalSlots keys) before after
          (ReadsEach settings.dialect.parameterMarker texts)
  | [], _, _, _, ready => by
      simp only [sortKeys, SortKey.totalSlots]
      exact .pure (.none ready.steady .nil)
  | first :: rest, named, still, _, ready => by
      simp only [NodeCheck.sortKeys] at named still
      simp only [sortKeys, SortKey.totalSlots]
      refine Ensures.bind (sortKey_writes readable first named.1 (fun asked => (still asked).1)
        ready) fun text between ledger => ?_
      refine (sortKeys_ledger readable rest named.2 (fun asked => (still asked).2)
        ledger.ready).bind fun texts after ledgers => .pure ?_
      exact ledger.andThen ledgers fun names names' => .cons

theorem sortKey_writes (readable : settings.dialect.IsReadable) :
    (key : SortKey) → (named : wellNamed.sortKey key) → (still : ordered → unbound.sortKey key) →
      {before : Context} → before.Ready settings.dialect →
      Writes settings ordered key.slots before (sortKey .standard key)
  | .mk key direction, named, still, _, ready => by
      simp only [NodeCheck.sortKey] at named still
      simp only [sortKey, SortKey.slots]
      refine Ensures.bind (fragment_writes fun valid =>
        answer_ledger readable key named still valid ready) fun text after ledger => .pure ?_
      have keyword : Plain settings.dialect.parameterMarker direction.keyword := by
        refine plain_of_all readable.marker ?_
        cases direction <;> decide
      exact ledger.map fun names reads => by
        simpa using reads.joined " " (by decide) (by decide)
          (plain_of_all readable.marker (by decide)) keyword.reads

theorem aggregation_writes (readable : settings.dialect.IsReadable) :
    (found : Aggregation) → (named : wellNamed.aggregation found) →
      (still : ordered → unbound.aggregation found) →
      {before : Context} → before.Ready settings.dialect →
      Writes settings ordered found.slots before (aggregation .standard found)
  | .mk keys none, named, still, _, ready => by
      simp only [NodeCheck.aggregation, NodeCheck.filterIfAny, and_true] at named still
      simp only [aggregation, Aggregation.slots, Filter.slotsIfAny, Nat.add_zero]
      refine (fragments_ledger readable keys named still ready).bind fun texts after written => .pure ?_
      have plain : ∀ {word : String}, word.toList.all isPlainCharacter = true →
          Plain settings.dialect.parameterMarker word := plain_of_all readable.marker
      exact written.2.map fun names each => (plain (by decide)).before
        (each.intercalate (plain (by decide)) (by decide) (by decide))
  | .mk keys (some condition), named, still, _, ready => by
      simp only [NodeCheck.aggregation, NodeCheck.filterIfAny] at named still
      simp only [aggregation, Aggregation.slots, Filter.slotsIfAny]
      refine (fragments_ledger readable keys named.1 (fun asked => (still asked).1) ready).bind
        fun texts between written => ?_
      refine Ensures.bind (predicate_writes fun _ => filter_ledger readable condition named.2
        (fun asked => (still asked).2) written.2.ready) fun text after ledger => .pure ?_
      have plain : ∀ {word : String}, word.toList.all isPlainCharacter = true →
          Plain settings.dialect.parameterMarker word := plain_of_all readable.marker
      refine written.2.andThen ledger fun names names' each reads => ?_
      have opening : IsWord "GROUP BY " := by decide
      have separator : IsWord ", " := by decide
      have grouping := (plain opening).before
        (each.intercalate (plain separator) (by decide) (by decide))
      exact grouping.joined " HAVING " (by decide) (by decide) (plain (by decide)) reads

theorem projection_ledger (readable : settings.dialect.IsReadable) :
    (found : Projection) → (named : wellNamed.projection found) →
      (still : ordered → unbound.projection found) →
      (valid : Validation.projection found = .ok ()) →
      {before : Context} → before.Ready settings.dialect →
      (projection .standard found).Ensures settings before fun plan after =>
        Ledger settings ordered found.slots before after
          (ReadsPlan settings.dialect.parameterMarker plan)
  | .path found, named, _, valid, _, ready => by
      simp only [NodeCheck.projection] at named
      simp only [Validation.projection] at valid
      simp only [projection, Projection.slots]
      refine Ensures.bind (fragment_writes fun _ => (path_writes readable ordered ready named.2).answers)
        fun text after ledger => .pure ?_
      exact ledger.map fun names reads =>
        readsPlan_scalar readable.marker (aliasName_of_valid_path valid) _ reads
  | .function call, named, still, valid, _, ready => by
      simp only [NodeCheck.projection] at named still
      simp only [Validation.projection] at valid
      simp only [projection, Projection.slots]
      refine Ensures.bind (fragment_writes fun _ => (function_writes readable call named.2
        (fun asked => (still asked).2) valid ready).answers) fun text after ledger => .pure ?_
      exact ledger.map fun names reads => readsPlan_scalar readable.marker (by simp) _ reads
  | .constant value, named, _, _, _, ready => by
      simp only [NodeCheck.projection] at named
      simp only [projection, Projection.slots]
      exact constantPlan_ledger readable ordered ready fun digits equal => named digits (by rw [equal])
  | .target name, _, _, _, _, ready => by
      simp only [projection, Projection.slots]
      exact entityPlan_ledger readable ordered ready name
  | .properties items, named, still, valid, _, ready => by
      simp only [NodeCheck.projection] at named still
      simp only [projection, Projection.slots]
      refine (projectionItems_ledger readable items [] named.2 (fun asked => (still asked).2)
        (properties_of_valid valid) ready).bind fun columns after written => ?_
      obtain ⟨words, ledger⟩ := written
      exact .bindDialect (.pure (ledger.map fun names each =>
        readsPlan_record readable.marker _ words each))
  | .selectAll, _, _, _, _, ready => by
      simp only [projection, Projection.slots]
      exact attributesPlan_ledger readable ordered ready
  | .countAll, _, _, _, _, ready => by
      simp only [projection, Projection.slots]
      exact countPlan_ledger readable ordered ready

theorem projectionItems_ledger (readable : settings.dialect.IsReadable) :
    (items : List NamedProperty) → (earlier : List String) → (named : wellNamed.properties items) →
      (still : ordered → unbound.properties items) →
      (valid : Validation.projectionItems earlier items = .ok ()) →
      {before : Context} → before.Ready settings.dialect →
      (projectionItems .standard items).Ensures settings before fun columns after =>
        (∀ column ∈ columns, IsWord column.1) ∧
          Ledger settings ordered (NamedProperty.totalSlots items) before after
            (ReadsEach settings.dialect.parameterMarker (columns.map fun column => column.2.1))
  | [], _, _, _, _, _, ready => by
      simp only [projectionItems, NamedProperty.totalSlots]
      exact .pure ⟨by simp, .none ready.steady .nil⟩
  | .mk name item :: rest, earlier, named, still, valid, _, ready => by
      simp only [NodeCheck.properties, NodeCheck.property] at named still
      obtain ⟨word, validRest⟩ := projectionItems_of_valid valid
      simp only [projectionItems, projectionItem, NamedProperty.totalSlots, NamedProperty.slots]
      have first : Ensures (do
          let text ← Resolvers.standard.fragment item (answer .standard item)
          return (name, text, item.valueType)) settings _ fun column after =>
            column.1 = name ∧ Ledger settings ordered item.slots _ after
              (Reads settings.dialect.parameterMarker column.2.1) :=
        Ensures.bind (fragment_writes fun valid => answer_ledger readable item named.1
          (fun asked => (still asked).1) valid ready) fun text after ledger => .pure ⟨rfl, ledger⟩
      refine first.bind fun column between written => ?_
      obtain ⟨rfl, ledger⟩ := written
      refine (projectionItems_ledger readable rest _ named.2 (fun asked => (still asked).2)
        validRest ledger.ready).bind fun columns after others => .pure ?_
      obtain ⟨words, ledgers⟩ := others
      refine ⟨?_, ledger.andThen ledgers fun names names' => .cons⟩
      simpa using ⟨word, fun name text type member => words _ member⟩

theorem target_writes (readable : settings.dialect.IsReadable) :
    (found : Target) → (named : wellNamed.target found) →
      (still : ordered → unbound.target found) →
      (valid : Validation.target found = .ok ()) →
      {before : Context} → before.Ready settings.dialect →
      Writes settings ordered found.slots before (target .standard found)
  | .mk name entity given joined, named, still, valid, _, ready => by
      simp only [NodeCheck.target] at named still
      obtain ⟨word, validJoins⟩ := target_of_valid valid
      simp only [target, Target.slots]
      refine (introduce_ensures ready (.mk name entity given joined) named.1 word).bind
        fun binding between introduced => ?_
      obtain ⟨steady, words⟩ := introduced
      refine (joins_ledger readable joined named.2 (fun asked => (still asked).2) validJoins
        steady.ready).bind fun text after ledger => .pure ?_
      exact (ledger.afterSteady steady).map fun names reads =>
        (words.declaration.plain readable.marker).before reads.1

theorem joins_ledger (readable : settings.dialect.IsReadable) :
    (joined : List Join) → (named : wellNamed.joins joined) →
      (still : ordered → unbound.joins joined) →
      (valid : Validation.joins joined = .ok ()) →
      {before : Context} → before.Ready settings.dialect →
      (joins .standard joined).Ensures settings before fun text after =>
        Ledger settings ordered (Join.totalSlots joined) before after
          (ReadsApart settings.dialect.parameterMarker text)
  | [], _, _, _, _, ready => by
      simp only [joins, Join.totalSlots]
      exact .pure (.none ready.steady ⟨Plain.empty.reads, by decide⟩)
  | first :: rest, named, still, valid, _, ready => by
      simp only [NodeCheck.joins] at named still
      obtain ⟨validFirst, validRest⟩ := Validation.of_joins valid
      simp only [joins, Join.totalSlots]
      refine (join_ledger readable first named.1 (fun asked => (still asked).1) validFirst
        ready).bind fun text between ledger => ?_
      refine (joins_ledger readable rest named.2 (fun asked => (still asked).2) validRest
        ledger.ready).bind fun texts after ledgers => .pure ?_
      exact ledger.andThen ledgers fun names names' reads reads' =>
        ⟨reads.1.append reads'.2 reads'.1, reads.2.append reads'.2⟩

theorem join_ledger (readable : settings.dialect.IsReadable) :
    (found : Join) → (named : wellNamed.join found) → (still : ordered → unbound.join found) →
      (valid : Validation.join found = .ok ()) →
      {before : Context} → before.Ready settings.dialect →
      (join .standard found).Ensures settings before fun text after =>
        Ledger settings ordered found.slots before after
          (ReadsApart settings.dialect.parameterMarker text)
  | .mk joinType (.mk name entity given joined) condition, named, still, valid, _, ready => by
      simp only [NodeCheck.join, NodeCheck.target] at named still
      obtain ⟨word, validJoins⟩ := target_of_valid (Validation.target_of_join valid)
      simp only [join, innerJoins, Join.slots, Target.slots]
      refine (introduceJoined_ensures ready joinType (.mk name entity given joined) named.1.1 word).bind
        fun binding between introduced => ?_
      obtain ⟨steady, words⟩ := introduced
      refine (joinCondition_ledger readable condition named.2 (fun asked => (still asked).2)
        steady.ready).bind fun text between' ledger => ?_
      refine (joins_ledger readable joined named.1.2 (fun asked => (still asked).1.2) validJoins
        ledger.ready).bind fun inner after ledger' => .pure ?_
      have keyword : IsWord joinType.keyword := by
        cases joinType <;> decide
      have blank : IsWord " " := by decide
      have declared := ((blank.append keyword).append blank).append words.declaration
      refine (ledger.afterSteady steady).andThen ledger' fun names names' reads reads' => ?_
      refine ⟨((declared.plain readable.marker).before reads.1).append reads'.2 reads'.1, ?_⟩
      simp only [String.append_assoc]
      exact Apart.append_left (by decide) (by decide)

theorem joinCondition_ledger (readable : settings.dialect.IsReadable) :
    (condition : Option Filter) → (named : wellNamed.filterIfAny condition) →
      (still : ordered → unbound.filterIfAny condition) →
      {before : Context} → before.Ready settings.dialect →
      (joinCondition .standard condition).Ensures settings before fun text after =>
        Ledger settings ordered (Filter.slotsIfAny condition) before after
          (ReadsApart settings.dialect.parameterMarker text)
  | none, _, _, _, ready => by
      simp only [joinCondition, Filter.slotsIfAny]
      exact .pure (.none ready.steady ⟨Plain.empty.reads, by decide⟩)
  | some condition, named, still, _, ready => by
      simp only [NodeCheck.filterIfAny] at named still
      simp only [joinCondition, Filter.slotsIfAny]
      refine Ensures.bind (predicate_writes fun _ =>
        filter_ledger readable condition named still ready) fun text after ledger => .pure ?_
      exact ledger.map fun names reads => ⟨(plain_of_all readable.marker (by decide)).before reads,
        Apart.append_left (by decide) (by decide)⟩

theorem subQuery_writes (readable : settings.dialect.IsReadable) :
    (query : SubQuery) → (named : wellNamed.subQuery query) →
      (still : ordered → unbound.subQuery query) →
      {before : Context} → before.Ready settings.dialect →
      Writes settings ordered query.slots before (subQuery .standard query)
  | .mk queried condition selected correlations, named, still, before, ready => by
      simp only [NodeCheck.subQuery] at named still
      simp only [subQuery, SubQuery.slots]
      refine .bindContext (.inChild ?_)
      refine (checkCorrelations_ensures (ready.enter _) correlations).bind ?_
      rintro _ _ rfl
      refine (withTarget_ledger (fragment_writes fun valid =>
        (target_writes readable queried named.1 (fun asked => (still asked).1)
          (by simpa [Expression.validate, Validation.expression] using valid)
          (ready.enter _)).answers) false).bind fun draft between written => ?_
      obtain ⟨missing, ledger⟩ := written
      refine (conditionStage_ledger readable condition named.2.1 (fun asked => (still asked).2.1)
        missing ledger).bind fun draft between' ledger => ?_
      refine (withProjection_ledger readable ledger (plan_writes fun valid =>
        plan_answers (projection_ledger readable selected named.2.2 (fun asked => (still asked).2.2)
          (by simpa [Expression.validate, Validation.expression] using valid) ledger.ready))
        fun asked => ofProjection_of_projection (still asked).2.2).bind
        fun draft between'' written => ?_
      obtain ⟨source, plan, sourced, planned, ledger⟩ := written
      refine (SelectDraft.assemble_ensures sourced planned).bind ?_
      rintro _ _ ⟨rfl, rfl⟩
      exact .pure ⟨ledger.ready.leave ready, ledger.size, ledger.names⟩

theorem conditionStage_ledger (readable : settings.dialect.IsReadable) :
    (condition : Option Filter) → (named : wellNamed.filterIfAny condition) →
      (still : ordered → unbound.filterIfAny condition) →
      {start before : Context} → {slots : Nat} → {draft : SelectDraft} →
      (missing : draft.condition = none ∧ draft.grouping = none ∧ draft.ordering = none) →
      (ledger : Ledger settings ordered slots start before
        (ReadsDraft settings.dialect.parameterMarker draft)) →
      (conditionStage .standard draft condition).Ensures settings before fun draft' after =>
        Ledger settings ordered (slots + Filter.slotsIfAny condition) start after
          (ReadsDraft settings.dialect.parameterMarker draft')
  | none, _, _, _, _, _, _, _, ledger => by
      simp only [conditionStage, Filter.slotsIfAny]
      exact .pure ledger
  | some condition, named, still, _, _, _, _, missing, ledger => by
      simp only [NodeCheck.filterIfAny] at named still
      simp only [conditionStage, Filter.slotsIfAny]
      exact (withFilter_ledger readable missing ledger (predicate_writes fun _ =>
        filter_ledger readable condition named still ledger.ready)).weaken
        fun draft' after written => written.2

end

end BuiltIn
end ObjectQuery
