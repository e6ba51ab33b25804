import ObjectQuery.Proofs.Writes.Calls

/-!
# Parts of an operation

What an operation holds beside its target comes in parts, and each kind of statement has a
place for some of them. The parts that have a place are resolved one after the other, and the
words of the statement are put together from their texts.
-/

namespace ObjectQuery

open Resolution

/-! ## Answers that are taken -/

namespace Resolvers

variable
  {settings : Settings}
  {before after : Context}
  {expression : Expression}
  {own : Resolution Resolved}

/-- The run of an answer that ends with a text or a plan. -/
theorem answer_ran (valid : expression.validate = .ok ()) :
    own.Ensures settings before (Resolved.Ensures
      (fun text after => expression.validate = .ok () ∧
        own settings before = (.ok (.fragment text), after))
      (fun plan after => own settings before = (.ok (.projection plan), after))) := by
  intro resolved after run
  cases resolved with
  | fragment text => exact ⟨valid, run⟩
  | emptyPredicate => trivial
  | projection plan => exact run

theorem fragment_run
    {text : String}
    (run : standard.fragment expression own settings before = (.ok text, after)) :
    Text.isBlank text = false ∧ expression.validate = .ok () ∧
      own settings before = (.ok (.fragment text), after) :=
  fragment_ensures answer_ran text after run

theorem predicate_run
    {text : String}
    (run : standard.predicate expression own settings before = (.ok text, after)) :
    Text.isBlank text = false ∧ expression.validate = .ok () ∧
      own settings before = (.ok (.fragment text), after) :=
  predicate_ensures answer_ran text after run

theorem plan_run
    {plan : ProjectionPlan}
    (run : standard.plan expression own settings before = (.ok plan, after)) :
    plan.fault? = none ∧ own settings before = (.ok (.projection plan), after) :=
  plan_ensures answer_ran plan after run

end Resolvers

/-- The select list of a plan without a fault can be seen. -/
theorem ProjectionPlan.isBlank_selectList
    {plan : ProjectionPlan}
    (sound : plan.fault? = none) :
    Text.isBlank plan.selectList = false := by
  unfold fault? at sound
  unfold selectList
  cases selections : plan.selections with
  | nil => simp [selections] at sound
  | cons first rest =>
      have visible : Text.isBlank first.fragment = false := by
        cases blank : Text.isBlank first.fragment with
        | false => rfl
        | true => simp [selections, List.findIdx?_cons, blank] at sound
      refine Text.isBlank_intercalate_cons ?_ _ _
      unfold Selection.render
      split
      · simp [Text.isBlank_append, visible]
      · exact visible

/-! ## Parts -/

/-- A part of an operation that is to be found in its statement. -/
inductive OperationPart where
  /-- Equal rows are given once. -/
  | distinct
  | assignment (found : Path × Expression)
  | filter (condition : Filter)
  | grouping (keys : List Expression)
  | having (condition : Filter)
  | sort (keys : List SortKey)
  | projection (selected : Projection)

/-- The place of a part in a statement. -/
inductive OperationPart.Place where
  /-- Between the first word and the source. -/
  | head
  | assignment
  /-- Behind the source and the assignments. -/
  | clause
  deriving DecidableEq

namespace OperationPart

/-- Where a part has its place. -/
def place : OperationPart → Place
  | .distinct | .projection _ => .head
  | .assignment _ => .assignment
  | .filter _ | .grouping _ | .having _ | .sort _ => .clause

/-- Whether a part says how rows are read, which no write does. -/
def isReading : OperationPart → Bool
  | .assignment _ | .filter _ => false
  | .distinct | .grouping _ | .having _ | .sort _ | .projection _ => true

/-- The words before the text of a part. -/
def words : OperationPart → String
  | .distinct | .assignment _ | .projection _ => ""
  | .filter _ => " WHERE "
  | .grouping _ => " GROUP BY "
  | .having _ => " HAVING "
  | .sort _ => " ORDER BY "

/-- Texts with commas between them. -/
def listed {item : Type} (step : item → Resolution String) (items : List item) :
    Resolution String := do
  let texts ← each step items
  return ", ".intercalate texts

/-- The text of a part. -/
def render : OperationPart → Resolution String
  | .distinct => return "DISTINCT "
  | .assignment found => WriteDraft.assignment .standard found
  | .filter condition | .having condition => Resolvers.standard.conditionOf (.filter condition)
  | .grouping keys => listed Resolvers.standard.fragmentOf keys
  | .sort keys => listed (BuiltIn.sortKey .standard) keys
  | .projection selected => do
      let plan ← Resolvers.standard.planOf (.projection selected)
      return plan.selectList

/-- Parts that were resolved one after the other, each with its text. -/
inductive Written (settings : Settings) :
    List (OperationPart × String) → Context → Context → Prop where
  | nothing {context : Context} : Written settings [] context context
  | next
      {part : OperationPart}
      {text : String}
      {rest : List (OperationPart × String)}
      {before between after : Context}
      (renders : part.render settings before = (.ok text, between))
      (visible : Text.isBlank text = false)
      (others : Written settings rest between after) :
      Written settings ((part, text) :: rest) before after

namespace Written

variable
  {settings : Settings}
  {before between after : Context}
  {part : OperationPart}
  {text : String}
  {written others : List (OperationPart × String)}

theorem one
    (renders : part.render settings before = (.ok text, after))
    (visible : Text.isBlank text = false) :
    Written settings [(part, text)] before after :=
  .next renders visible .nothing

theorem append
    (first : Written settings written before between)
    (second : Written settings others between after) :
    Written settings (written ++ others) before after := by
  induction first with
  | nothing => exact second
  | next renders visible _ inductionHypothesis =>
      exact .next renders visible (inductionHypothesis second)

/-- Every text is that of its part, in one of the contexts in between. -/
theorem exists_render
    (all : Written settings written before after)
    (member : (part, text) ∈ written) :
    Text.isBlank text = false ∧ ∃ atPart atNext,
      part.render settings atPart = (.ok text, atNext) := by
  induction all with
  | nothing => exact nomatch member
  | next renders visible _ inductionHypothesis =>
      rcases List.mem_cons.mp member with same | member
      · obtain ⟨rfl, rfl⟩ := Prod.mk.inj same
        exact ⟨visible, _, _, renders⟩
      · exact inductionHypothesis member

end Written

/-- The texts that stand at a place, each behind its words. -/
def textsAt (place : Place) (written : List (OperationPart × String)) : List String :=
  (written.filter fun found => found.1.place = place).map fun found => found.1.words ++ found.2

theorem textsAt_append (place : Place) (written others : List (OperationPart × String)) :
    textsAt place (written ++ others) = textsAt place written ++ textsAt place others := by
  rw [textsAt, List.filter_append, List.map_append, textsAt, textsAt]

/-- Nothing stands at a place where no part has its place. -/
theorem textsAt_eq_nil
    {place : Place}
    {written : List (OperationPart × String)}
    (elsewhere : ∀ part ∈ written.map Prod.fst, part.place ≠ place) :
    textsAt place written = [] := by
  have none : written.filter (fun found => found.1.place = place) = [] :=
    List.filter_eq_nil_iff.mpr fun found member => by
      simpa using elsewhere found.1 (List.mem_map_of_mem member)
  rw [textsAt, none, List.map_nil]

end OperationPart

/-! ## Kinds of statements -/

namespace OperationKind

/-- Whether the statements of a kind have a place for a part. -/
def expresses : OperationKind → OperationPart → Bool
  | .select, .assignment _ => false
  | .select, _ => true
  | .update, .assignment _ | .update, .filter _ | .delete, .filter _ => true
  | .update, _ | .delete, _ | .insert, _ => false

/-- No write has a place for a part that says how rows are read. -/
theorem expresses_eq_false_of_isReading
    {kind : OperationKind}
    {part : OperationPart}
    (notSelect : kind ≠ .select)
    (isReading : part.isReading = true) :
    kind.expresses part = false := by
  cases kind <;> cases part <;> simp_all [expresses, OperationPart.isReading]

theorem filter_expresses_eq_nil
    {kind : OperationKind}
    {parts : List OperationPart}
    (notSelect : kind ≠ .select)
    (reading : ∀ part ∈ parts, part.isReading = true) :
    parts.filter kind.expresses = [] :=
  List.filter_eq_nil_iff.mpr fun part member => by
    simp [expresses_eq_false_of_isReading notSelect (reading part member)]

/-- Only a select has heads, and only an update has assignments. -/
theorem place_of_expresses
    {kind : OperationKind}
    {part : OperationPart}
    (expressed : kind.expresses part = true) :
    part.place = .clause ∨ kind = .select ∧ part.place = .head ∨
      kind = .update ∧ part.place = .assignment := by
  cases kind <;> cases part <;> simp_all [expresses, OperationPart.place]

/-- The words of a statement, of which there are none for an insert. -/
def wording (kind : OperationKind) (source : String) (written : List (OperationPart × String)) :
    String :=
  let clauses := String.join (OperationPart.textsAt .clause written)
  match kind with
  | .select =>
      "SELECT " ++ String.join (OperationPart.textsAt .head written) ++ " FROM " ++ source ++
        clauses
  | .update =>
      "UPDATE " ++ source ++ " SET " ++
        ", ".intercalate (OperationPart.textsAt .assignment written) ++ clauses
  | .delete => "DELETE FROM " ++ source ++ clauses
  | .insert => ""

/-- A part that has a place in a statement occurs in its words. -/
theorem occurs_wording
    {kind : OperationKind}
    {part : OperationPart}
    {text : String}
    {written : List (OperationPart × String)}
    (expressed : kind.expresses part = true)
    (source : String)
    (member : (part, text) ∈ written) :
    Text.Occurs (part.words ++ text) (kind.wording source written) := by
  have placed : part.words ++ text ∈ OperationPart.textsAt part.place written := by
    simp only [OperationPart.textsAt, List.mem_map, List.mem_filter, decide_eq_true_eq]
    exact ⟨(part, text), ⟨member, rfl⟩, rfl⟩
  have joined := Text.occurs_join placed
  obtain behind | ⟨rfl, atHead⟩ | ⟨rfl, assigning⟩ := place_of_expresses expressed
  · rw [behind] at joined
    cases kind with
    | select | update | delete => exact joined.behind _
    | insert => cases expressed
  · rw [atHead] at joined
    exact (((joined.behind _).before _).before _).before _
  · rw [assigning] at placed
    exact ((Text.occurs_intercalate ", " placed).behind _).before _

end OperationKind

/-! ## Parts of operations -/

/-- The keys of a grouping, and the condition on its groups. -/
def Aggregation.parts : Aggregation → List OperationPart
  | .mk keys having => .grouping keys :: having.toList.map .having

namespace Operation

/-- The clauses of a select that no write has. -/
def readingClauses (operation : Operation) : List OperationPart :=
  operation.aggregation.toList.flatMap Aggregation.parts ++ operation.sort.toList.map .sort

/-- The clauses of a select. -/
def clauseParts (operation : Operation) : List OperationPart :=
  operation.filter.toList.map .filter ++ operation.readingClauses

/-- All parts that an operation holds. -/
def parts (operation : Operation) : List OperationPart :=
  (if operation.distinct then [.distinct] else []) ++
    (operation.values.map .assignment ++
      (operation.clauseParts ++ operation.projection.toList.map .projection))

/-- The parts that stand in the statement of an operation: those that its kind has a place for,
and the projection of a select that names none. -/
def heldParts (operation : Operation) : List OperationPart :=
  operation.parts.filter operation.kind.expresses ++
    if operation.kind = .select ∧ operation.projection = none then
      [.projection Projection.entity]
    else
      []

/-- The text of what a statement reads or changes; a write joins nothing to it. -/
def source (operation : Operation) : Resolution String :=
  if operation.kind = .select then
    Resolvers.standard.fragmentOf (.target operation.target)
  else do
    let binding ← introduce operation.target
    return binding.declaration

variable {operation : Operation}

theorem of_mem_readingClauses {part : OperationPart} (member : part ∈ operation.readingClauses) :
    part.place = .clause ∧ part.isReading = true := by
  simp only [readingClauses, List.mem_append, List.mem_map, List.mem_flatMap] at member
  rcases member with ⟨⟨keys, having⟩, -, member⟩ | ⟨keys, -, rfl⟩
  · rcases List.mem_cons.mp member with rfl | member
    · exact ⟨rfl, rfl⟩
    · obtain ⟨condition, -, rfl⟩ := List.mem_map.mp member
      exact ⟨rfl, rfl⟩
  · exact ⟨rfl, rfl⟩

theorem place_of_mem_clauseParts {part : OperationPart} (member : part ∈ operation.clauseParts) :
    part.place = .clause := by
  rcases List.mem_append.mp member with member | member
  · obtain ⟨condition, -, rfl⟩ := List.mem_map.mp member
    rfl
  · exact (of_mem_readingClauses member).1

/-- A select holds all its parts, and a projection in any case. -/
theorem heldParts_select (isSelect : operation.kind = .select) (noValues : operation.values = []) :
    operation.heldParts =
      (if operation.distinct then [.distinct] else []) ++
        (operation.clauseParts ++
          [.projection (operation.projection.getD Projection.entity)]) := by
  have heads : (if operation.distinct then [OperationPart.distinct] else []).filter
      OperationKind.select.expresses = if operation.distinct then [.distinct] else [] := by
    split <;> rfl
  have clauses : operation.clauseParts.filter OperationKind.select.expresses =
      operation.clauseParts := by
    refine List.filter_eq_self.mpr fun part member => ?_
    have placed := place_of_mem_clauseParts member
    cases part <;> simp_all [OperationKind.expresses, OperationPart.place]
  have projections : (operation.projection.toList.map OperationPart.projection).filter
      OperationKind.select.expresses = operation.projection.toList.map .projection := by
    cases operation.projection <;> rfl
  simp only [heldParts, parts, isSelect, noValues, List.map_nil, List.nil_append,
    List.filter_append, heads, clauses, projections, List.append_assoc]
  cases operation.projection <;> simp

/-- A write holds its assignments and its condition. -/
theorem heldParts_write
    (isWrite : operation.kind = .update ∨ operation.kind = .delete ∧ operation.values = []) :
    operation.heldParts =
      operation.values.map .assignment ++ operation.filter.toList.map .filter := by
  have notSelect : operation.kind ≠ .select := by
    rcases isWrite with isUpdate | ⟨isDelete, -⟩ <;> simp [*]
  have assignments : (operation.values.map OperationPart.assignment).filter
      operation.kind.expresses = operation.values.map .assignment := by
    rcases isWrite with isUpdate | ⟨-, noValues⟩
    · refine List.filter_eq_self.mpr fun part member => ?_
      obtain ⟨found, -, rfl⟩ := List.mem_map.mp member
      rw [isUpdate, OperationKind.expresses]
    · rw [noValues, List.map_nil, List.filter_nil]
  have conditions : (operation.filter.toList.map OperationPart.filter).filter
      operation.kind.expresses = operation.filter.toList.map .filter := by
    refine List.filter_eq_self.mpr fun part member => ?_
    obtain ⟨condition, -, rfl⟩ := List.mem_map.mp member
    rcases isWrite with isUpdate | ⟨isDelete, -⟩ <;> simp [*, OperationKind.expresses]
  -- what is left says how rows are read
  have heads : (if operation.distinct then [OperationPart.distinct] else []).filter
      operation.kind.expresses = [] :=
    OperationKind.filter_expresses_eq_nil notSelect (by split <;> simp [OperationPart.isReading])
  have clauses : operation.readingClauses.filter operation.kind.expresses = [] :=
    OperationKind.filter_expresses_eq_nil notSelect fun _ member =>
      (of_mem_readingClauses member).2
  have projections : (operation.projection.toList.map OperationPart.projection).filter
      operation.kind.expresses = [] :=
    OperationKind.filter_expresses_eq_nil notSelect (by simp [OperationPart.isReading])
  simp only [heldParts, parts, clauseParts, List.filter_append, heads, assignments, conditions,
    clauses, projections, notSelect, false_and, if_false, List.nil_append, List.append_nil]

end Operation
end ObjectQuery
