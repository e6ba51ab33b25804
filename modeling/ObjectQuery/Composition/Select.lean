import ObjectQuery.Resolution.Resolvers

/-!
# Drafts of a select

A select is drafted stage by stage: target, filter, aggregation, sort, projection.
A stage may be left out but never taken after a later one, and none comes before
the target, whose alias the others refer to. A finished draft has a source and a
select list.
-/

namespace ObjectQuery

/-- The stages of a draft. -/
inductive Stage where
  | start
  | target
  | filter
  | aggregation
  | sort
  | projection
  deriving DecidableEq, Repr

namespace Stage

/-- The place of a stage in the order. -/
def rank : Stage → Nat
  | .start => 0
  | .target => 1
  | .filter => 2
  | .aggregation => 3
  | .sort => 4
  | .projection => 5

/-- The name of a stage in messages. -/
def name : Stage → String
  | .start => "start"
  | .target => "target"
  | .filter => "filter"
  | .aggregation => "aggregation"
  | .sort => "sort"
  | .projection => "projection"

end Stage

/-- The clauses of a select so far. -/
structure SelectDraft where
  stage : Stage
  distinct : Bool
  source : Option String
  condition : Option String
  grouping : Option String
  ordering : Option String
  plan : Option ProjectionPlan

/-- A select with the plan of its rows. -/
structure SelectText where
  text : String
  plan : ProjectionPlan

namespace SelectDraft

/-- A draft before its first stage. -/
def start : SelectDraft :=
  ⟨.start, false, none, none, none, none, none⟩

/-- The draft at a later stage. -/
def advance (draft : SelectDraft) (next : Stage) : Except ResolutionError SelectDraft :=
  if next.rank ≤ draft.stage.rank then
    .error (.build (next.name ++ " stage requested after " ++ draft.stage.name ++ " stage"))
  else if draft.stage = .start ∧ next ≠ .target then
    .error (.build (next.name ++ " stage requested before the target is bound"))
  else
    .ok { draft with stage := next }

/-- The draft with equal rows given once or not. -/
def withDistinct (draft : SelectDraft) (distinct : Bool) : SelectDraft :=
  { draft with distinct }

/-- The draft with its source. -/
def withTarget (draft : SelectDraft) (source : Resolution String) : Resolution SelectDraft := do
  let draft ← Resolution.ofExcept (draft.advance .target)
  let text ← source
  return { draft with source := some text }

/-- The draft with the condition on its rows. -/
def withFilter (draft : SelectDraft) (condition : Resolution String) :
    Resolution SelectDraft := do
  let draft ← Resolution.ofExcept (draft.advance .filter)
  let text ← condition
  return { draft with condition := some text }

/-- The draft with its grouping. -/
def withAggregation (draft : SelectDraft) (grouping : Resolution String) :
    Resolution SelectDraft := do
  let draft ← Resolution.ofExcept (draft.advance .aggregation)
  let text ← grouping
  return { draft with grouping := some text }

/-- The draft with its order. -/
def withSort (draft : SelectDraft) (ordering : Resolution String) :
    Resolution SelectDraft := do
  let draft ← Resolution.ofExcept (draft.advance .sort)
  let text ← ordering
  return { draft with ordering := some text }

/-- The draft with the plan of its rows. -/
def withProjection (draft : SelectDraft) (plan : Resolution ProjectionPlan) :
    Resolution SelectDraft := do
  let draft ← Resolution.ofExcept (draft.advance .projection)
  let plan ← plan
  return { draft with plan := some plan }

/-- A clause after a space and its words, if there is one. -/
def clause (words : String) : Option String → String
  | some text => " " ++ words ++ text
  | none => ""

/-- The select that a finished draft makes up. -/
def assemble (draft : SelectDraft) : Except ResolutionError SelectText :=
  match draft.source with
  | none => .error (.build "from clause is empty")
  | some source =>
      if Text.isBlank source then
        .error (.build "from clause is empty")
      else
        match draft.plan with
        | none => .error (.build "select list is empty")
        | some plan =>
            if plan.selections.isEmpty then
              .error (.build "select list is empty")
            else
              let text :=
                "SELECT " ++ (if draft.distinct then "DISTINCT " else "") ++ plan.selectList ++
                  " FROM " ++ source ++ clause "WHERE " draft.condition ++
                  clause "" draft.grouping ++ clause "" draft.ordering
              .ok ⟨text, plan⟩

end SelectDraft
end ObjectQuery
