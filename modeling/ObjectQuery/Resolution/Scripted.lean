import ObjectQuery.Resolution.Resolvers

/-!
# Scripted resolvers

A resolver that does the same thing for every node it is asked about: it binds some
values and then passes, gives a fixed answer, or fails. Paths may be left alone
unless their name starts in a given way.
-/

namespace ObjectQuery

/-- What a scripted resolver does after it has bound its values. -/
inductive ScriptedAction where
  | pass
  | answer (resolved : Resolved)
  | fail (reason : String)

namespace Resolver

/-- Whether a node is a path whose name does not start with a text. -/
def leavesAlone (start : Option String) : Expression → Bool
  | .path path =>
      match start with
      | some start => !Text.beginsWith path.name start
      | none => false
  | _ => false

/-- Values bound one after the other, each with its own type. -/
def bindAll : List Value → Resolution Unit
  | [] => return ()
  | value :: rest => do
      let _ ← Resolution.newParameter value value.valueType
      bindAll rest

/-- A resolver that follows a script. -/
def scripted (kind : ExpressionKind) (output : OutputKind) (start : Option String)
    (bound : List Value) (action : ScriptedAction) : Resolver where
  name := "scripted"
  kind := kind
  output := output
  answer := fun expression =>
    if leavesAlone start expression then
      return none
    else do
      bindAll bound
      match action with
      | .pass => return none
      | .answer resolved => return some resolved
      | .fail reason => Resolution.fail (.build reason)

end Resolver

/-- A plan of array rows with given fragments, read as one value or as one column. -/
def ProjectionPlan.scripted (fragments : List String) (column : Option Nat) : ProjectionPlan :=
  ⟨fragments.map fun fragment => ⟨fragment, none⟩, .array,
    match column with
    | none => .scalar .any
    | some position => .record [⟨"c", none, position, .any⟩]⟩

end ObjectQuery
