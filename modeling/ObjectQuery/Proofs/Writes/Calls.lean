import ObjectQuery.Proofs.Ensures
import ObjectQuery.Proofs.Occurrence

/-!
# Calls on the draft of a write

A write is built by calls on its draft: its target is bound, values are assigned, conditions
are added, and the statement is assembled. Any sequence of calls may be tried. Those that are
accepted bind one target first, then assign, then add conditions; the course of such a build
keeps what was written for each call, and in which context.
-/

namespace ObjectQuery

open Resolution

/-! ## Texts of a list -/

namespace Resolution

variable {item : Type} {settings : Settings} {before between after : Context}

/-- The texts of the items of a list, written one after the other. -/
def each (step : item → Resolution String) : List item → Resolution (List String)
  | [] => return []
  | first :: rest => do
      let text ← step first
      let texts ← each step rest
      return text :: texts

variable {step : item → Resolution String} {items items' : List item} {texts : List String}

/-- The text of the first item and the texts of the others. -/
theorem each_cons_run
    {first : item}
    {text : String}
    (firsts : step first settings before = (.ok text, between))
    (others : each step items settings between = (.ok texts, after)) :
    each step (first :: items) settings before = (.ok (text :: texts), after) := by
  rw [each, bind_run firsts, bind_run others, pure_apply]

theorem length_each
    (run : each step items settings before = (.ok texts, after)) :
    texts.length = items.length := by
  induction items generalizing before texts with
  | nil =>
      obtain ⟨rfl, rfl⟩ : [] = texts ∧ before = after := by simpa [each] using run
      rfl
  | cons first rest inductionHypothesis =>
      obtain ⟨text, between, -, run⟩ := exists_between run
      obtain ⟨texts, between, others, run⟩ := exists_between run
      obtain ⟨rfl, rfl⟩ := by simpa using run
      simp [inductionHypothesis others]

/-- The texts of the items of one list and those of another. -/
theorem exists_of_each_append
    (run : each step (items ++ items') settings before = (.ok texts, after)) :
    ∃ firsts between others,
      each step items settings before = (.ok firsts, between) ∧
        each step items' settings between = (.ok others, after) ∧ texts = firsts ++ others := by
  induction items generalizing before texts with
  | nil => exact ⟨[], before, texts, rfl, run, rfl⟩
  | cons first rest inductionHypothesis =>
      obtain ⟨text, between, written, run⟩ := exists_between run
      obtain ⟨texts, between', restRun, run⟩ := exists_between run
      obtain ⟨rfl, rfl⟩ := by simpa using run
      obtain ⟨firsts, middle, others, firstRun, otherRun, rfl⟩ := inductionHypothesis restRun
      exact ⟨text :: firsts, middle, others, each_cons_run written firstRun, otherRun, rfl⟩

/-- The text of the last item, if there is one, after the texts of those before it. -/
theorem exists_last_of_each
    (run : each step items settings before = (.ok texts, after)) :
    ∃ earlier last firsts between,
      items = earlier ++ last.toList ∧ (last = none → earlier = []) ∧
        each step earlier settings before = (.ok firsts, between) ∧
        each step last.toList settings between = (.ok texts.getLast?.toList, after) := by
  rcases List.eq_nil_or_concat items with rfl | ⟨earlier, last, split⟩
  · obtain ⟨rfl, rfl⟩ : [] = texts ∧ before = after := by simpa [each] using run
    exact ⟨[], none, [], before, rfl, fun _ => rfl, rfl, rfl⟩
  · rw [List.concat_eq_append] at split
    subst split
    obtain ⟨firsts, between, others, firstRun, lastRun, rfl⟩ := exists_of_each_append run
    obtain ⟨text, rfl⟩ := List.length_eq_one_iff.mp (length_each lastRun)
    exact ⟨earlier, some last, firsts, between, rfl, nofun, firstRun, by simpa using lastRun⟩

end Resolution

/-! ## Calls -/

/-- A call on the draft of a write. -/
inductive WriteCall where
  | target (target : Target)
  | set (path : Path) (value : Expression)
  | filter (condition : Filter)

/-- The call that makes an assignment. -/
def WriteCall.assign (assignment : Path × Expression) : WriteCall :=
  .set assignment.1 assignment.2

namespace WriteDraft

variable (registry : Resolvers)

/-- The draft after a call. -/
def perform (draft : WriteDraft) : WriteCall → Resolution WriteDraft
  | .target target => draft.withTarget target
  | .set path value => draft.withAssignment registry path value
  | .filter condition => draft.withFilter registry condition

/-- The draft after calls, one after the other. -/
def performAll (draft : WriteDraft) : List WriteCall → Resolution WriteDraft
  | [] => return draft
  | call :: rest => do
      let draft ← draft.perform registry call
      performAll draft rest

/-- The statement that calls on a new draft build. -/
def build (kind : OperationKind) (calls : List WriteCall) : Resolution String := do
  let draft ← start kind
  let draft ← performAll registry draft calls
  ofExcept draft.assemble

/-- The text of an assignment. -/
def assignment (found : Path × Expression) : Resolution String := do
  let column ← registry.fragmentOf (.path found.1)
  let text ← assigned registry found.1 found.2
  return column ++ "=" ++ text

/-- The text of a condition. -/
def restriction (condition : Filter) : Resolution String :=
  registry.conditionOf (.filter condition)

/-- The words of a statement: the assignments of an update, and a condition if there is one. -/
def wording (kind : OperationKind) (declaration : String) (assignments : List String)
    (condition : Option String) : String :=
  (if kind = .update then
      "UPDATE " ++ declaration ++ " SET " ++ ", ".intercalate assignments
    else
      "DELETE FROM " ++ declaration) ++ SelectDraft.clause "WHERE " condition

variable {registry} {settings : Settings} {before after : Context} {draft draft' : WriteDraft}

/-! ### Steps -/

/-- Only updates and deletes are drafted. -/
theorem start_run
    {kind : OperationKind}
    (run : start kind settings before = (.ok draft, after)) :
    (kind = .update ∨ kind = .delete) ∧ draft = ⟨kind, none, [], none⟩ ∧ before = after := by
  cases kind <;> simp_all [start, Resolution.fail, Resolution.unsupported, eq_comm]

/-- A target is bound once, and without joins. -/
theorem withTarget_run
    {target : Target}
    (run : draft.withTarget target settings before = (.ok draft', after)) :
    draft.declaration = none ∧ target.joins = [] ∧ ∃ binding,
      introduce target settings before = (.ok binding, after) ∧
        draft' = { draft with declaration := some binding.declaration } := by
  unfold withTarget at run
  split at run
  · simp [Resolution.fail] at run
  · next missing =>
      split at run
      · simp [Resolution.unsupported] at run
      · next noJoins =>
          obtain ⟨binding, between, introduced, run⟩ := exists_between run
          obtain ⟨rfl, rfl⟩ := by simpa using run
          exact ⟨by simpa using missing, by simpa using noJoins, binding, introduced, rfl⟩

/-- A value is assigned between the target and the first condition. -/
theorem withAssignment_run
    {path : Path}
    {value : Expression}
    (run : draft.withAssignment registry path value settings before = (.ok draft', after)) :
    draft.declaration ≠ none ∧ draft.condition = none ∧ ∃ text,
      assignment registry (path, value) settings before = (.ok text, after) ∧
        draft' = { draft with assignments := draft.assignments ++ [text] } := by
  unfold withAssignment at run
  split at run
  · simp [Resolution.fail] at run
  · next bound =>
      split at run
      · simp [Resolution.fail] at run
      · next unrestricted =>
          obtain ⟨column, atColumn, columns, run⟩ := exists_between run
          obtain ⟨text, atText, texts, run⟩ := exists_between run
          obtain ⟨rfl, rfl⟩ := by simpa using run
          refine ⟨by simpa using bound, by simpa using unrestricted, column ++ "=" ++ text, ?_, rfl⟩
          rw [assignment, bind_run columns, bind_run texts, pure_apply]

/-- A condition takes the place of the one before it. -/
theorem withFilter_run
    {condition : Filter}
    (run : draft.withFilter registry condition settings before = (.ok draft', after)) :
    draft.declaration ≠ none ∧ ∃ text,
      restriction registry condition settings before = (.ok text, after) ∧
        draft' = { draft with condition := some text } := by
  unfold withFilter at run
  split at run
  · simp [Resolution.fail] at run
  · next bound =>
      obtain ⟨text, between, written, run⟩ := exists_between run
      obtain ⟨rfl, rfl⟩ := by simpa using run
      exact ⟨by simpa using bound, text, written, rfl⟩

/-! ### Runs -/

variable {kind : OperationKind} {declaration : String} {assignments : List String}

/-- Behind a condition only further conditions are accepted, and the last of them is kept. -/
theorem performAll_restricted
    {condition : String}
    {calls : List WriteCall}
    (run : performAll registry ⟨kind, some declaration, assignments, some condition⟩ calls
      settings before = (.ok draft', after)) :
    ∃ conditions texts,
      calls = conditions.map .filter ∧
        each (restriction registry) conditions settings before = (.ok texts, after) ∧
          draft' = ⟨kind, some declaration, assignments,
            some (texts.getLast?.getD condition)⟩ := by
  induction calls generalizing before condition with
  | nil =>
      obtain ⟨rfl, rfl⟩ := by simpa [performAll] using run
      exact ⟨[], [], rfl, rfl, rfl⟩
  | cons call rest inductionHypothesis =>
      obtain ⟨next, between, called, run⟩ := exists_between run
      cases call with
      | target target => exact nomatch (withTarget_run called).1
      | set path value => exact nomatch (withAssignment_run called).2.1
      | filter found =>
          obtain ⟨-, text, written, rfl⟩ := withFilter_run called
          obtain ⟨conditions, texts, rfl, restRun, rfl⟩ := inductionHypothesis run
          exact ⟨found :: conditions, text :: texts, rfl, each_cons_run written restRun,
            by simp [List.getLast?_cons]⟩

/-- Behind the target assignments are accepted up to the first condition. -/
theorem performAll_bound
    {calls : List WriteCall}
    (run : performAll registry ⟨kind, some declaration, assignments, none⟩ calls settings before =
      (.ok draft', after)) :
    ∃ values conditions assigned between texts,
      calls = values.map WriteCall.assign ++ conditions.map .filter ∧
        each (assignment registry) values settings before = (.ok assigned, between) ∧
        each (restriction registry) conditions settings between = (.ok texts, after) ∧
        draft' = ⟨kind, some declaration, assignments ++ assigned, texts.getLast?⟩ := by
  induction calls generalizing before assignments with
  | nil =>
      obtain ⟨rfl, rfl⟩ := by simpa [performAll] using run
      exact ⟨[], [], [], before, [], rfl, rfl, rfl, by simp⟩
  | cons call rest inductionHypothesis =>
      obtain ⟨next, between, called, run⟩ := exists_between run
      cases call with
      | target target => exact nomatch (withTarget_run called).1
      | set path value =>
          obtain ⟨-, -, text, written, rfl⟩ := withAssignment_run called
          obtain ⟨values, conditions, assigned, middle, texts, rfl, assigns, restricts, rfl⟩ :=
            inductionHypothesis run
          exact ⟨(path, value) :: values, conditions, text :: assigned, middle, texts, rfl,
            each_cons_run written assigns, restricts, by simp⟩
      | filter found =>
          obtain ⟨-, text, written, rfl⟩ := withFilter_run called
          obtain ⟨conditions, texts, rfl, restricts, rfl⟩ := performAll_restricted run
          exact ⟨[], found :: conditions, [], before, text :: texts, rfl, rfl,
            each_cons_run written restricts, by simp [List.getLast?_cons]⟩

theorem assemble_eq_ok_iff
    {text : String}
    {condition : Option String} :
    assemble ⟨kind, some declaration, assignments, condition⟩ = .ok text ↔
      (kind = .update → assignments ≠ []) ∧
        text = wording kind declaration assignments condition := by
  unfold assemble wording
  by_cases isUpdate : kind = .update <;> cases assignments <;> simp [isUpdate, eq_comm]

end WriteDraft

/-! ## Courses -/

/-- The course of a build: the calls that were accepted, and what was written for each of them
in which context. Every condition but the last one is overwritten. -/
structure WriteCourse (registry : Resolvers) (calls : List WriteCall) (settings : Settings)
    (before after : Context) where
  target : Target
  values : List (Path × Expression)
  overwritten : List Filter
  condition : Option Filter
  accepted : calls = .target target ::
    (values.map WriteCall.assign ++ (overwritten ++ condition.toList).map .filter)
  /-- A condition is overwritten by another one. -/
  last : condition = none → overwritten = []
  binding : BoundTarget
  assigned : List String
  lost : List String
  kept : Option String
  atTarget : Context
  atValues : Context
  atCondition : Context
  introduces : introduce target settings before = (.ok binding, atTarget)
  assigns :
    each (WriteDraft.assignment registry) values settings atTarget = (.ok assigned, atValues)
  overwrites :
    each (WriteDraft.restriction registry) overwritten settings atValues = (.ok lost, atCondition)
  keeps :
    each (WriteDraft.restriction registry) condition.toList settings atCondition =
      (.ok kept.toList, after)

namespace WriteCourse

variable
  {registry : Resolvers}
  {calls : List WriteCall}
  {settings : Settings}
  {before after : Context}
  (course : WriteCourse registry calls settings before after)
  (kind : OperationKind)

/-- The texts of all assignments and conditions that were accepted. -/
def clauses : List String :=
  course.assigned ++ (course.lost ++ course.kept.toList)

/-- The texts of the assignments and conditions that the statement of a kind holds. -/
def written : List String :=
  (if kind = .update then course.assigned else []) ++ course.kept.toList

/-- The statement of a kind. -/
def text : String :=
  WriteDraft.wording kind course.binding.declaration course.assigned course.kept

/-- What is written occurs in the text. -/
theorem occurs_text
    {found : String}
    (member : found ∈ course.written kind) :
    Text.Occurs found (course.text kind) := by
  unfold text WriteDraft.wording
  rcases List.mem_append.mp member with assigns | restricts
  · split at assigns
    · next isUpdate =>
        rw [if_pos isUpdate]
        exact ((Text.occurs_intercalate ", " assigns).behind _).before _
    · exact absurd assigns List.not_mem_nil
  · rw [Option.mem_toList.mp restricts, SelectDraft.clause]
    exact ((Text.Occurs.refl found).behind _).behind _

/-- All that was accepted is written only if no delete assigns and no condition follows
another one. -/
theorem written_eq_clauses_iff :
    course.written kind = course.clauses ↔
      (kind = .update ∨ course.values = []) ∧ course.overwritten = [] := by
  have assignedLength := length_each course.assigns
  have lostLength := length_each course.overwrites
  unfold written clauses
  constructor
  · intro same
    have lengths := congrArg List.length same
    simp only [List.length_append] at lengths
    split at lengths
    · next isUpdate =>
        exact ⟨.inl isUpdate, List.eq_nil_of_length_eq_zero (by omega)⟩
    · simp only [List.length_nil] at lengths
      exact ⟨.inr (List.eq_nil_of_length_eq_zero (by omega)),
        List.eq_nil_of_length_eq_zero (by omega)⟩
  · rintro ⟨assigning, nothing⟩
    have noneLost : course.lost = [] :=
      List.eq_nil_of_length_eq_zero (by simp [lostLength, nothing])
    rcases assigning with isUpdate | noValues
    · simp [isUpdate, noneLost]
    · have noneAssigned : course.assigned = [] :=
        List.eq_nil_of_length_eq_zero (by simp [assignedLength, noValues])
      simp [noneLost, noneAssigned]

end WriteCourse

/-- A build that succeeds took the course of its calls. -/
theorem WriteDraft.exists_course
    {registry : Resolvers}
    {kind : OperationKind}
    {calls : List WriteCall}
    {settings : Settings}
    {before after : Context}
    {text : String}
    (run : build registry kind calls settings before = (.ok text, after)) :
    ∃ course : WriteCourse registry calls settings before after,
      (kind = .update ∧ course.values ≠ [] ∨ kind = .delete) ∧ text = course.text kind := by
  obtain ⟨draft, atStart, starts, run⟩ := exists_between run
  obtain ⟨draft', atEnd, performs, assembles⟩ := exists_between run
  obtain ⟨assembled, rfl⟩ := Prod.mk.inj assembles
  obtain ⟨isWrite, rfl, rfl⟩ := start_run starts
  cases calls with
  | nil =>
      obtain ⟨rfl, rfl⟩ := by simpa [performAll] using performs
      simp [assemble] at assembled
  | cons call rest =>
      obtain ⟨next, atTarget, called, performs⟩ := exists_between performs
      cases call with
      | set path value => exact absurd rfl (withAssignment_run called).1
      | filter condition => exact absurd rfl (withFilter_run called).1
      | target target =>
          obtain ⟨-, -, binding, introduces, rfl⟩ := withTarget_run called
          obtain ⟨values, conditions, assigned, atValues, texts, rfl, assigns, restricts, rfl⟩ :=
            performAll_bound performs
          obtain ⟨overwritten, condition, lost, atCondition, rfl, last, overwrites, keeps⟩ :=
            exists_last_of_each restricts
          obtain ⟨assigning, rfl⟩ := assemble_eq_ok_iff.mp assembled
          refine ⟨⟨target, values, overwritten, condition, rfl, last, binding, assigned, lost,
            texts.getLast?, atTarget, atValues, atCondition, introduces, assigns, overwrites,
            keeps⟩, isWrite.imp_left fun isUpdate => ⟨isUpdate, ?_⟩, rfl⟩
          rintro rfl
          exact assigning isUpdate (List.eq_nil_of_length_eq_zero (length_each assigns))

end ObjectQuery
