import ObjectQuery.Compiler.Basic
import ObjectQuery.Proofs.Aliases.Visible
import ObjectQuery.Proofs.Bare.Text
import ObjectQuery.Proofs.Vacuity.Statement
import ObjectQuery.Sample

/-!
# Writes with and without an alias

An update or delete without sub-queries that is composed with an alias of its target is
composed without it, unless one of its paths names the target by nothing but the alias. The
parameters are the same, and the text is that of the aliased write with the alias left out
everywhere. An alias that is given up does not stay a name of the target.
-/

namespace ObjectQuery

/-- The path of an inquiry, if it is about one. -/
def Inquiry.path? (inquiry : Inquiry) : Option Path :=
  match inquiry.node with
  | .path found => some found
  | _ => none

/-- The paths that are resolved for an operation, in order. -/
def Operation.paths (operation : Operation) : List Path :=
  operation.inquiries.filterMap Inquiry.path?

theorem Operation.forall_paths_iff {operation : Operation} {binding : BoundTarget} :
    (∀ found ∈ operation.paths, found.StaysWith binding) ↔
      ∀ inquiry ∈ operation.inquiries, inquiry.StaysWith binding := by
  have isPath (inquiry : Inquiry) (found : Path) :
      inquiry.path? = some found ↔ inquiry.node = .path found := by
    unfold Inquiry.path?
    split
    · next given => simp [given]
    · next other =>
        simp only [reduceCtorEq, false_iff]
        exact other found
  simp only [paths, List.mem_filterMap, isPath, Inquiry.StaysWith]
  exact ⟨fun all inquiry member found given => all found ⟨inquiry, member, given⟩,
    fun all found ⟨inquiry, member, given⟩ => all inquiry member found given⟩

open Resolution

variable {settings : Settings} {binding : BoundTarget}

/-! ## Drafts of writes -/

namespace WriteDraft

/-- Drafts with the same clauses, which may be written differently. -/
structure Parallel (draft draft' : WriteDraft) : Prop where
  kind : draft'.kind = draft.kind
  declaration : draft'.declaration.isSome = draft.declaration.isSome
  assignments : draft'.assignments.length = draft.assignments.length
  condition : draft'.condition.isSome = draft.condition.isSome

variable {draft draft' : WriteDraft}

theorem assigned_bares {path : Path} {value : Expression} (flat : value.isFlat = true) :
    Bares settings binding (fun _ _ => True) (Inquiry.into 0 value)
      (assigned .standard path value) (assigned .standard path value) := by
  have resolved : Bares settings binding (fun _ _ => True) (Inquiry.into 0 value)
      (Resolution.withHint path.valueType (Resolvers.standard.fragmentOf value))
      (Resolution.withHint path.valueType (Resolvers.standard.fragmentOf value)) := by
    have texts : Bares settings binding Text.SeenAlike (Inquiry.into 0 value)
        (Resolvers.standard.fragmentOf value) (Resolvers.standard.fragmentOf value) :=
      Resolvers.fragment_bares (BuiltIn.answer_bares value flat)
    exact (texts.withHint path.valueType).weaken fun _ _ _ => trivial
  refine .afterEq .dialect fun dialect => ?_
  split
  · next text =>
      split
      · simp only [Inquiry.into, Expression.inquiries]
        exact (Bares.pure trivial).about (by simp)
      · exact resolved
  · exact resolved

theorem withAssignment_bares
    (parallel : draft.Parallel draft')
    {path : Path}
    {value : Expression}
    (flat : value.isFlat = true) :
    Bares settings binding Parallel (Operation.assignmentInquiries (path, value))
      (draft.withAssignment .standard path value) (draft'.withAssignment .standard path value) := by
  have declared : draft'.declaration.isNone = draft.declaration.isNone := by
    simp only [← Option.not_isSome, parallel.declaration]
  unfold withAssignment
  rw [declared, parallel.condition]
  split
  · exact .fail _
  · split
    · exact .fail _
    · have columns : Bares settings binding Text.SeenAlike [⟨0, .path path⟩]
          (Resolvers.standard.fragmentOf (.path path))
          (Resolvers.standard.fragmentOf (.path path)) := by
        have answers : Bares settings binding _ (Inquiry.into 0 (.path path)) _ _ :=
          Resolvers.fragment_bares (BuiltIn.answer_bares (.path path) rfl)
        rwa [Inquiry.into, Expression.inquiries] at answers
      refine columns.bind fun _ _ _ => (assigned_bares flat).andThen fun _ _ _ => .pure ?_
      exact { parallel with assignments := by simp [parallel.assignments] }

theorem withAssignments_bares
    {values : List (Path × Expression)}
    (flat : ∀ assignment ∈ values, assignment.2.isFlat = true)
    (parallel : draft.Parallel draft') :
    Bares settings binding Parallel (values.flatMap Operation.assignmentInquiries)
      (withAssignments .standard draft values) (withAssignments .standard draft' values) := by
  induction values generalizing draft draft' with
  | nil => exact .pure parallel
  | cons assignment rest inductionHypothesis =>
      obtain ⟨first, others⟩ := List.forall_mem_cons.mp flat
      rw [List.flatMap_cons]
      exact (withAssignment_bares parallel first).bind fun _ _ => inductionHypothesis others

theorem filterStage_bares
    {found : Option Filter}
    (flat : ∀ condition ∈ found, condition.isFlat = true)
    (parallel : draft.Parallel draft') :
    Bares settings binding Parallel (Filter.inquiriesIfAny 0 found)
      (Operation.stage (fun draft condition => draft.withFilter .standard condition) draft found)
      (Operation.stage (fun draft condition => draft.withFilter .standard condition) draft'
        found) := by
  cases found with
  | none =>
      rw [Filter.inquiriesIfAny]
      exact .pure parallel
  | some condition =>
      have declared : draft'.declaration.isNone = draft.declaration.isNone := by
        simp only [← Option.not_isSome, parallel.declaration]
      simp only [Operation.stage, withFilter, declared, Filter.inquiriesIfAny]
      split
      · exact .fail _
      · have answers : Bares settings binding _ (⟨0, .filter condition⟩ :: condition.inquiries 0)
            (BuiltIn.filter .standard condition) (BuiltIn.filter .standard condition) :=
          (BuiltIn.filter_bares condition (flat condition rfl)).about (by simp)
        have owns : (Expression.filter condition).validate = .ok () →
            Bares settings binding Resolved.SeenAlike
              (⟨0, .filter condition⟩ :: condition.inquiries 0)
              (BuiltIn.answer .standard (.filter condition))
              (BuiltIn.answer .standard (.filter condition)) := by
          simpa only [BuiltIn.answer] using fun _ => answers
        exact (Resolvers.predicate_bares owns).andThen fun _ _ _ =>
          .pure { parallel with condition := rfl }

theorem assemble_bares (parallel : draft.Parallel draft') :
    Bares settings binding (fun _ _ => True) [] (Resolution.ofExcept draft.assemble)
      (Resolution.ofExcept draft'.assemble) := by
  refine .ofExcept fun text assembled => ?_
  obtain ⟨kinds, declarations, lengths, -⟩ := parallel
  unfold assemble at assembled ⊢
  cases declared : draft.declaration with
  | none => simp [declared] at assembled
  | some declaration =>
      obtain ⟨_, declared'⟩ : ∃ declaration', draft'.declaration = some declaration' := by
        rwa [declared, Option.isSome_some, Option.isSome_iff_exists] at declarations
      simp only [declared, declared', kinds] at assembled ⊢
      split at assembled
      · split at assembled
        · simp at assembled
        · next assigns =>
            have assigns' : draft'.assignments.isEmpty = false := by
              simpa [← List.length_eq_zero_iff, lengths] using assigns
            rw [if_pos ‹_›, if_neg (by simp [assigns'])]
            exact ⟨_, rfl, trivial⟩
      · rw [if_neg ‹_›]
        exact ⟨_, rfl, trivial⟩

end WriteDraft

/-! ## Writes -/

namespace Operation

/-- The steps of a write after its target is bound. -/
theorem clauses_bares
    {operation : Operation}
    {draft draft' : WriteDraft}
    (flat : operation.IsFlat)
    (parallel : draft.Parallel draft') :
    Bares settings binding (fun composed bare => bare.plan = composed.plan)
      (operation.values.flatMap assignmentInquiries ++ Filter.inquiriesIfAny 0 operation.filter)
      (do
        let draft ← WriteDraft.withAssignments .standard draft operation.values
        let draft ← stage (fun draft condition => draft.withFilter .standard condition) draft
          operation.filter
        let text ← ofExcept draft.assemble
        return (⟨text, none⟩ : StatementText))
      (do
        let draft ← WriteDraft.withAssignments .standard draft' operation.values
        let draft ← stage (fun draft condition => draft.withFilter .standard condition) draft
          operation.filter
        let text ← ofExcept draft.assemble
        return (⟨text, none⟩ : StatementText)) := by
  refine (WriteDraft.withAssignments_bares flat.values parallel).bind fun _ _ parallel => ?_
  refine (WriteDraft.filterStage_bares flat.filter parallel).andThen fun _ _ parallel => ?_
  exact (WriteDraft.assemble_bares parallel).after fun _ _ _ => .pure rfl

/-- A write that succeeds with an alias of its target, and the same write without. -/
theorem composeWrite_bares
    {operation : Operation}
    {catalog : Option Catalog}
    {composed : StatementText}
    {after : Context}
    (bulk : operation.kind = .update ∨ operation.kind = .delete)
    (flat : operation.IsFlat)
    (run : operation.composeWrite .standard settings (Context.root .auto catalog) =
      (.ok composed, after)) :
    ∃ binding declared aliasName,
      introduce operation.target settings (Context.root .auto catalog) =
          (.ok binding, declared) ∧
        binding.aliasName = some aliasName ∧
        binding.name = operation.target.name ∧
        BaredEnds binding (fun composed bare => bare.plan = composed.plan) operation.inquiries
          composed after
          (operation.composeWrite .standard settings (Context.root .unsupported catalog)) := by
  have starts (before : Context) : WriteDraft.start operation.kind settings before =
      (.ok ⟨operation.kind, none, [], none⟩, before) := by
    rcases bulk with kind | kind <;> rw [kind] <;> rfl
  unfold composeWrite at run ⊢
  rw [bind_run (starts _)] at run ⊢
  obtain ⟨draft, _, targets, run⟩ := exists_between run
  simp only [WriteDraft.withTarget, Option.isSome_none, Bool.false_eq_true, if_false] at targets
  split at targets
  · simp [Resolution.unsupported] at targets
  · next unjoined =>
      obtain ⟨binding, _, introduced, ends⟩ := exists_between targets
      obtain ⟨rfl, rfl⟩ := by simpa using ends
      obtain ⟨aliasName, bareDeclared, named, sameName, introducedBare, bared⟩ :=
        introduce_root introduced
      refine ⟨binding, _, aliasName, introduced, named, sameName, ?_⟩
      rw [inquiries_of_bulk bulk]
      have parallel : WriteDraft.Parallel ⟨operation.kind, some binding.declaration, [], none⟩
          ⟨operation.kind, some binding.withoutAlias.declaration, [], none⟩ :=
        ⟨rfl, rfl, rfl, rfl⟩
      have ends := clauses_bares flat parallel _ bareDeclared bared composed after run
      have targetsBare : WriteDraft.withTarget ⟨operation.kind, none, [], none⟩ operation.target
          settings (Context.root .unsupported catalog) =
            (.ok ⟨operation.kind, some binding.withoutAlias.declaration, [], none⟩,
              bareDeclared) := by
        simp only [WriteDraft.withTarget, Option.isSome_none, Bool.false_eq_true, if_false]
        rw [if_neg unjoined, bind_run introducedBare]
        rfl
      rw [bind_run targetsBare]
      exact ends

/-- Without an alias for the target of a flat write, its bare text is written. -/
theorem text_of_bulk
    {operation : Operation}
    {catalog : Option Catalog}
    {after : Context}
    (bulk : operation.kind = .update ∨ operation.kind = .delete)
    (flat : operation.IsFlat)
    (rendering : Rendering settings operation.sketch (Context.root .auto catalog) after) :
    ∃ binding declared,
      introduce operation.target settings (Context.root .auto catalog) =
          (.ok binding, declared) ∧
        rendering.bound = [⟨0, binding⟩] ∧
        ∀ final,
          ∀ bareRendering :
            Rendering settings operation.sketch (Context.root .unsupported catalog) final,
          bareRendering.text = rendering.bareText := by
  obtain ⟨opening, rest, sketched, flatRest⟩ := exists_sketch_flat bulk flat
  revert rendering
  rw [sketched]
  exact fun rendering => rendering.text_of_write flatRest

/-- A write without sub-queries that is composed with an alias of its target is composed without
one, if every path that names the target does so by its name or entity. The parameters are the
same, and the text is the same with the alias left out. Otherwise no target is found under the
alias. -/
theorem compose_without_alias
    {operation : Operation}
    {catalog : Option Catalog}
    {composed : StatementText}
    {after : Context}
    (bulk : operation.kind = .update ∨ operation.kind = .delete)
    (unnested : operation.nesting = 0)
    (run : operation.compose .standard settings (Context.root .auto catalog) =
      (.ok composed, after)) :
    ∃ rendering : Rendering settings operation.sketch (Context.root .auto catalog) after,
      rendering.text = composed.text ∧
        ∃ binding declared aliasName,
          introduce operation.target settings (Context.root .auto catalog) =
              (.ok binding, declared) ∧
            rendering.bound = [⟨0, binding⟩] ∧
            binding.name = operation.target.name ∧
            binding.aliasName = some aliasName ∧
            ((∀ found ∈ operation.paths, found.StaysWith binding) →
              ∃ final,
                operation.compose .standard settings (Context.root .unsupported catalog) =
                    (.ok ⟨rendering.bareText, composed.plan⟩, final) ∧
                  final.parameters = after.parameters) ∧
            ((∃ found ∈ operation.paths, ¬ found.StaysWith binding) →
              (operation.compose .standard settings (Context.root .unsupported catalog)).1 =
                .error (.missingTarget aliasName)) := by
  have valid : operation.validate = .ok () := validate_of_compose operation composed after run
  have flat := isFlat_of_nesting bulk valid unnested
  obtain ⟨rendering, written⟩ := compose_guided operation composed after run
  have isWrite : operation.kind.isWrite = true := by
    rcases bulk with kind | kind <;> rw [kind] <;> rfl
  rw [compose_write rfl valid isWrite] at run
  obtain ⟨binding, declared, aliasName, introduced, named, sameName, ends⟩ :=
    composeWrite_bares bulk flat run
  rw [← compose_write rfl valid isWrite] at ends
  obtain ⟨_, _, introduced', bound, texts⟩ := text_of_bulk bulk flat rendering
  obtain ⟨rfl, rfl⟩ := by simpa [introduced] using introduced'
  refine ⟨rendering, written, binding, declared, aliasName, introduced, bound, sameName, named,
    fun stay => ?_, fun leave => ?_⟩
  · rw [forall_paths_iff] at stay
    cases bareRun : operation.compose .standard settings (Context.root .unsupported catalog) with
    | mk outcome final =>
        rw [bareRun] at ends
        cases ends with
        | lost member depends named => exact absurd (stay _ member) depends
        | @kept bare _ _ plans contexts =>
            obtain ⟨bareRendering, bareWritten⟩ := compose_guided operation bare final bareRun
            refine ⟨final, ?_, contexts.parameters⟩
            rw [← texts final bareRendering, bareWritten, ← plans]
  · have notAll : ¬ ∀ inquiry ∈ operation.inquiries, inquiry.StaysWith binding := by
      rw [← forall_paths_iff]
      obtain ⟨found, member, depends⟩ := leave
      exact fun stay => depends (stay found member)
    cases bareRun : operation.compose .standard settings (Context.root .unsupported catalog) with
    | mk outcome final =>
        rw [bareRun] at ends
        cases ends with
        | kept stay _ _ => exact absurd stay notAll
        | lost member depends named' => rw [Option.some.inj (named.symm.trans named')]

/-- Orders with the alias `o` are shipped. Where their status is named after the order, the alias
is left out; where it is named after the alias, the order is not found without it. -/
theorem shipped_without_alias :
    let compiler : Compiler :=
      ⟨.standard .dataNucleus, (Configuration.standard .dataNucleus).dialect, .standard, none⟩
    let shipped (qualifier : String) :=
      (Operation.of .update ((Target.named "order").withAlias "o")).set
        (Sample.status.ofTarget qualifier) (.constant (.string "shipped"))
    (∃ after,
      ∃ rendering :
        Rendering compiler.settings (shipped "order").sketch (Context.root .auto none) after,
        rendering.text = "UPDATE order o SET o.status=:p0001" ∧
          rendering.bareText = "UPDATE order SET status=:p0001") ∧
      (∃ composed after,
        (shipped "o").compose .standard compiler.settings (Context.root .auto none) =
            (.ok composed, after) ∧
          composed.text = "UPDATE order o SET o.status=:p0001") ∧
      ((shipped "o").compose .standard compiler.settings (Context.root .unsupported none)).1 =
        .error (.missingTarget "o") := by
  intro compiler shipped
  have bound (qualifier : String) (binding : BoundTarget) (declared : Context)
      (introduced : introduce (shipped qualifier).target compiler.settings
        (Context.root .auto none) = (.ok binding, declared)) :
      binding = ⟨"order", "order", some "o", []⟩ := by
    cases introduced
    rfl
  have aliased (qualifier : String) (member : qualifier = "order" ∨ qualifier = "o") :
      ∃ composed after,
        (shipped qualifier).compose .standard compiler.settings (Context.root .auto none) =
            (.ok composed, after) ∧
          composed.text = "UPDATE order o SET o.status=:p0001" := by
    have shown : ((shipped qualifier).compose .standard compiler.settings
        (Context.root .auto none)).1.toOption.map StatementText.text =
          some "UPDATE order o SET o.status=:p0001" := by
      rcases member with rfl | rfl <;> decide +kernel
    obtain ⟨composed, succeeds, text⟩ := Except.exists_ok_of_map_toOption shown
    exact ⟨composed, _, Prod.ext succeeds rfl, text⟩
  refine ⟨?_, aliased "o" (.inr rfl), ?_⟩
  · obtain ⟨composed, after, run, text⟩ := aliased "order" (.inl rfl)
    obtain ⟨rendering, written, binding, declared, _, introduced, -, -, -, keeps, -⟩ :=
      compose_without_alias (.inl rfl) (by decide +kernel) run
    obtain rfl := bound _ _ _ introduced
    have stay : ∀ found ∈ (shipped "order").paths,
        found.StaysWith ⟨"order", "order", some "o", []⟩ := by
      refine List.forall_mem_singleton.mpr ?_
      rintro qualifier ⟨⟩
      exact .inl rfl
    obtain ⟨final, bareRun, -⟩ := keeps stay
    have bareText : ((shipped "order").compose .standard compiler.settings
        (Context.root .unsupported none)).1.toOption.map StatementText.text =
          some "UPDATE order SET status=:p0001" := by
      decide +kernel
    rw [bareRun] at bareText
    exact ⟨after, rendering, written.trans text, by simpa [Except.toOption] using bareText⟩
  · obtain ⟨composed, after, run, -⟩ := aliased "o" (.inr rfl)
    obtain ⟨rendering, written, binding, declared, _, introduced, -, -, named, -, loses⟩ :=
      compose_without_alias (.inl rfl) (by decide +kernel) run
    obtain rfl := bound _ _ _ introduced
    cases named
    refine loses ⟨Sample.status.ofTarget "o", List.mem_singleton.mpr rfl, fun stays => ?_⟩
    exact absurd (stays "o" rfl) (by simp [BoundTarget.keepsName])

end Operation
end ObjectQuery
